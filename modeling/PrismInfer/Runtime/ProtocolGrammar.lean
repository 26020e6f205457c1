import PrismInfer.Runtime.WorkerProtocol

/-!
# The lines that move the protocol

A line moves the protocol when it makes one of the four callbacks that report progress:
`context_ready`, `token_consumed`, `heartbeat` and `cooperative_cancel_acknowledged`.
`processProtocolLine_moved` says when it does, in terms of the extractions of the source.

`Documented` is the grammar of the messages as a reader sees it, on the white-space
separated tokens of the line. The extractions accept more than the grammar: a sign before
an unsigned field, two fields in one token, and any remainder after an optional field
that does not parse. Where the fields are plain (`PlainLine`) these are all the lines,
and only there (`documented_iff`).
-/

namespace PrismInfer.Runtime

open PrismInfer.Lib TextStream

/-! ## The callbacks of a line -/

def ProtocolCall.isCallback : ProtocolCall → Bool
  | .contextReady .. | .tokenConsumed .. | .heartbeat .. | .cancelAcknowledged _ => true
  | .cancelRequested .. | .wroteAdmit .. | .wroteCancel _ => false

/-- The callbacks of progress made so far. -/
def ProtocolLoop.callbacks (s : ProtocolLoop) : List ProtocolCall :=
  s.calls.filter ProtocolCall.isCallback

/-- The callback is one of those made from one state to the other. -/
def Moved (s s' : ProtocolLoop) (call : ProtocolCall) : Prop :=
  ∃ made, s'.callbacks = s.callbacks ++ made ∧ call ∈ made

/-- The callback is the only one made. -/
def MovedOnce (s s' : ProtocolLoop) (call : ProtocolCall) : Prop :=
  s'.callbacks = s.callbacks ++ [call]

section Moved

variable {s s' : ProtocolLoop} {call : ProtocolCall}

theorem callbacks_cancel (answers : ProtocolAnswers) (reason : String) (s : ProtocolLoop) :
    (requestProtocolCancel answers reason s).callbacks = s.callbacks := by
  unfold requestProtocolCancel
  dsimp only
  split
  · rfl
  · show List.filter _ (s.calls ++ [_, _]) = List.filter _ s.calls
    rw [List.filter_append]
    exact List.append_nil _

theorem not_moved_cancel (answers : ProtocolAnswers) (reason : String) :
    ¬Moved s (requestProtocolCancel answers reason s) call := by
  rintro ⟨made, hmade, hmem⟩
  rw [callbacks_cancel, List.self_eq_append_right] at hmade
  rw [hmade] at hmem
  cases hmem

theorem MovedOnce.moved_iff {only : ProtocolCall} (h : MovedOnce s s' only) :
    Moved s s' call ↔ call = only := by
  constructor
  · rintro ⟨made, hmade, hmem⟩
    obtain rfl : [only] = made := List.append_cancel_left (h.symm.trans hmade)
    exact List.mem_singleton.1 hmem
  · rintro rfl
    exact ⟨[call], h, List.mem_singleton_self _⟩

theorem MovedOnce.cancel (h : MovedOnce s s' call) (answers : ProtocolAnswers) (reason : String) :
    MovedOnce s (requestProtocolCancel answers reason s') call :=
  (callbacks_cancel answers reason s').trans h

theorem movedOnce_of_calls (hcall : call.isCallback = true) {after : List ProtocolCall}
    (hafter : after.filter ProtocolCall.isCallback = [])
    (h : s'.calls = s.calls ++ call :: after) : MovedOnce s s' call := by
  rw [MovedOnce, ProtocolLoop.callbacks, h, List.filter_append, List.filter_cons, if_pos hcall,
    hafter]
  rfl

variable {c : ProtocolConfig} {answers : ProtocolAnswers} {parsed : TextStream}

/-- Evidence that is parsed, possibly required, and handed to a callback. -/
theorem moved_of_evidence {α : Type} {available : α → Bool} {require : Bool} {found : Option α}
    {made : α → ProtocolCall} (hrefused : found = none → ¬Moved s s' call)
    (hmissing : ∀ evidence, found = some evidence → require ∧ !available evidence →
      ¬Moved s s' call)
    (hcalled : ∀ evidence, found = some evidence → ¬(require ∧ !available evidence) →
      MovedOnce s s' (made evidence)) :
    Moved s s' call ↔ ∃ evidence, found = some evidence ∧
      (require = true → available evidence = true) ∧ call = made evidence := by
  cases found with
  | none =>
    refine iff_of_false (hrefused rfl) ?_
    rintro ⟨evidence, hnone, -⟩
    cases hnone
  | some evidence =>
    by_cases habsent : require ∧ !available evidence
    · refine iff_of_false (hmissing evidence rfl habsent) ?_
      rintro ⟨evidence', hsome, hrequired, -⟩
      cases hsome
      rw [hrequired habsent.1] at habsent
      exact absurd habsent.2 (by decide)
    · rw [(hcalled evidence rfl habsent).moved_iff]
      constructor
      · intro heq
        refine ⟨evidence, rfl, fun hrequire => ?_, heq⟩
        by_contra hmiss
        exact habsent ⟨hrequire, by simpa using hmiss⟩
      · rintro ⟨evidence', hsome, -, heq⟩
        cases hsome
        exact heq

theorem onContextReady_moved : Moved s (onContextReady c answers parsed s) call ↔
    s.state = .awaitContext ∧ ∃ evidence, parseContextEvidence parsed = some evidence ∧
      (c.requireGpuProtocolEvidence = true → evidence.available = true) ∧
      call = .contextReady answers.now evidence answers.grant := by
  unfold onContextReady
  split
  · rename_i hstate
    exact iff_of_false (not_moved_cancel _ _) fun h => hstate h.1
  rename_i hstate
  rw [and_iff_right (not_not.1 hstate)]
  apply moved_of_evidence
  · intro hfound
    rw [hfound]
    exact not_moved_cancel _ _
  · intro evidence hfound hmissing
    rw [hfound]
    dsimp only
    rw [if_pos hmissing]
    exact not_moved_cancel _ _
  intro evidence hfound hpresent
  rw [hfound]
  dsimp only
  rw [if_neg hpresent]
  -- what follows the call to the supervisor makes no other callback
  have hasked : ∀ s' : ProtocolLoop, s'.calls = s.calls ++
      [.contextReady answers.now evidence answers.grant] → MovedOnce s s' _ :=
    fun s' h => movedOnce_of_calls rfl rfl h
  have hwrote : ∀ s' : ProtocolLoop, s'.calls = s.calls ++
      [.contextReady answers.now evidence answers.grant] ++ [.wroteAdmit answers.grant.tokenId
        answers.grant.effectiveCapBytes answers.admitWritten] →
      MovedOnce s s' (.contextReady answers.now evidence answers.grant) := by
    intro s' h
    rw [List.append_assoc] at h
    exact movedOnce_of_calls rfl rfl h
  split
  · exact (hasked _ rfl).cancel _ _
  split
  · exact (hasked _ rfl).cancel _ _
  split
  · exact (hwrote _ rfl).cancel _ _
  · exact hwrote _ rfl

theorem onTokenConsumed_moved : Moved s (onTokenConsumed answers parsed s) call ↔
    s.state = .tokenDelivered ∧ (parsed.unsigned 64).2.good = true ∧
      (parsed.unsigned 64).2.word.2.good = false ∧ (parsed.unsigned 64).1 = s.tokenId.toNat ∧
      call = .tokenConsumed (UInt64.ofNat (parsed.unsigned 64).1) answers.now answers.consumed := by
  unfold onTokenConsumed
  dsimp only
  split
  · rename_i hinvalid
    refine iff_of_false (not_moved_cancel _ _) ?_
    rintro ⟨hstate, hgood, hend, hid, -⟩
    rcases hinvalid with h | h | h | h
    · exact h hstate
    · simp [hgood] at h
    · rw [hend] at h
      cases h
    · exact h hid
  rename_i hvalid
  simp only [not_or, not_not, Bool.not_eq_true', Bool.not_eq_false, Bool.not_eq_true] at hvalid
  have hmade : ∀ s' : ProtocolLoop, s'.calls = s.calls ++ [.tokenConsumed
      (UInt64.ofNat (parsed.unsigned 64).1) answers.now answers.consumed] → MovedOnce s s' _ :=
    fun s' h => movedOnce_of_calls rfl rfl h
  split
  · rw [((hmade _ rfl).cancel _ _).moved_iff]
    simp [hvalid]
  · rw [(hmade _ rfl).moved_iff]
    simp [hvalid]

theorem onHeartbeat_moved : Moved s (onHeartbeat c answers parsed s) call ↔
    s.state = .active ∧ (parsed.unsigned 64).2.good = true ∧
      (parsed.unsigned 64).1 = (s.heartbeatSequence + 1).toNat ∧
      ∃ evidence, parseHeartbeatEvidence c (parsed.unsigned 64).2 = some evidence ∧
        (c.requireGpuProtocolEvidence = true → evidence.available = true) ∧
        call = .heartbeat (UInt64.ofNat (parsed.unsigned 64).1) answers.now evidence
          answers.accepted := by
  unfold onHeartbeat
  dsimp only
  split
  · rename_i hinvalid
    refine iff_of_false (not_moved_cancel _ _) ?_
    rintro ⟨hstate, hgood, hsequence, -⟩
    rcases hinvalid with h | h | h
    · exact h hstate
    · simp [hgood] at h
    · exact h hsequence
  rename_i hvalid
  simp only [not_or, not_not, Bool.not_eq_true', Bool.not_eq_false] at hvalid
  rw [and_iff_right hvalid.1, and_iff_right hvalid.2.1, and_iff_right hvalid.2.2]
  apply moved_of_evidence
  · intro hfound
    rw [hfound]
    exact not_moved_cancel _ _
  · intro evidence hfound hmissing
    rw [hfound]
    dsimp only
    rw [if_pos hmissing]
    exact not_moved_cancel _ _
  intro evidence hfound hpresent
  rw [hfound]
  dsimp only
  rw [if_neg hpresent]
  split
  · exact MovedOnce.cancel (movedOnce_of_calls rfl rfl rfl) _ _
  · exact movedOnce_of_calls rfl rfl rfl

theorem onCancelAck_moved : Moved s (onCancelAck answers parsed s) call ↔
    s.state = .cancelSent ∧ parsed.word.2.good = false ∧
      call = .cancelAcknowledged answers.now := by
  unfold onCancelAck
  split
  · rename_i hinvalid
    refine iff_of_false (not_moved_cancel _ _) ?_
    rintro ⟨hstate, hend, -⟩
    rcases hinvalid with h | h
    · exact h hstate
    · rw [hend] at h
      cases h
  · rename_i hvalid
    simp only [not_or, not_not, Bool.not_eq_true] at hvalid
    have hmade : ∀ s' : ProtocolLoop, s'.calls = s.calls ++ [.cancelAcknowledged answers.now] →
        MovedOnce s s' _ := fun s' h => movedOnce_of_calls rfl rfl h
    rw [(hmade _ rfl).moved_iff]
    simp [hvalid]

/-- What the handler of a message type does with the fields of the line. -/
def Handled (c : ProtocolConfig) (answers : ProtocolAnswers) (parsed : TextStream)
    (s : ProtocolLoop) (type : String) (call : ProtocolCall) : Prop :=
  type = "CONTEXT_READY" ∧ Moved s (onContextReady c answers parsed s) call ∨
  type = "TOKEN_CONSUMED" ∧ Moved s (onTokenConsumed answers parsed s) call ∨
  type = "HEARTBEAT" ∧ Moved s (onHeartbeat c answers parsed s) call ∨
  type = "CANCEL_ACK" ∧ Moved s (onCancelAck answers parsed s) call

/-- The line starts with the version, the type and the nonce; the stream is what is left. -/
def Header (c : ProtocolConfig) (line : List Char) (type : String) (parsed : TextStream) : Prop :=
  (mk line true).word.1 = "PRISMINFER/1" ∧
    (mk line true).word.2.word.1 = type ∧
    (mk line true).word.2.word.2.word = (c.nonce.text, parsed)

/-- **When a line moves the protocol**: it is short, has a header, and its handler makes
the callback. -/
theorem processProtocolLine_moved {line : List Char} :
    Moved s (processProtocolLine c answers line s) call ↔
    ((stripCarriageReturn line).length ≤ 512 ∧ '\r' ∉ stripCarriageReturn line) ∧
      ∃ type parsed, Header c (stripCarriageReturn line) type parsed ∧
        Handled c answers parsed s type call := by
  unfold processProtocolLine
  generalize stripCarriageReturn line = line
  dsimp only
  split
  · rename_i hlong
    refine iff_of_false (not_moved_cancel _ _) ?_
    rintro ⟨⟨hlength, hreturn⟩, -⟩
    exact hlong.elim (fun h => absurd hlength (by omega)) hreturn
  rename_i hshort
  rw [and_iff_right ⟨by omega, fun h => hshort (.inr h)⟩]
  split
  · rename_i hmismatch
    refine iff_of_false (not_moved_cancel _ _) ?_
    rintro ⟨type, parsed, ⟨hversion, -, hnonce⟩, -⟩
    rw [hversion, hnonce] at hmismatch
    simp at hmismatch
  rename_i hmatch
  simp only [not_or, not_not] at hmatch
  have hheader : ∀ type parsed, Header c line type parsed ↔
      (mk line true).word.2.word.1 = type ∧
        (mk line true).word.2.word.2.word.2 = parsed := by
    intro type parsed
    rw [Header, and_iff_right hmatch.1, Prod.ext_iff, and_iff_right hmatch.2]
  simp only [hheader, and_assoc, exists_eq_left', exists_and_left]
  generalize (mk line true).word.2.word.1 = type
  generalize (mk line true).word.2.word.2.word.2 = parsed
  -- the types are distinct, so one handler is left in each branch
  split
  · rename_i htype
    simp [Handled, htype]
  split
  · rename_i htype
    simp [Handled, htype]
  split
  · rename_i htype
    simp [Handled, htype]
  split
  · rename_i htype
    simp [Handled, htype]
  · refine iff_of_false (not_moved_cancel _ _) ?_
    simp_all [Handled]

end Moved

/-! ## Headers and tokens -/

/-- The tokens of a line with the fields. -/
def lineTokens (c : ProtocolConfig) (type : String) (fields : List (List Char)) :
    List (List Char) :=
  "PRISMINFER/1".toList :: type.toList :: c.nonce.text.toList :: fields

theorem tokens_of_header {c : ProtocolConfig} {line : List Char} {type : String}
    {parsed : TextStream} (h : Header c line type parsed) :
    parsed.good = true ∧ tokens line = lineTokens c type (tokens parsed.rest) := by
  obtain ⟨hversion, htype, hnonce⟩ := h
  have hnonempty : c.nonce.text ≠ "" := fun h => c.nonce.nonempty (h ▸ rfl)
  cases htokens : tokens line with
  | nil =>
    rw [(word_of_no_tokens htokens).1] at hversion
    exact absurd hversion (by decide)
  | cons version rest =>
    obtain ⟨after, hword, hafter⟩ := word_of_tokens (s := ⟨line, true⟩) rfl htokens
    rw [hword] at hversion htype hnonce
    cases rest with
    | nil =>
      rw [word_of_failed (word_of_no_tokens hafter).2] at hnonce
      exact absurd (congrArg Prod.fst hnonce).symm hnonempty
    | cons kind rest =>
      obtain ⟨after', hword', hafter'⟩ :=
        word_of_tokens (s := ⟨after, true⟩) rfl hafter
      rw [hword'] at htype hnonce
      cases rest with
      | nil =>
        have hempty := (word_of_no_tokens (s := ⟨after', true⟩) hafter').1
        rw [hnonce] at hempty
        exact absurd hempty hnonempty
      | cons nonce fields =>
        obtain ⟨after'', hword'', hafter''⟩ :=
          word_of_tokens (s := ⟨after', true⟩) rfl hafter'
        rw [hword''] at hnonce
        obtain ⟨hsame, rfl⟩ := Prod.mk.inj hnonce
        refine ⟨rfl, ?_⟩
        rw [lineTokens, ← hversion, ← htype, ← hsame, hafter'']
        simp only [String.toList_ofList]

theorem header_of_tokens {c : ProtocolConfig} {line : List Char} {type : String}
    {fields : List (List Char)} (h : tokens line = lineTokens c type fields) :
    ∃ parsed, Header c line type parsed ∧ parsed.good = true ∧ tokens parsed.rest = fields := by
  obtain ⟨after, hword, hafter⟩ := word_of_tokens (s := ⟨line, true⟩) rfl h
  obtain ⟨after', hword', hafter'⟩ := word_of_tokens (s := ⟨after, true⟩) rfl hafter
  obtain ⟨after'', hword'', hafter''⟩ := word_of_tokens (s := ⟨after', true⟩) rfl hafter'
  refine ⟨⟨after'', true⟩, ⟨?_, ?_, ?_⟩, rfl, hafter''⟩
  · rw [hword]
    exact String.ofList_toList
  · rw [hword, hword']
    exact String.ofList_toList
  · rw [hword, hword', hword'', String.ofList_toList]

/-! ## Fields -/

/-- A plain decimal digit string of the value. -/
def Field (token : List Char) (value : ℕ) : Prop :=
  IsNumeral token = true ∧ digitsValue token = value

/-- A decimal digit string of the value, with an optional sign. -/
def SignedField (token : List Char) (value : ℤ) : Prop :=
  IsSignedNumeral token = true ∧ signedValue token = value

/-- The fields of a `CONTEXT_READY` message. -/
inductive ContextFields : List (List Char) → NativeWorkerContextEvidence → Prop
  | none : ContextFields [] {}
  | all {high low free total : List Char} {luidHigh : Int32} {luidLow : UInt32}
      {freeBytes totalBytes : UInt64} (hhigh : SignedField high luidHigh.toInt)
      (hlow : Field low luidLow.toNat) (hfree : Field free freeBytes.toNat)
      (htotal : Field total totalBytes.toNat) :
      ContextFields [high, low, free, total] ⟨true, luidHigh, luidLow, freeBytes, totalBytes⟩

/-- The fields of a `HEARTBEAT` message after its sequence. -/
inductive HeartbeatFields : List (List Char) → NativeWorkerHeartbeatEvidence → Prop
  | none : HeartbeatFields [] {}
  | all {payload free total : List Char} {payloadBytes freeBytes totalBytes : UInt64}
      (hpayload : Field payload payloadBytes.toNat) (hfree : Field free freeBytes.toNat)
      (htotal : Field total totalBytes.toNat) :
      HeartbeatFields [payload, free, total] ⟨true, payloadBytes, freeBytes, totalBytes⟩

/-- A numeral that a signed 32-bit field holds. -/
def PlainLuidHigh (token : List Char) : Prop :=
  IsSignedNumeral token = true ∧ -2 ^ 31 ≤ signedValue token ∧ signedValue token < 2 ^ 31

/-- Every field is a numeral, and an optional first one fits its variable. -/
def PlainContext : List (List Char) → Prop
  | [] => True
  | high :: rest => PlainLuidHigh high ∧ ∀ token ∈ rest, IsNumeral token = true

def PlainHeartbeat (fields : List (List Char)) : Prop :=
  (∀ token ∈ fields, IsNumeral token = true) ∧
    ∀ payload ∈ fields.head?, digitsValue payload < 2 ^ 64

section Evidence

variable {parsed : TextStream} {fields : List (List Char)}

theorem field_ofNat {token : List Char} (h : IsNumeral token = true)
    (hvalue : digitsValue token < 2 ^ 64) : Field token (UInt64.ofNat (digitsValue token)).toNat :=
  ⟨h, (UInt64.toNat_ofNat_of_lt' hvalue).symm⟩

/-- The last two fields of both messages: where both extractions succeed and no word
follows, they are the only tokens. -/
theorem two_fields (hgood : parsed.good = true) (hfields : tokens parsed.rest = fields)
    (hplain : ∀ token ∈ fields, IsNumeral token = true)
    (hlast : ((parsed.unsigned 64).2.unsigned 64).2.good = true)
    (hend : ((parsed.unsigned 64).2.unsigned 64).2.word.2.good = false) :
    ∃ free total, fields = [free, total] ∧ Field free (UInt64.ofNat (parsed.unsigned 64).1).toNat ∧
      Field total (UInt64.ofNat ((parsed.unsigned 64).2.unsigned 64).1).toNat := by
  rcases unsigned_cases hgood hfields hplain 64 with
    hfail | ⟨free, rest, after, rfl, hfree, hread, hafter⟩
  · rw [unsigned_of_failed hfail] at hlast
    cases hlast
  rw [hread] at hlast hend ⊢
  have hrest : ∀ token ∈ rest, IsNumeral token = true :=
    fun token h => hplain token (List.mem_cons_of_mem _ h)
  rcases unsigned_cases (s := ⟨after, true⟩) rfl hafter hrest 64 with
    hfail | ⟨total, rest, after', rfl, htotal, hread', hafter'⟩
  · rw [hfail] at hlast
    cases hlast
  rw [hread'] at hend ⊢
  have hnone : rest = [] := by
    rw [← hafter']
    by_contra hmore
    rw [(word_good_iff (s := ⟨after', true⟩) rfl).2 hmore] at hend
    cases hend
  subst hnone
  exact ⟨free, total, rfl, field_ofNat (hplain free List.mem_cons_self) hfree,
    field_ofNat (hrest total List.mem_cons_self) htotal⟩

/-- The parser of the evidence and its grammar, on plain fields. -/
theorem contextFields_of_parse {evidence : NativeWorkerContextEvidence} (hgood : parsed.good = true)
    (hfields : tokens parsed.rest = fields) (hplain : PlainContext fields)
    (h : parseContextEvidence parsed = some evidence) : ContextFields fields evidence := by
  unfold parseContextEvidence at h
  dsimp only at h
  cases fields with
  | nil =>
    obtain ⟨hzero, hfailed⟩ := signed_of_no_tokens hfields 32
    rw [if_pos (by simp [hfailed]), hzero] at h
    cases h
    exact .none
  | cons high rest =>
    obtain ⟨⟨hnumeral, hrange⟩, hrest⟩ := hplain
    obtain ⟨after, hhigh, hafter⟩ := @TextStream.signed_of_tokens _ _ _ hgood hfields hnumeral 32
      hrange
    rw [hhigh, if_neg (by simp)] at h
    dsimp only at h
    split at h
    · cases h
    rename_i hvalid
    simp only [not_or, Bool.not_eq_true', Bool.not_eq_false, Bool.not_eq_true] at hvalid
    obtain ⟨hlast, hend, -, -⟩ := hvalid
    cases h
    rcases unsigned_cases (s := ⟨after, true⟩) rfl hafter hrest 32 with
      hfail | ⟨low, rest, after, rfl, hlow, hread, hafter⟩
    · rw [unsigned_of_failed (unsigned_of_failed hfail 64)] at hlast
      cases hlast
    rw [hread] at hlast hend ⊢
    obtain ⟨free, total, rfl, hfree, htotal⟩ := @two_fields ⟨after, true⟩ _ rfl hafter
      (fun token h => hrest token (List.mem_cons_of_mem _ h)) hlast hend
    refine .all ⟨hnumeral, ?_⟩ ⟨hrest low List.mem_cons_self, ?_⟩ hfree htotal
    · exact (Int32.toInt_ofInt_of_le hrange.1 hrange.2).symm
    · exact (UInt32.toNat_ofNat_of_lt' hlow).symm

theorem heartbeatFields_of_parse {c : ProtocolConfig} {evidence : NativeWorkerHeartbeatEvidence}
    (hgood : parsed.good = true) (hfields : tokens parsed.rest = fields)
    (hplain : PlainHeartbeat fields) (h : parseHeartbeatEvidence c parsed = some evidence) :
    HeartbeatFields fields evidence := by
  unfold parseHeartbeatEvidence at h
  dsimp only at h
  cases fields with
  | nil =>
    obtain ⟨hzero, hfailed⟩ := unsigned_of_no_tokens hfields 64
    rw [if_pos (by simp [hfailed]), hzero] at h
    cases h
    exact .none
  | cons payload rest =>
    obtain ⟨hnumerals, hfits⟩ := hplain
    have hnumeral := hnumerals payload List.mem_cons_self
    have hvalue := hfits payload rfl
    obtain ⟨after, hpayload, hafter⟩ := unsigned_of_tokens hgood hfields hnumeral hvalue
    rw [hpayload, if_neg (by simp)] at h
    dsimp only at h
    split at h
    · cases h
    rename_i hvalid
    simp only [not_or, Bool.not_eq_true', Bool.not_eq_false, Bool.not_eq_true] at hvalid
    obtain ⟨hlast, hend, -⟩ := hvalid
    cases h
    obtain ⟨free, total, rfl, hfree, htotal⟩ := @two_fields ⟨after, true⟩ _ rfl hafter
      (fun token h => hnumerals token (List.mem_cons_of_mem _ h)) hlast hend
    exact .all (field_ofNat hnumeral hvalue) hfree htotal

end Evidence

/-! ## The grammar -/

/-- The documented messages: the state they are for, the type, the fields, and the
callback with the values of the fields (include/prisminfer/native_worker.h:209–213). -/
inductive Documented : ProtocolState → String → List (List Char) → ProtocolCall → Prop
  | contextReady {fields : List (List Char)} {now : UInt64}
      {evidence : NativeWorkerContextEvidence} {grant : NativeWorkerAdmissionGrant}
      (hfields : ContextFields fields evidence) :
      Documented .awaitContext "CONTEXT_READY" fields (.contextReady now evidence grant)
  | tokenConsumed {id : List Char} {tokenId now : UInt64} {consumed : Bool}
      (hid : Field id tokenId.toNat) :
      Documented .tokenDelivered "TOKEN_CONSUMED" [id] (.tokenConsumed tokenId now consumed)
  | heartbeat {number : List Char} {fields : List (List Char)} {sequence now : UInt64}
      {evidence : NativeWorkerHeartbeatEvidence} {accepted : Bool}
      (hsequence : Field number sequence.toNat) (hfields : HeartbeatFields fields evidence) :
      Documented .active "HEARTBEAT" (number :: fields) (.heartbeat sequence now evidence accepted)
  | cancelAck {now : UInt64} :
      Documented .cancelSent "CANCEL_ACK" [] (.cancelAcknowledged now)

/-- The line is exactly the tokens of one documented message, after one optional carriage
return at its end. -/
def DocumentedLine (c : ProtocolConfig) (state : ProtocolState) (line : List Char)
    (call : ProtocolCall) : Prop :=
  ∃ type fields, tokens (stripCarriageReturn line) = lineTokens c type fields ∧
    Documented state type fields call

/-- The fields of a message of the type are numerals that the parser takes one by one. -/
def PlainFields (type : String) (fields : List (List Char)) : Prop :=
  if type = "CONTEXT_READY" then PlainContext fields
  else if type = "HEARTBEAT" then
    (∀ token ∈ fields, IsNumeral token = true) ∧ PlainHeartbeat fields.tail
  else ∀ token ∈ fields, IsNumeral token = true

/-- What follows the header of the line is plain. -/
def PlainLine (line : List Char) : Prop :=
  match tokens (stripCarriageReturn line) with
  | _ :: type :: _ :: fields => PlainFields (String.ofList type) fields
  | _ => True

theorem plainLine_of_tokens {c : ProtocolConfig} {line : List Char} {type : String}
    {fields : List (List Char)} (h : tokens (stripCarriageReturn line) = lineTokens c type fields) :
    PlainLine line ↔ PlainFields type fields := by
  rw [PlainLine, h]
  show PlainFields (String.ofList type.toList) fields ↔ _
  rw [String.ofList_toList]

/-- The documented fields are plain. -/
theorem Documented.plain {state : ProtocolState} {type : String} {fields : List (List Char)}
    {call : ProtocolCall} (h : Documented state type fields call) : PlainFields type fields := by
  cases h with
  | contextReady hfields =>
    rw [PlainFields, if_pos rfl]
    cases hfields with
    | none => trivial
    | @all _ _ _ _ luidHigh _ _ _ hhigh hlow hfree htotal =>
      refine ⟨⟨hhigh.1, ?_⟩, ?_⟩
      · rw [hhigh.2]
        exact ⟨luidHigh.le_toInt, luidHigh.toInt_lt⟩
      · simp [hlow.1, hfree.1, htotal.1]
  | tokenConsumed hid =>
    rw [PlainFields, if_neg (by decide), if_neg (by decide)]
    simp [hid.1]
  | heartbeat hsequence hfields =>
    rw [PlainFields, if_neg (by decide), if_pos rfl]
    cases hfields with
    | none =>
      refine ⟨by simp [hsequence.1], by simp, by simp⟩
    | @all _ _ _ payloadBytes _ _ hpayload hfree htotal =>
      refine ⟨by simp [hsequence.1, hpayload.1, hfree.1, htotal.1],
        by simp [hpayload.1, hfree.1, htotal.1], ?_⟩
      rintro payload ⟨⟩
      rw [hpayload.2]
      exact payloadBytes.toNat_lt
  | cancelAck =>
    rw [PlainFields, if_neg (by decide), if_neg (by decide)]
    simp

section Grammar

variable {c : ProtocolConfig} {answers : ProtocolAnswers} {s : ProtocolLoop} {parsed : TextStream}
  {fields : List (List Char)} {type : String} {call : ProtocolCall}

/-- The end of a message: no word is left exactly where no token is. -/
theorem no_tokens_of_end (hgood : parsed.good = true) (hend : parsed.word.2.good = false) :
    tokens parsed.rest = [] := by
  by_contra hmore
  rw [(word_good_iff hgood).2 hmore] at hend
  cases hend

/-- A handler that makes its callback on plain fields was given a documented message. -/
theorem documented_of_handled (hgood : parsed.good = true) (hfields : tokens parsed.rest = fields)
    (hplain : PlainFields type fields) (h : Handled c answers parsed s type call) :
    Documented s.state type fields call := by
  rcases h with ⟨rfl, h⟩ | ⟨rfl, h⟩ | ⟨rfl, h⟩ | ⟨rfl, h⟩
  · obtain ⟨hstate, evidence, hparsed, -, rfl⟩ := onContextReady_moved.1 h
    rw [PlainFields, if_pos rfl] at hplain
    rw [hstate]
    exact .contextReady (contextFields_of_parse hgood hfields hplain hparsed)
  · obtain ⟨hstate, hread, hend, -, rfl⟩ := onTokenConsumed_moved.1 h
    rw [PlainFields, if_neg (by decide), if_neg (by decide)] at hplain
    rcases unsigned_cases hgood hfields hplain 64 with
      hfail | ⟨id, rest, after, rfl, hid, htaken, hafter⟩
    · rw [hfail] at hread
      cases hread
    rw [htaken] at hend ⊢
    have hnone := @no_tokens_of_end ⟨after, true⟩ rfl hend
    obtain rfl : rest = [] := hafter.symm.trans hnone
    rw [hstate]
    exact .tokenConsumed (field_ofNat (hplain id List.mem_cons_self) hid)
  · obtain ⟨hstate, hread, -, evidence, hparsed, -, rfl⟩ := onHeartbeat_moved.1 h
    rw [PlainFields, if_neg (by decide), if_pos rfl] at hplain
    rcases unsigned_cases hgood hfields hplain.1 64 with
      hfail | ⟨number, rest, after, rfl, hnumber, htaken, hafter⟩
    · rw [hfail] at hread
      cases hread
    rw [htaken] at hparsed ⊢
    rw [hstate]
    exact .heartbeat (field_ofNat (hplain.1 number List.mem_cons_self) hnumber)
      (@heartbeatFields_of_parse ⟨after, true⟩ _ _ _ rfl hafter hplain.2 hparsed)
  · obtain ⟨hstate, hend, rfl⟩ := onCancelAck_moved.1 h
    rw [no_tokens_of_end hgood hend] at hfields
    subst hfields
    rw [hstate]
    exact .cancelAck

/-- **The accepted language.** A line that moves the protocol is a documented message of
the state, with the values of its callback and nothing after them, exactly when its
fields are plain. -/
theorem documented_iff {line : List Char}
    (hmoved : Moved s (processProtocolLine c answers line s) call) :
    DocumentedLine c s.state line call ↔ PlainLine line := by
  obtain ⟨-, type, parsed, hheader, hhandled⟩ := processProtocolLine_moved.1 hmoved
  obtain ⟨hgood, htokens⟩ := tokens_of_header hheader
  rw [plainLine_of_tokens htokens]
  constructor
  · rintro ⟨type', fields, htokens', hdocumented⟩
    rw [htokens, lineTokens, lineTokens] at htokens'
    simp only [List.cons.injEq, String.toList_inj, true_and] at htokens'
    obtain ⟨rfl, rfl⟩ := htokens'
    exact hdocumented.plain
  · intro hplain
    exact ⟨type, _, htokens, documented_of_handled hgood rfl hplain hhandled⟩

end Grammar

/-- A sign on an unsigned field: the id of a consumed token written as a negative number
reads as 7. And words where the optional evidence should be: the line announces the
context. -/
theorem undocumented_lines :
    let c : ProtocolConfig := { nonce := Fixture.nonce }
    let delivered : ProtocolLoop := { state := .tokenDelivered, tokenId := 7 }
    let negative := "PRISMINFER/1 TOKEN_CONSUMED " ++ Fixture.nonce.text ++ " -18446744073709551609"
    let words := "PRISMINFER/1 CONTEXT_READY " ++ Fixture.nonce.text ++ " no evidence"
    (Moved delivered (processProtocolLine c {} negative.toList delivered)
        (.tokenConsumed 7 0 false) ∧
      ¬DocumentedLine c .tokenDelivered negative.toList (.tokenConsumed 7 0 false)) ∧
    (Moved {} (processProtocolLine c {} words.toList {}) (.contextReady 0 {} {}) ∧
      ¬DocumentedLine c .awaitContext words.toList (.contextReady 0 {} {})) := by
  intro c delivered negative words
  refine ⟨⟨?_, ?_⟩, ?_, ?_⟩
  · exact ⟨[_], by decide, List.mem_singleton_self _⟩
  · rintro ⟨type, fields, htokens, hdocumented⟩
    have hplain := (plainLine_of_tokens htokens).2 hdocumented.plain
    rw [@plainLine_of_tokens c _ "TOKEN_CONSUMED" ["-18446744073709551609".toList]
      (by decide)] at hplain
    exact absurd (hplain _ (List.mem_singleton_self _)) (by decide)
  · exact ⟨[_], by decide, List.mem_singleton_self _⟩
  · rintro ⟨type, fields, htokens, hdocumented⟩
    have hplain := (plainLine_of_tokens htokens).2 hdocumented.plain
    rw [@plainLine_of_tokens c _ "CONTEXT_READY" ["no".toList, "evidence".toList]
      (by decide)] at hplain
    exact absurd hplain.1.1 (by decide)

theorem documented_iff_on_heartbeat :
    let c : ProtocolConfig :=
      { nonce := Fixture.nonce, expectedPostAdmissionPayloadBytes := 4096
        maximumPostAdmissionPayloadBytes := 4096 }
    let active : ProtocolLoop := { state := .active }
    let line := "PRISMINFER/1 HEARTBEAT " ++ Fixture.nonce.text ++ " 1 4096 10 20\r"
    let call : ProtocolCall := .heartbeat 1 0 ⟨true, 4096, 10, 20⟩ false
    Moved active (processProtocolLine c {} line.toList active) call ∧
      DocumentedLine c .active line.toList call := by
  intro c active line call
  have hmoved : Moved active (processProtocolLine c {} line.toList active) call :=
    ⟨[call], by decide, List.mem_singleton_self _⟩
  refine ⟨hmoved, (documented_iff hmoved).2 ?_⟩
  rw [@plainLine_of_tokens c _ "HEARTBEAT"
    ["1".toList, "4096".toList, "10".toList, "20".toList] (by decide)]
  refine ⟨by decide, by decide, ?_⟩
  rintro payload ⟨⟩
  decide

end PrismInfer.Runtime
