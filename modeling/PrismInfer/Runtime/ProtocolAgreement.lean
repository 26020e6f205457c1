import PrismInfer.Runtime.ProtocolFraming
import PrismInfer.Runtime.ProtocolGrammar

/-!
# The two sides of the protocol

Each side prints lines that the other side parses. The supervisor's side is
`run_native_worker_impl`; the worker's side is the synthetic C2 worker
(tools/prism-c2-synthetic-worker/main.cu), of which this module models what it prints
and how it reads its commands. Every message is words with one blank between them
(`text_words`), so what the other side makes of it follows from its tokens.

All messages are understood but one: the `CANCEL` line carries no reason, and the worker
insists on one (`accepted_iff`).
-/

namespace PrismInfer.Runtime

open PrismInfer.Lib

/-! ## The worker -/

variable (nonce : ProtocolNonce)

/-- What the worker prints when its context is ready (main.cu:157–162). -/
def contextReadyLine (luidHigh : Int32) (luidLow : UInt32) (free total : UInt64) : String :=
  "PRISMINFER/1 CONTEXT_READY " ++ nonce.text ++ " " ++ toString luidHigh ++ " " ++
    toString luidLow ++ " " ++ toString free ++ " " ++ toString total ++ "\n"

/-- main.cu:184–188. -/
def tokenConsumedLine (tokenId : UInt64) : String :=
  "PRISMINFER/1 TOKEN_CONSUMED " ++ nonce.text ++ " " ++ toString tokenId ++ "\n"

/-- `heartbeat` (main.cu:218–225). -/
def heartbeatLine (sequence payloadBytes free total : UInt64) : String :=
  "PRISMINFER/1 HEARTBEAT " ++ nonce.text ++ " " ++ toString sequence ++ " " ++
    toString payloadBytes ++ " " ++ toString free ++ " " ++ toString total ++ "\n"

/-- main.cu:68–69. -/
def cancelAckLine : String :=
  "PRISMINFER/1 CANCEL_ACK " ++ nonce.text ++ "\n"

/-- `std::getline`. -/
def getline (text : List Char) : List Char :=
  text.takeWhile fun c => c ≠ '\n'

/-- `acknowledge_cancel` (main.cu:55–70): whether the line is acknowledged. -/
def acknowledgeCancel (line : List Char) : Bool :=
  let version := (TextStream.mk line true).word
  let type := version.2.word
  let returnedNonce := type.2.word
  let reason := returnedNonce.2.word
  let extra := reason.2.word
  !(!reason.2.good || extra.2.good || version.1 != "PRISMINFER/1" || type.1 != "CANCEL" ||
    returnedNonce.1 != nonce.text || reason.1 == "")

/-- What the worker does with its first command. -/
inductive WorkerReply
  | acknowledged
  | exits (code : ℕ)
  | admitted (tokenId effectiveCap : UInt64)
  deriving DecidableEq

/-- The first command (main.cu:165–183). -/
def firstCommand (payloadBytes : UInt64) (command : List Char) : WorkerReply :=
  if "PRISMINFER/1 CANCEL ".toList <+: command then
    if acknowledgeCancel nonce command then .acknowledged else .exits 17
  else
  let version := (TextStream.mk command true).word
  let type := version.2.word
  let returnedNonce := type.2.word
  let tokenId := returnedNonce.2.unsigned 64
  let effectiveCap := tokenId.2.unsigned 64
  let extra := effectiveCap.2.word
  if !effectiveCap.2.good ∨ extra.2.good ∨ version.1 ≠ "PRISMINFER/1" ∨ type.1 ≠ "ADMIT" ∨
      returnedNonce.1 ≠ nonce.text ∨ tokenId.1 = 0 ∨ effectiveCap.1 < payloadBytes.toNat then
    .exits 18
  else .admitted (UInt64.ofNat tokenId.1) (UInt64.ofNat effectiveCap.1)

/-! ## Messages -/

/-- The messages of both sides, with the values they carry. -/
inductive ProtocolMessage
  | admission (tokenId effectiveCapBytes : UInt64)
  | cancel
  | contextReady (luidHigh : Int32) (luidLow : UInt32) (free total : UInt64)
  | tokenConsumed (tokenId : UInt64)
  | heartbeat (sequence payloadBytes free total : UInt64)
  | cancelAck
  deriving DecidableEq

namespace ProtocolMessage

/-- What is written to the pipe. -/
def text : ProtocolMessage → String
  | .admission tokenId cap => admitLine nonce tokenId cap
  | .cancel => cancelLine nonce
  | .contextReady high low free total => contextReadyLine nonce high low free total
  | .tokenConsumed tokenId => tokenConsumedLine nonce tokenId
  | .heartbeat sequence payload free total => heartbeatLine nonce sequence payload free total
  | .cancelAck => cancelAckLine nonce

def type : ProtocolMessage → String
  | .admission .. => "ADMIT"
  | .cancel => "CANCEL"
  | .contextReady .. => "CONTEXT_READY"
  | .tokenConsumed _ => "TOKEN_CONSUMED"
  | .heartbeat .. => "HEARTBEAT"
  | .cancelAck => "CANCEL_ACK"

/-- What is printed for the fields. -/
def printed : ProtocolMessage → List String
  | .admission tokenId cap => [toString tokenId, toString cap]
  | .cancel => []
  | .contextReady high low free total =>
    [toString high, toString low, toString free, toString total]
  | .tokenConsumed tokenId => [toString tokenId]
  | .heartbeat sequence payload free total =>
    [toString sequence, toString payload, toString free, toString total]
  | .cancelAck => []

def fields (m : ProtocolMessage) : List (List Char) :=
  m.printed.map String.toList

end ProtocolMessage

/-- The bytes of a message's line, without the newline. -/
def messageLine (c : ProtocolConfig) (m : ProtocolMessage) : List Char :=
  spaced (lineTokens c m.type m.fields)

/-- The header of a message, which the source writes with its blanks. -/
def header (type : String) : String :=
  "PRISMINFER/1 " ++ type ++ " "

theorem header_toList (type : String) (rest : List Char) :
    (header type).toList ++ rest =
      "PRISMINFER/1".toList ++ ' ' :: (type.toList ++ ' ' :: rest) := by
  have hversion : "PRISMINFER/1 ".toList = "PRISMINFER/1".toList ++ [' '] := by decide
  rw [header, String.toList_append, String.toList_append, hversion]
  simp only [List.append_assoc, List.cons_append, List.nil_append]
  rfl

/-- The fields of a message, a blank before each, and the newline. -/
def fieldsText : List String → String
  | [] => "\n"
  | field :: fields => " " ++ (field ++ fieldsText fields)

theorem fieldsText_toList (word : List Char) (fields : List String) :
    word ++ (fieldsText fields).toList = spaced (word :: fields.map String.toList) ++ ['\n'] := by
  induction fields generalizing word with
  | nil => rfl
  | cons field fields ih =>
    show word ++ (" " ++ (field ++ fieldsText fields)).toList =
      word ++ ' ' :: spaced (field.toList :: fields.map String.toList) ++ ['\n']
    rw [String.toList_append, String.toList_append, ih]
    simp only [List.append_assoc, List.cons_append]
    rfl

variable (c : ProtocolConfig)

theorem line_words {type start : String} (hstart : start = header type) (fields : List String) :
    (start ++ (c.nonce.text ++ fieldsText fields)).toList =
      spaced (lineTokens c type (fields.map String.toList)) ++ ['\n'] := by
  rw [hstart, String.toList_append, String.toList_append, fieldsText_toList, header_toList]
  show _ = "PRISMINFER/1".toList ++ ' ' :: (type.toList ++ ' ' :: spaced (_ :: _)) ++ ['\n']
  simp only [List.append_assoc, List.cons_append]

theorem text_eq (m : ProtocolMessage) :
    m.text nonce = header m.type ++ (nonce.text ++ fieldsText m.printed) := by
  have hadmission : header "ADMIT" = "PRISMINFER/1 ADMIT " := by decide
  have hcancel : header "CANCEL" = "PRISMINFER/1 CANCEL " := by decide
  have hcontext : header "CONTEXT_READY" = "PRISMINFER/1 CONTEXT_READY " := by decide
  have htoken : header "TOKEN_CONSUMED" = "PRISMINFER/1 TOKEN_CONSUMED " := by decide
  have hheartbeat : header "HEARTBEAT" = "PRISMINFER/1 HEARTBEAT " := by decide
  have hack : header "CANCEL_ACK" = "PRISMINFER/1 CANCEL_ACK " := by decide
  unfold ProtocolMessage.text ProtocolMessage.type ProtocolMessage.printed
  cases m with
  | admission tokenId cap =>
    unfold admitLine
    simp only [hadmission, fieldsText, String.append_assoc]
  | cancel =>
    unfold cancelLine
    simp only [hcancel, fieldsText, String.append_assoc]
  | contextReady high low free total =>
    unfold contextReadyLine
    simp only [hcontext, fieldsText, String.append_assoc]
  | tokenConsumed tokenId =>
    unfold tokenConsumedLine
    simp only [htoken, fieldsText, String.append_assoc]
  | heartbeat sequence payload free total =>
    unfold heartbeatLine
    simp only [hheartbeat, fieldsText, String.append_assoc]
  | cancelAck =>
    unfold cancelAckLine
    simp only [hack, fieldsText, String.append_assoc]

variable (m : ProtocolMessage)

/-- A message is its words, blanks between them and a newline. -/
theorem text_words : (m.text c.nonce).toList = messageLine c m ++ ['\n'] := by
  rw [text_eq, line_words c rfl]
  rfl

variable (x : UInt64)

theorem toList_toString_uint64 : (toString x).toList = Nat.toDigits 10 x.toNat :=
  Nat.toList_repr

theorem toList_toString_uint32 (x : UInt32) : (toString x).toList = Nat.toDigits 10 x.toNat :=
  Nat.toList_repr

theorem toList_toString_int32 (x : Int32) : (toString x).toList = (toString x.toInt).toList :=
  rfl

theorem isNumeral_uint64 : IsNumeral (toString x).toList = true :=
  toList_toString_uint64 x ▸ isNumeral_toDigits _

theorem isNumeral_uint32 (x : UInt32) : IsNumeral (toString x).toList = true :=
  toList_toString_uint32 x ▸ isNumeral_toDigits _

theorem digitsValue_uint64 : digitsValue (toString x).toList = x.toNat :=
  toList_toString_uint64 x ▸ digitsValue_toDigits _

theorem digitsValue_uint32 (x : UInt32) : digitsValue (toString x).toList = x.toNat :=
  toList_toString_uint32 x ▸ digitsValue_toDigits _

/-- Every printed field is a word. -/
theorem words_fields : Words m.fields := by
  have hword64 : ∀ x : UInt64, Solid (toString x).toList ∧ (toString x).toList ≠ [] :=
    fun x => ⟨IsNumeral.solid (isNumeral_uint64 x), IsNumeral.ne_nil (isNumeral_uint64 x)⟩
  have hword32 : ∀ x : UInt32, Solid (toString x).toList ∧ (toString x).toList ≠ [] :=
    fun x => ⟨IsNumeral.solid (isNumeral_uint32 x), IsNumeral.ne_nil (isNumeral_uint32 x)⟩
  have hsigned : ∀ x : Int32, Solid (toString x).toList ∧ (toString x).toList ≠ [] :=
    fun x => IsSignedNumeral.word (signedNumeral_toString x.toInt).1
  cases m <;> simp [Words, ProtocolMessage.fields, ProtocolMessage.printed, hword64, hword32,
    hsigned]

theorem words_line : Words (lineTokens c m.type m.fields) := by
  have htype : Solid m.type.toList ∧ m.type.toList ≠ [] := by
    cases m <;> simp only [ProtocolMessage.type] <;> decide
  intro word hword
  rcases List.mem_cons.1 hword with rfl | hword
  · decide
  rcases List.mem_cons.1 hword with rfl | hword
  · exact htype
  rcases List.mem_cons.1 hword with rfl | hword
  · exact ⟨c.nonce.solid, c.nonce.nonempty⟩
  · exact words_fields m word hword

theorem tokens_messageLine : tokens (messageLine c m) = lineTokens c m.type m.fields :=
  tokens_spaced (words_line c m)

theorem newline_not_mem : '\n' ∉ messageLine c m :=
  not_mem_spaced (words_line c m) (by decide) (by decide)

theorem return_not_mem : '\r' ∉ messageLine c m :=
  not_mem_spaced (words_line c m) (by decide) (by decide)

/-- The reader at the other end gets the line. -/
theorem takeLines_text : takeLines [] (m.text c.nonce).toList = ([messageLine c m], []) := by
  rw [text_words, takeLines_line (newline_not_mem c m)]
  rfl

theorem getline_text : getline (m.text c.nonce).toList = messageLine c m := by
  rw [text_words, getline]
  refine (@takeWhile_append_boundary _ _ _ (fun d hd => ?_) fun d hd => ?_).1
  · have hne : d ≠ '\n' := fun h => newline_not_mem c m (h ▸ hd)
    simpa using hne
  · cases hd
    decide

theorem strip_messageLine : stripCarriageReturn (messageLine c m) = messageLine c m := by
  rw [stripCarriageReturn, if_neg fun h => return_not_mem c m (List.mem_of_getLast? h)]

/-! ## Sending and accepting -/

/-- The message is sent here: the values its sender has, and the state of the loop when
the worker sends it. The worker and the request agree on the payload. -/
def ProtocolMessage.Sent (c : ProtocolConfig) (payloadBytes : UInt64) (s : ProtocolLoop) :
    ProtocolMessage → Prop
  | .admission tokenId cap => tokenId ≠ 0 ∧ payloadBytes ≤ cap
  | .cancel => True
  | .contextReady _ _ free total => s.state = .awaitContext ∧ 0 < total ∧ free ≤ total
  | .tokenConsumed tokenId => s.state = .tokenDelivered ∧ s.tokenId = tokenId
  | .heartbeat sequence payload free total =>
    s.state = .active ∧ sequence = s.heartbeatSequence + 1 ∧ 0 < total ∧ free ≤ total ∧
      payload = payloadBytes ∧ payloadBytes ≠ 0 ∧
      payloadBytes = c.expectedPostAdmissionPayloadBytes ∧
      payloadBytes ≤ c.maximumPostAdmissionPayloadBytes
  | .cancelAck => s.state = .cancelSent

/-- The callback that reports a message of the worker, with all its values. -/
def ProtocolMessage.callback (answers : ProtocolAnswers) : ProtocolMessage → Option ProtocolCall
  | .admission .. | .cancel => none
  | .contextReady high low free total =>
    some (.contextReady answers.now ⟨true, high, low, free, total⟩ answers.grant)
  | .tokenConsumed tokenId => some (.tokenConsumed tokenId answers.now answers.consumed)
  | .heartbeat sequence payload free total =>
    some (.heartbeat sequence answers.now ⟨true, payload, free, total⟩ answers.accepted)
  | .cancelAck => some (.cancelAcknowledged answers.now)

/-- The other side accepts the message and has the same values. -/
def ProtocolMessage.Accepted (c : ProtocolConfig) (payloadBytes : UInt64)
    (answers : ProtocolAnswers) (s : ProtocolLoop) (m : ProtocolMessage) : Prop :=
  match m with
  | .admission tokenId cap =>
    firstCommand c.nonce payloadBytes (getline (m.text c.nonce).toList) = .admitted tokenId cap
  | .cancel => acknowledgeCancel c.nonce (getline (m.text c.nonce).toList) = true
  | _ => ∃ line call, takeLines [] (m.text c.nonce).toList = ([line], []) ∧
    m.callback answers = some call ∧ Moved s (processProtocolLine c answers line s) call

/-- A line to the supervisor is no longer than the supervisor reads. -/
def ProtocolMessage.Short (m : ProtocolMessage) : Prop :=
  match m with
  | .admission .. | .cancel => True
  | _ => (m.text nonce).toList.length ≤ 513

section Accept

variable {c : ProtocolConfig} {answers : ProtocolAnswers} {s : ProtocolLoop} {parsed : TextStream}
  {payloadBytes : UInt64}

section

variable (hgood : parsed.good = true)
include hgood

theorem unsigned_uint64 {x : UInt64} {rest : List (List Char)}
    (h : tokens parsed.rest = (toString x).toList :: rest) :
    ∃ after, parsed.unsigned 64 = (x.toNat, ⟨after, true⟩) ∧ tokens after = rest := by
  have hread := @TextStream.unsigned_of_tokens _ _ _ hgood h (isNumeral_uint64 x) 64
  rw [digitsValue_uint64] at hread
  exact hread x.toNat_lt

theorem unsigned_uint32 {x : UInt32} {rest : List (List Char)}
    (h : tokens parsed.rest = (toString x).toList :: rest) :
    ∃ after, parsed.unsigned 32 = (x.toNat, ⟨after, true⟩) ∧ tokens after = rest := by
  have hread := @TextStream.unsigned_of_tokens _ _ _ hgood h (isNumeral_uint32 x) 32
  rw [digitsValue_uint32] at hread
  exact hread x.toNat_lt

theorem signed_int32 {x : Int32} {rest : List (List Char)}
    (h : tokens parsed.rest = (toString x).toList :: rest) :
    ∃ after, parsed.signed 32 = (x.toInt, ⟨after, true⟩) ∧ tokens after = rest := by
  obtain ⟨hnumeral, hvalue⟩ := signedNumeral_toString x.toInt
  have hread := @TextStream.signed_of_tokens _ _ _ hgood h hnumeral 32
  rw [toList_toString_int32, hvalue] at hread
  exact hread ⟨x.le_toInt, x.toInt_lt⟩

/-- The printed evidence of a context is read back. -/
theorem parseContextEvidence_printed {high : Int32} {low : UInt32} {free total : UInt64}
    (htotal : 0 < total) (hfree : free ≤ total)
    (h : tokens parsed.rest = (ProtocolMessage.contextReady high low free total).fields) :
    parseContextEvidence parsed = some ⟨true, high, low, free, total⟩ := by
  obtain ⟨after₁, hhigh, h₁⟩ := signed_int32 hgood h
  obtain ⟨after₂, hlow, h₂⟩ := @unsigned_uint32 ⟨after₁, true⟩ rfl _ _ h₁
  obtain ⟨after₃, hfreeRead, h₃⟩ := @unsigned_uint64 ⟨after₂, true⟩ rfl _ _ h₂
  obtain ⟨after₄, htotalRead, h₄⟩ := @unsigned_uint64 ⟨after₃, true⟩ rfl _ _ h₃
  have hend := (@TextStream.word_of_no_tokens ⟨after₄, true⟩ h₄).2
  unfold parseContextEvidence
  dsimp only
  rw [hhigh]
  dsimp only
  rw [hlow]
  dsimp only
  rw [hfreeRead]
  dsimp only
  rw [htotalRead]
  dsimp only
  rw [hend]
  have hvalid : ¬((!true) = true ∨ false = true ∨ total.toNat = 0 ∨ free.toNat > total.toNat) := by
    rw [UInt64.lt_iff_toNat_lt] at htotal
    rw [UInt64.le_iff_toNat_le] at hfree
    have hzero : (0 : UInt64).toNat = 0 := rfl
    simp only [Bool.not_true, Bool.false_eq_true, false_or]
    omega
  rw [if_neg (by decide), if_neg hvalid, Int32.ofInt_toInt, UInt32.ofNat_toNat,
    UInt64.ofNat_toNat, UInt64.ofNat_toNat]

/-- The printed evidence of a heartbeat is read back. -/
theorem parseHeartbeatEvidence_printed {payload free total : UInt64} (htotal : 0 < total)
    (hfree : free ≤ total) (hpayload : payload ≠ 0)
    (hexpected : payload = c.expectedPostAdmissionPayloadBytes)
    (hmaximum : payload ≤ c.maximumPostAdmissionPayloadBytes) (h : tokens parsed.rest =
      [(toString payload).toList, (toString free).toList, (toString total).toList]) :
    parseHeartbeatEvidence c parsed = some ⟨true, payload, free, total⟩ := by
  obtain ⟨after₁, hpayloadRead, h₁⟩ := unsigned_uint64 hgood h
  obtain ⟨after₂, hfreeRead, h₂⟩ := @unsigned_uint64 ⟨after₁, true⟩ rfl _ _ h₁
  obtain ⟨after₃, htotalRead, h₃⟩ := @unsigned_uint64 ⟨after₂, true⟩ rfl _ _ h₂
  have hend := (@TextStream.word_of_no_tokens ⟨after₃, true⟩ h₃).2
  unfold parseHeartbeatEvidence
  dsimp only
  rw [hpayloadRead]
  dsimp only
  rw [hfreeRead]
  dsimp only
  rw [htotalRead]
  dsimp only
  rw [hend]
  have hvalid : ¬((!true) = true ∨ false = true ∨ total.toNat = 0 ∨ free.toNat > total.toNat ∨
      payload.toNat = 0 ∨ payload.toNat ≠ c.expectedPostAdmissionPayloadBytes.toNat ∨
      payload.toNat > c.maximumPostAdmissionPayloadBytes.toNat) := by
    rw [UInt64.lt_iff_toNat_lt] at htotal
    rw [UInt64.le_iff_toNat_le] at hfree hmaximum
    rw [Ne, ← UInt64.toNat_inj] at hpayload
    have hzero : (0 : UInt64).toNat = 0 := rfl
    simp only [Bool.not_true, Bool.false_eq_true, false_or, ← hexpected]
    omega
  rw [if_neg (by decide), if_neg hvalid, UInt64.ofNat_toNat, UInt64.ofNat_toNat,
    UInt64.ofNat_toNat]

end

/-- The supervisor makes the callback of a message whose handler makes it, if the line is
not too long. -/
theorem supervisor_accepts_iff {m : ProtocolMessage} {call : ProtocolCall}
    (hcall : m.callback answers = some call)
    (hhandled : ∀ parsed : TextStream, parsed.good = true → tokens parsed.rest = m.fields →
      Handled c answers parsed s m.type call) :
    (∃ line call, takeLines [] (m.text c.nonce).toList = ([line], []) ∧
      m.callback answers = some call ∧ Moved s (processProtocolLine c answers line s) call) ↔
    (m.text c.nonce).toList.length ≤ 513 := by
  have hlength : (m.text c.nonce).toList.length ≤ 513 ↔ (messageLine c m).length ≤ 512 := by
    rw [text_words, List.length_append, List.length_singleton]
    omega
  rw [hlength, takeLines_text]
  constructor
  · rintro ⟨line, call', hline, -, hmoved⟩
    cases hline
    have hshort := (processProtocolLine_moved.1 hmoved).1.1
    rwa [strip_messageLine] at hshort
  · intro hshort
    refine ⟨_, call, rfl, hcall, processProtocolLine_moved.2 ?_⟩
    rw [strip_messageLine]
    obtain ⟨parsed, hheader, hgood, hfields⟩ := header_of_tokens (tokens_messageLine c m)
    exact ⟨⟨hshort, return_not_mem c m⟩, m.type, parsed, hheader, hhandled parsed hgood hfields⟩

/-- The worker reads the values of an admission. -/
theorem firstCommand_admit {tokenId cap : UInt64} (hid : tokenId ≠ 0) (hcap : payloadBytes ≤ cap) :
    firstCommand c.nonce payloadBytes (messageLine c (.admission tokenId cap)) =
      .admitted tokenId cap := by
  -- an admission differs from a cancellation at the first letter of its type
  have hadmission : ¬"PRISMINFER/1 CANCEL ".toList <+: messageLine c (.admission tokenId cap) := by
    rintro ⟨rest, hrest⟩
    have hcancel : ("PRISMINFER/1 CANCEL ".toList ++ rest)[13]? = some 'C' := rfl
    rw [hrest] at hcancel
    have hletter : (messageLine c (.admission tokenId cap))[13]? = some 'A' := by
      show ("PRISMINFER/1".toList ++ ' ' :: ("ADMIT".toList ++ ' ' :: _))[13]? = some 'A'
      rfl
    rw [hletter] at hcancel
    exact absurd hcancel (by decide)
  obtain ⟨parsed, ⟨hversion, htype, hnonce⟩, hgood, hfields⟩ :=
    header_of_tokens (tokens_messageLine c (.admission tokenId cap))
  obtain ⟨after₁, hidRead, h₁⟩ := unsigned_uint64 hgood hfields
  obtain ⟨after₂, hcapRead, h₂⟩ := @unsigned_uint64 ⟨after₁, true⟩ rfl _ _ h₁
  have hend := (@TextStream.word_of_no_tokens ⟨after₂, true⟩ h₂).2
  unfold firstCommand
  rw [if_neg hadmission]
  dsimp only
  rw [hnonce]
  dsimp only
  rw [hidRead]
  dsimp only
  rw [hcapRead]
  dsimp only
  rw [hend, hversion, htype]
  have hvalid : ¬((!true) = true ∨ false = true ∨ "PRISMINFER/1" ≠ "PRISMINFER/1" ∨
      (ProtocolMessage.admission tokenId cap).type ≠ "ADMIT" ∨ c.nonce.text ≠ c.nonce.text ∨
      tokenId.toNat = 0 ∨ cap.toNat < payloadBytes.toNat) := by
    rw [UInt64.le_iff_toNat_le] at hcap
    rw [Ne, ← UInt64.toNat_inj] at hid
    have hzero : (0 : UInt64).toNat = 0 := rfl
    simp only [Bool.not_true, Bool.false_eq_true, ne_eq, not_true_eq_false, false_or,
      ProtocolMessage.type]
    omega
  rw [if_neg hvalid, UInt64.ofNat_toNat, UInt64.ofNat_toNat]

/-- The worker refuses a cancellation without a reason. -/
theorem acknowledgeCancel_cancel : acknowledgeCancel c.nonce (messageLine c .cancel) = false := by
  obtain ⟨parsed, ⟨-, -, hnonce⟩, -, hfields⟩ := header_of_tokens (tokens_messageLine c .cancel)
  have hreason := (TextStream.word_of_no_tokens hfields).2
  unfold acknowledgeCancel
  dsimp only
  rw [hnonce]
  dsimp only
  rw [hreason]
  rfl

/-- **Agreement of the two sides.** A message that is sent is accepted with the same
values, except that the worker accepts no `CANCEL` and the supervisor no line of more than
512 bytes. -/
theorem accepted_iff {m : ProtocolMessage} (hsent : m.Sent c payloadBytes s) :
    m.Accepted c payloadBytes answers s ↔ m ≠ .cancel ∧ m.Short c.nonce := by
  cases m with
  | admission tokenId cap =>
    refine iff_of_true ?_ ⟨nofun, trivial⟩
    show firstCommand c.nonce payloadBytes (getline _) = _
    rw [getline_text]
    exact firstCommand_admit hsent.1 hsent.2
  | cancel =>
    refine iff_of_false ?_ fun h => h.1 rfl
    show ¬acknowledgeCancel c.nonce (getline _) = true
    rw [getline_text, acknowledgeCancel_cancel]
    exact Bool.false_ne_true
  | contextReady high low free total =>
    obtain ⟨hstate, htotal, hfree⟩ := hsent
    rw [and_iff_right nofun]
    refine supervisor_accepts_iff rfl fun parsed hgood hfields => .inl ⟨rfl, ?_⟩
    exact onContextReady_moved.2
      ⟨hstate, _, parseContextEvidence_printed hgood htotal hfree hfields, fun _ => rfl, rfl⟩
  | tokenConsumed tokenId =>
    obtain ⟨hstate, hid⟩ := hsent
    rw [and_iff_right nofun]
    refine supervisor_accepts_iff rfl fun parsed hgood hfields => .inr (.inl ⟨rfl, ?_⟩)
    obtain ⟨after, hread, hafter⟩ := unsigned_uint64 hgood hfields
    refine onTokenConsumed_moved.2 ⟨hstate, ?_, ?_, ?_, ?_⟩
    · rw [hread]
    · rw [hread]
      exact (@TextStream.word_of_no_tokens ⟨after, true⟩ hafter).2
    · rw [hread, hid]
    · rw [hread, UInt64.ofNat_toNat]
  | heartbeat sequence payload free total =>
    obtain ⟨hstate, hsequence, htotal, hfree, rfl, hpayload, hexpected, hmaximum⟩ := hsent
    rw [and_iff_right nofun]
    refine supervisor_accepts_iff rfl fun parsed hgood hfields =>
      .inr (.inr (.inl ⟨rfl, ?_⟩))
    obtain ⟨after, hread, hafter⟩ := unsigned_uint64 hgood hfields
    refine onHeartbeat_moved.2 ⟨hstate, ?_, ?_, ⟨true, payload, free, total⟩, ?_, fun _ => rfl, ?_⟩
    · rw [hread]
    · rw [hread, hsequence]
    · rw [hread]
      exact @parseHeartbeatEvidence_printed c ⟨after, true⟩ rfl _ _ _ htotal hfree hpayload
        hexpected hmaximum hafter
    · rw [hread, UInt64.ofNat_toNat]
  | cancelAck =>
    rw [and_iff_right nofun]
    refine supervisor_accepts_iff rfl fun parsed hgood hfields =>
      .inr (.inr (.inr ⟨rfl, ?_⟩))
    exact onCancelAck_moved.2 ⟨hsent, (TextStream.word_of_no_tokens hfields).2, rfl⟩

end Accept

/-- The supervisor's `CANCEL` line, for the nonce of the fixture: the worker refuses it as
its first command with exit code 17, and acknowledges it nowhere. -/
theorem cancel_not_acknowledged :
    (cancelLine Fixture.nonce).toList =
      "PRISMINFER/1 CANCEL 0123456789abcdef0123456789abcdef\n".toList ∧
    acknowledgeCancel Fixture.nonce (getline (cancelLine Fixture.nonce).toList) = false ∧
    firstCommand Fixture.nonce 4096 (getline (cancelLine Fixture.nonce).toList) = .exits 17 ∧
    acknowledgeCancel Fixture.nonce
      "PRISMINFER/1 CANCEL 0123456789abcdef0123456789abcdef reason".toList = true := by
  decide

theorem accepted_iff_on_fixture :
    let c : ProtocolConfig := { nonce := Fixture.nonce }
    (ProtocolMessage.contextReady (-1) 11 10 20).Accepted c 4096 {} {} ∧
      (ProtocolMessage.admission 7 8192).Accepted c 4096 {} {} ∧
      ¬ProtocolMessage.cancel.Accepted c 4096 {} {} := by
  intro c
  have hcontext : (ProtocolMessage.contextReady (-1) 11 10 20).Sent c 4096 {} :=
    ⟨rfl, by decide, by decide⟩
  have hadmission : (ProtocolMessage.admission 7 8192).Sent c 4096 {} := ⟨by decide, by decide⟩
  have hcancel : ProtocolMessage.cancel.Sent c 4096 {} := trivial
  refine ⟨(accepted_iff hcontext).2 ⟨by decide, ?_⟩,
    (accepted_iff hadmission).2 ⟨by decide, trivial⟩, fun h => ((accepted_iff hcancel).1 h).1 rfl⟩
  show (contextReadyLine Fixture.nonce (-1) 11 10 20).toList.length ≤ 513
  decide

end PrismInfer.Runtime
