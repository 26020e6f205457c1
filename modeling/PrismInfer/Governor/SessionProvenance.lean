import PrismInfer.Governor.SessionLifecycle

/-!
# Where the token of a session comes from

A session consumes any token object that the caller hands it, so what it consumes
has to be traced back through all that happens to tokens in the process. The issuer
ids carry the argument: no two issuers share an id (`NumberedInv`), so an active token
with the id of the session's issuer is one that the session has issued
(`ProvenanceInv`), and the session issues only one, for its own receipt and worker.
-/

namespace PrismInfer.Governor

open PrismInfer.Lib

/-- The session has issued the token. -/
def SessionIssued (trace : SessionTrace) (token : AdmissionToken) : Prop :=
  ∃ action result, (action, .answered (.issued result)) ∈ trace ∧ result.status = .issued ∧
    result.token = some token

/-- The session has consumed the token, as the call found it. -/
def SessionConsumed (trace : SessionTrace) (token : AdmissionToken) : Prop :=
  ∃ action result, (action, .answered (.consumed token result)) ∈ trace ∧
    result.status = .consumed

/-- The token is for the session's Stage-B receipt, its cell and its worker. -/
def TokenBound (impl : SessionImpl) (token : AdmissionToken) : Prop :=
  (∃ receipt, impl.postReceipt = some receipt ∧ token.receiptId = receipt.receiptId ∧
    token.effectiveCapBytes = receipt.effectiveCapBytes) ∧
  token.cell = impl.cell ∧ token.worker = impl.workerIdentity

variable {answer : SessionAnswer} {p : AdmissionProcess} {trace : SessionTrace}
  {o : SessionOutcome} {a : SessionAction}

section Trace

variable {token : AdmissionToken}

theorem SessionIssued.snoc (h : SessionIssued trace token)
    (entry : SessionAction × SessionOutcome) : SessionIssued (trace ++ [entry]) token := by
  obtain ⟨action, result, hmem, hrest⟩ := h
  exact ⟨action, result, List.mem_append_left _ hmem, hrest⟩

theorem sessionIssued_snoc_cases (h : SessionIssued (trace ++ [(a, o)]) token) :
    SessionIssued trace token ∨
      ∃ result, o = .answered (.issued result) ∧ result.status = .issued ∧
        result.token = some token := by
  obtain ⟨action, result, hmem, hrest⟩ := h
  rcases List.mem_append.1 hmem with hold | hnew
  · exact .inl ⟨action, result, hold, hrest⟩
  · cases List.mem_singleton.1 hnew
    exact .inr ⟨result, rfl, hrest⟩

theorem sessionConsumed_snoc_cases (h : SessionConsumed (trace ++ [(a, o)]) token) :
    SessionConsumed trace token ∨
      ∃ result, o = .answered (.consumed token result) ∧ result.status = .consumed := by
  obtain ⟨action, result, hmem, hrest⟩ := h
  rcases List.mem_append.1 hmem with hold | hnew
  · exact .inl ⟨action, result, hold, hrest⟩
  · cases List.mem_singleton.1 hnew
    exact .inr ⟨result, rfl, hrest⟩

/-- An issued token has left a milestone. -/
theorem SessionIssued.milestone (h : SessionIssued trace token) :
    Milestone.tokenIssued ∈ milestones trace := by
  obtain ⟨action, result, hmem, hstatus, -⟩ := h
  exact List.mem_filterMap.2 ⟨_, hmem, if_pos hstatus⟩

theorem SessionConsumed.snoc (h : SessionConsumed trace token)
    (entry : SessionAction × SessionOutcome) : SessionConsumed (trace ++ [entry]) token := by
  obtain ⟨action, result, hmem, hrest⟩ := h
  exact ⟨action, result, List.mem_append_left _ hmem, hrest⟩

/-- The milestone of a consumption is the answer of one. -/
theorem consumed_of_milestone (h : answer.milestone = some .tokenConsumed) :
    ∃ token result, answer = .consumed token result ∧ result.status = .consumed := by
  cases answer with
  | consumed token result =>
    by_cases hstatus : result.status = .consumed
    · exact ⟨token, result, rfl, hstatus⟩
    · rw [SessionAnswer.milestone, if_neg hstatus] at h
      cases h
  | preContext | bound | postContext | issued =>
    rw [SessionAnswer.milestone] at h
    split at h <;> cases h
  | _ => cases h

end Trace

/-! ## Steps of a session -/

section Steps

variable {p' : AdmissionProcess} {impl impl' : SessionImpl} {operation : SessionOperation}
  {token : AdmissionToken}

/-- A success of `issue_token`. -/
theorem SessionStep.issues {result : AdmissionTokenIssueResult}
    (step : SessionStep p impl operation p' impl' (.issued result))
    (hstatus : result.status = .issued) (htoken : result.token = some token) :
    impl.state = .postContextAdmitted ∧
      (token.issuerId = impl.tokenIssuer.issuerId ∧ token.issuerId ≠ 0) ∧
      TokenBound impl' token := by
  have hmilestone : (SessionAnswer.issued result).milestone ≠ none := by
    rw [SessionAnswer.milestone, if_pos hstatus]
    exact Option.some_ne_none _
  cases step with
  | issued at_state post issuer bound active =>
    cases htoken
    obtain ⟨hreceipt, hcell, hworker, hcap⟩ := bound
    exact ⟨at_state, issuer, ⟨_, post, hreceipt, hcap⟩, hcell, hworker⟩
  | cancelled _ _ _ failed | exited _ _ _ _ _ failed | quarantined _ _ _ _ _ _ _ failed
  | closed _ _ failed => exact absurd failed hmilestone

/-- A success of `consume_token`. -/
theorem SessionStep.consumes {result : AdmissionTokenConsumeResult}
    (step : SessionStep p impl operation p' impl' (.consumed token result))
    (hstatus : result.status = .consumed) :
    token ∈ p.tokens ∧ token.active = true ∧ token.issuerId = impl.tokenIssuer.issuerId := by
  have hmilestone : (SessionAnswer.consumed token result).milestone ≠ none := by
    rw [SessionAnswer.milestone, if_pos hstatus]
    exact Option.some_ne_none _
  cases step with
  | consumed at_state found active own bound => exact ⟨List.mem_of_getElem? found, active, own⟩
  | cancelled _ _ _ failed | exited _ _ _ _ _ failed | quarantined _ _ _ _ _ _ _ failed
  | closed _ _ failed => exact absurd failed hmilestone
  | closedBy found failed => exact absurd hstatus failed

/-- The token is among the token objects or kept by the session. -/
def Kept (p : AdmissionProcess) (impl : SessionImpl) (token : AdmissionToken) : Prop :=
  token ∈ p.tokens ∨ impl.pendingToken = some token

/-- Writing one token object brings in no other token than the one written. -/
theorem mem_of_mem_set {tokens : List AdmissionToken} {slot : ℕ} {written : AdmissionToken}
    (h : token ∈ tokens.set slot written) : token = written ∨ token ∈ tokens := by
  obtain ⟨i, hi⟩ := List.mem_iff_getElem?.1 h
  rcases getElem?_set_cases hi with ⟨-, rfl⟩ | hold
  · exact .inl rfl
  · exact .inr (List.mem_of_getElem? hold)

section

variable (step : SessionStep p impl operation p' impl' answer)
include step

/-- An active token after a step was there before, or the session has issued it in
the step. -/
theorem SessionStep.kept_token (hkept : Kept p' impl' token) (hactive : token.active = true) :
    Kept p impl token ∨ answer = .issued { status := .issued, token := some token } := by
  cases step with
  | issued at_state post issuer bound active =>
    rcases hkept with hmem | hpending
    · rcases List.mem_append.1 hmem with hold | hnew
      · exact .inl (.inl hold)
      · exact .inr (by rw [List.mem_singleton.1 hnew])
    · exact .inl (.inr hpending)
  | consumed | closedBy =>
    rcases hkept with hmem | hpending
    · rcases mem_of_mem_set hmem with rfl | hold
      · cases hactive
      · exact .inl (.inl hold)
    · exact .inl (.inr hpending)
  | stored found =>
    -- the token moves from its object into the session
    rcases hkept with hmem | hpending
    · rcases mem_of_mem_set hmem with rfl | hold
      · cases hactive
      · exact .inl (.inl hold)
    · cases hpending
      exact .inl (.inl (List.mem_of_getElem? found))
  | taken pending =>
    rcases hkept with hmem | hpending
    · rcases List.mem_append.1 hmem with hold | hnew
      · exact .inl (.inl hold)
      · cases List.mem_singleton.1 hnew
        exact .inl (.inr pending)
    · cases hpending
  | ended => exact .inl (hkept.imp_right fun hnone => (by cases hnone))
  | exited _ _ kept | quarantined _ _ _ kept =>
    exact .inl (hkept.imp_right fun hpending => kept _ hpending)
  | preAdmitted | bound | postAdmitted | continued | cancelled | cancelling | began | cleaned
  | uncleaned | closed | kept => exact .inl hkept

/-- The operations of a session leave the issuers and their numbers alone. -/
theorem SessionStep.numbers : p'.issuers = p.issuers ∧ p'.issuerSequence = p.issuerSequence ∧
      impl'.tokenIssuer.issuerId = impl.tokenIssuer.issuerId := by
  cases step <;> exact ⟨rfl, rfl, rfl⟩

/-- From the issue of the token on, its receipt and its worker stay. -/
theorem SessionStep.bound_kept (hpast : impl'.past 4) (h : TokenBound impl token) :
    TokenBound impl' token := by
  have hbelow : ∀ {state : GpuAdmissionSessionState} {k : ℕ}, impl'.state = state →
      state.height = some k → 4 ≤ k := by
    intro state k hstate hk
    obtain ⟨m, hm, hle⟩ := hpast
    rw [hstate, hk] at hm
    cases hm
    exact hle
  cases step with
  | preAdmitted | bound | postAdmitted => exact absurd (hbelow rfl rfl) (by decide)
  | cleaned | uncleaned =>
    obtain ⟨k, hk, -⟩ := hpast
    cases hk
  | _ => exact h

end

end Steps

/-! ## Steps of the rest of the process -/

/-- What the rest of the process can do to issuers and tokens: draw the next number,
and mint tokens with the ids of its own issuers. -/
structure ProcessGrows (p p' : AdmissionProcess) : Prop where
  sequence : p.issuerSequence.toNat ≤ p'.issuerSequence.toNat
  issuers : ∀ issuer ∈ p'.issuers, (∃ old ∈ p.issuers, old.issuerId = issuer.issuerId) ∨
    (issuer.issuerId = 0 ∨ issuer.issuerId = p.issuerSequence) ∧
      issuer.issuerId.toNat < p'.issuerSequence.toNat
  tokens : ∀ token ∈ p'.tokens, token.active = true → token ∈ p.tokens ∨
    token.issuerId ≠ 0 ∧ ∃ issuer ∈ p.issuers, issuer.issuerId = token.issuerId

/-- A step that touches the token objects only, and no token in them but by moving
it or making it inactive. -/
theorem processGrows_of_tokens {p' : AdmissionProcess}
    (hsequence : p'.issuerSequence = p.issuerSequence) (hissuers : p'.issuers = p.issuers)
    (htokens : ∀ token ∈ p'.tokens, token.active = true → token ∈ p.tokens) :
    ProcessGrows p p' := by
  constructor
  · rw [hsequence]
  · rw [hissuers]
    exact fun issuer hmem => .inl ⟨issuer, hmem, rfl⟩
  · exact fun token hmem hactive => .inl (htokens token hmem hactive)

theorem processGrows_issue {i : ℕ} {issuer : AdmissionTokenIssuer}
    (hissuer : p.issuers[i]? = some issuer) (receipt : PostContextAdmissionReceipt)
    (cell : AdmissionCellIdentity) (worker : AdmissionWorkerIdentity) (now validity : UInt64) :
    let issued := issuer.issue p.ledger.consumed receipt cell worker now validity
    ProcessGrows p { p with
      ledger := { p.ledger with consumed := issued.2.2 }
      issuers := p.issuers.set i issued.2.1
      tokens := p.tokens ++ issued.1.token.toList } := by
  intro issued
  have hissued : issued = issuer.issue p.ledger.consumed receipt cell worker now validity := rfl
  clear_value issued
  have hmem := List.mem_of_getElem? hissuer
  rcases issue_cases issuer p.ledger.consumed receipt cell worker now validity with
    ⟨status, -, hissue⟩ | ⟨expires, consumed, hchecked, hissue⟩
  · -- a refusal changes nothing
    rw [hissue] at hissued
    rw [hissued]
    refine processGrows_of_tokens rfl (set_of_getElem? hissuer).symm ?_
    intro token htoken _
    exact (List.append_nil p.tokens) ▸ htoken
  · rw [hissue] at hissued
    rw [hissued]
    refine ⟨le_rfl, ?_, ?_⟩
    · intro other hother
      obtain ⟨j, hj⟩ := List.mem_iff_getElem?.1 hother
      rcases getElem?_set_cases hj with ⟨-, rfl⟩ | hold
      · exact .inl ⟨issuer, hmem, rfl⟩
      · exact .inl ⟨other, List.mem_of_getElem? hold, rfl⟩
    · intro token htoken _
      rcases List.mem_append.1 htoken with hold | hnew
      · exact .inl hold
      · cases List.mem_singleton.1 hnew
        exact .inr ⟨hchecked.issuerId_ne_zero, issuer, hmem, rfl⟩

/-- A consumption leaves the token as it was, or inactive. -/
theorem consume_token (issuer : AdmissionTokenIssuer) (token : AdmissionToken)
    (cell : AdmissionCellIdentity) (worker : AdmissionWorkerIdentity) (now : UInt64) :
    (issuer.consume token cell worker now).2 = token ∨
      (issuer.consume token cell worker now).2.active = false := by
  rcases consume_cases issuer token cell worker now with
    ⟨status, -, hconsume | hconsume⟩ | ⟨-, -, -, -, hconsume⟩
  · exact .inl (by rw [hconsume])
  · exact .inr (by rw [hconsume])
  · exact .inr (by rw [hconsume])

theorem processGrows_of_step {p' : AdmissionProcess} {action : ProcessAction}
    {status : Option ExclusiveGpuLeaseStatus} (hpositive : 0 < p.issuerSequence.toNat)
    (h : p.step action = some (p', status)) : ProcessGrows p p' := by
  have hsame : ∀ {q : AdmissionProcess}, q.issuerSequence = p.issuerSequence →
      q.issuers = p.issuers → q.tokens = p.tokens → ProcessGrows p q :=
    fun hsequence hissuers htokens =>
      processGrows_of_tokens hsequence hissuers fun _ hmem _ => htokens ▸ hmem
  cases action with
  | newIssuer =>
    cases h
    obtain ⟨hid, hlt, hle⟩ := nextIssuerId_spec hpositive
    refine ⟨hle, ?_, fun token hmem _ => .inl hmem⟩
    intro issuer hmem
    rcases List.mem_append.1 hmem with hold | hnew
    · exact .inl ⟨issuer, hold, rfl⟩
    · cases List.mem_singleton.1 hnew
      exact .inr ⟨hid, hlt⟩
  | stageB request =>
    simp only [AdmissionProcess.step, Option.some.injEq, Prod.mk.injEq] at h
    rw [← h.1]
    exact hsame rfl rfl rfl
  | issue i receipt cell worker now validity =>
    simp only [AdmissionProcess.step] at h
    split at h
    · cases h
    · rename_i issuer hissuer
      cases h
      exact processGrows_issue hissuer receipt cell worker now validity
  | consume i slot cell worker now =>
    simp only [AdmissionProcess.step] at h
    split at h
    · rename_i issuer token _ htoken
      cases h
      refine processGrows_of_tokens rfl rfl ?_
      intro other hother hactive
      rcases mem_of_mem_set hother with rfl | hold
      · rcases consume_token issuer token cell worker now with hunchanged | hinactive
        · rw [hunchanged]
          exact List.mem_of_getElem? htoken
        · rw [hinactive] at hactive
          cases hactive
      · exact hold
    · cases h
  | moveConstructToken source =>
    simp only [AdmissionProcess.step] at h
    split at h
    · cases h
    · rename_i token htoken
      cases h
      refine processGrows_of_tokens rfl rfl ?_
      intro other hother hactive
      rcases List.mem_append.1 hother with hset | hnew
      · rcases mem_of_mem_set hset with rfl | hold
        · cases hactive
        · exact hold
      · cases List.mem_singleton.1 hnew
        exact List.mem_of_getElem? htoken
  | moveAssignToken target source =>
    simp only [AdmissionProcess.step] at h
    split at h
    · rename_i token _ htoken
      split at h
      · cases h
        exact hsame rfl rfl rfl
      · cases h
        refine processGrows_of_tokens rfl rfl ?_
        intro other hother hactive
        rcases mem_of_mem_set hother with rfl | hset
        · cases hactive
        · rcases mem_of_mem_set hset with rfl | hold
          · exact List.mem_of_getElem? htoken
          · exact hold
    · cases h
  | acquireLease high low answer =>
    cases h
    exact hsame rfl rfl rfl
  | releaseLease | quarantineLease =>
    simp only [AdmissionProcess.step] at h
    split at h
    · cases h
    · cases h
      exact hsame rfl rfl rfl

/-! ## Numbers -/

/-- The token is among the token objects or kept by the session, if there is one. -/
def SessionWorld.Holds (w : SessionWorld) (token : AdmissionToken) : Prop :=
  token ∈ w.process.tokens ∨ ∃ impl, w.session = some impl ∧ impl.pendingToken = some token

/-- Every id is below the sequence, and the session shares its own with no one. -/
structure NumberedInv (w : SessionWorld) : Prop where
  positive : 0 < w.process.issuerSequence.toNat
  issuers : ∀ issuer ∈ w.process.issuers,
    issuer.issuerId.toNat < w.process.issuerSequence.toNat
  tokens : ∀ token, w.Holds token → token.active = true →
    token.issuerId ≠ 0 ∧ token.issuerId.toNat < w.process.issuerSequence.toNat
  own : ∀ impl, w.session = some impl →
    impl.tokenIssuer.issuerId.toNat < w.process.issuerSequence.toNat ∧
    ∀ issuer ∈ w.process.issuers, issuer.issuerId = impl.tokenIssuer.issuerId →
      issuer.issuerId = 0

variable {w : SessionWorld}

theorem NumberedInv.process (h : NumberedInv w) (grows : ProcessGrows w.process p) :
    NumberedInv { w with process := p } := by
  have hissuers : ∀ issuer ∈ p.issuers, issuer.issuerId.toNat < p.issuerSequence.toNat := by
    intro issuer hmem
    rcases grows.issuers issuer hmem with ⟨old, hold, hid⟩ | ⟨-, hlt⟩
    · rw [← hid]
      exact (h.issuers old hold).trans_le grows.sequence
    · exact hlt
  refine ⟨h.positive.trans_le grows.sequence, hissuers, ?_, ?_⟩
  · intro token hholds hactive
    -- a token of before, or one of a known issuer
    have hold : w.Holds token → token.issuerId ≠ 0 ∧
        token.issuerId.toNat < p.issuerSequence.toNat := fun hbefore =>
      ⟨(h.tokens token hbefore hactive).1,
        (h.tokens token hbefore hactive).2.trans_le grows.sequence⟩
    rcases hholds with hmem | hpending
    · rcases grows.tokens token hmem hactive with hbefore | ⟨hnonzero, issuer, hissuer, hid⟩
      · exact hold (.inl hbefore)
      · exact ⟨hnonzero, by rw [← hid]; exact (h.issuers issuer hissuer).trans_le grows.sequence⟩
    · exact hold (.inr hpending)
  · intro impl hsession
    obtain ⟨hlt, hapart⟩ := h.own impl hsession
    refine ⟨hlt.trans_le grows.sequence, ?_⟩
    intro issuer hmem hid
    rcases grows.issuers issuer hmem with ⟨old, hold, hsame⟩ | ⟨hzero | hnext, -⟩
    · rw [← hsame] at hid ⊢
      exact hapart old hold hid
    · exact hzero
    · -- the next number is above every number given out
      rw [← hid, hnext] at hlt
      exact absurd hlt (lt_irrefl _)

theorem NumberedInv.operated {impl impl' : SessionImpl} {operation : SessionOperation}
    (h : NumberedInv w) (hsession : w.session = some impl)
    (step : SessionStep w.process impl operation p impl' answer) :
    NumberedInv { w with process := p, session := some impl' } := by
  obtain ⟨hissuers, hsequence, hid⟩ := step.numbers
  obtain ⟨hlt, hapart⟩ := h.own impl hsession
  constructor
  · show 0 < p.issuerSequence.toNat
    rw [hsequence]
    exact h.positive
  · show ∀ issuer ∈ p.issuers, issuer.issuerId.toNat < p.issuerSequence.toNat
    rw [hissuers, hsequence]
    exact h.issuers
  · intro token hholds hactive
    show token.issuerId ≠ 0 ∧ token.issuerId.toNat < p.issuerSequence.toNat
    rw [hsequence]
    have hkept : Kept p impl' token := hholds.imp_right fun ⟨_, hsome, hpending⟩ => by
      cases hsome
      exact hpending
    rcases step.kept_token hkept hactive with hbefore | rfl
    · exact h.tokens token (hbefore.imp_right fun hpending => ⟨impl, hsession, hpending⟩) hactive
    · -- the token of the session's own issuer
      obtain ⟨-, ⟨hown, hnonzero⟩, -⟩ := step.issues rfl rfl
      exact ⟨hnonzero, by rw [hown]; exact hlt⟩
  · rintro _ ⟨⟩
    show impl'.tokenIssuer.issuerId.toNat < p.issuerSequence.toNat ∧ ∀ issuer ∈ p.issuers,
      issuer.issuerId = impl'.tokenIssuer.issuerId → issuer.issuerId = 0
    rw [hissuers, hsequence, hid]
    exact ⟨hlt, hapart⟩

theorem NumberedInv.acquired (h : NumberedInv w) (cell : AdmissionCellIdentity) (high : Int32)
    (low : UInt32) (handle owner handles : ℕ) (registry : List String) : NumberedInv
      { process := { w.process with
          issuerSequence := (nextIssuerId w.process.issuerSequence).2
          registry := registry }
        session := some (.fresh cell high low handle (nextIssuerId w.process.issuerSequence).1)
        owner := owner
        handles := handles } := by
  obtain ⟨hid, hlt, hle⟩ := nextIssuerId_spec h.positive
  refine ⟨h.positive.trans_le hle, fun issuer hmem => (h.issuers issuer hmem).trans_le hle, ?_, ?_⟩
  · intro token hholds hactive
    have hbefore : w.Holds token := hholds.imp_right fun ⟨_, hsome, hpending⟩ => by
      cases hsome
      cases hpending
    exact (h.tokens token hbefore hactive).imp_right fun hbelow => hbelow.trans_le hle
  · rintro _ ⟨⟩
    refine ⟨hlt, ?_⟩
    intro issuer hmem hsame
    replace hsame : issuer.issuerId = (nextIssuerId w.process.issuerSequence).1 := hsame
    rcases hid with hzero | hnext
    · rw [hsame, hzero]
    · have hbelow := h.issuers issuer hmem
      rw [hsame, hnext] at hbelow
      exact absurd hbelow (lt_irrefl _)

variable {w' : SessionWorld}

/-- A step that leaves the numbers and the tokens as they are, and makes no session. -/
theorem NumberedInv.same (h : NumberedInv w)
    (hsequence : w'.process.issuerSequence = w.process.issuerSequence)
    (hissuers : w'.process.issuers = w.process.issuers)
    (htokens : w'.process.tokens = w.process.tokens)
    (hsession : ∀ impl, w'.session = some impl → w.session = some impl) : NumberedInv w' := by
  constructor
  · rw [hsequence]
    exact h.positive
  · rw [hissuers, hsequence]
    exact h.issuers
  · intro token hholds hactive
    rw [hsequence]
    refine h.tokens token (Or.imp (fun hmem => htokens ▸ hmem) ?_ hholds) hactive
    rintro ⟨impl, hsome, hpending⟩
    exact ⟨impl, hsession impl hsome, hpending⟩
  · intro impl hsome
    rw [hsequence, hissuers]
    exact h.own impl (hsession impl hsome)

/-! ## Provenance -/

/-- What bears the session's number was issued by it; what it has issued is for its
own receipt and worker; what it has consumed it has issued, and the milestone of a
consumption is there for a token. -/
structure ProvenanceInv (trace : SessionTrace) (w : SessionWorld) : Prop where
  own : ∀ impl, w.session = some impl → ∀ token, w.Holds token → token.active = true →
    token.issuerId = impl.tokenIssuer.issuerId → SessionIssued trace token
  issued : ∀ impl, w.session = some impl → impl.past 4 → ∀ token, SessionIssued trace token →
    TokenBound impl token
  consumed : ∀ token, SessionConsumed trace token → SessionIssued trace token
  found : .tokenConsumed ∈ milestones trace → ∃ token, SessionConsumed trace token

/-- A step in which the session neither moves nor answers, and that makes no active
token with its number. -/
theorem ProvenanceInv.quiet (h : ProvenanceInv trace w) (a : SessionAction)
    (hquiet : o.milestone = none)
    (hsession : ∀ impl, w'.session = some impl → w.session = some impl)
    (htokens : ∀ impl, w'.session = some impl → ∀ token ∈ w'.process.tokens,
      token.active = true → token.issuerId = impl.tokenIssuer.issuerId →
      token ∈ w.process.tokens) :
    ProvenanceInv (trace ++ [(a, o)]) w' := by
  have hissued {token} (htoken : SessionIssued (trace ++ [(a, o)]) token) :
      SessionIssued trace token := by
    rcases sessionIssued_snoc_cases htoken with hold | ⟨result, rfl, hstatus, -⟩
    · exact hold
    · rw [SessionOutcome.milestone, SessionAnswer.milestone, if_pos hstatus] at hquiet
      cases hquiet
  constructor
  · intro impl hsome token hholds hactive hid
    refine (h.own impl (hsession impl hsome) token ?_ hactive hid).snoc _
    rcases hholds with hmem | ⟨other, hother, hpending⟩
    · exact .inl (htokens impl hsome token hmem hactive hid)
    · exact .inr ⟨other, hsession other hother, hpending⟩
  · exact fun impl hsome hpast token htoken => h.issued impl (hsession impl hsome) hpast token
      (hissued htoken)
  · intro token htoken
    rcases sessionConsumed_snoc_cases htoken with hold | ⟨result, rfl, hstatus⟩
    · exact (h.consumed token hold).snoc _
    · rw [SessionOutcome.milestone, SessionAnswer.milestone, if_pos hstatus] at hquiet
      cases hquiet
  · intro hmem
    rw [milestones_snoc, hquiet, Option.toList_none, List.append_nil] at hmem
    obtain ⟨token, htoken⟩ := h.found hmem
    exact ⟨token, htoken.snoc _⟩

theorem ProvenanceInv.operated {impl impl' : SessionImpl} {operation : SessionOperation}
    (h : ProvenanceInv trace w) (hpath : OnPath trace w.session) (hsession : w.session = some impl)
    (step : SessionStep w.process impl operation p impl' answer) (a : SessionAction) :
    ProvenanceInv (trace ++ [(a, .answered answer)])
      { w with process := p, session := some impl' } := by
  obtain ⟨-, -, hsame⟩ := step.numbers
  constructor
  · rintro _ ⟨⟩ token hholds hactive hid
    have hkept : Kept p impl' token := hholds.imp_right fun ⟨_, hsome, hpending⟩ => by
      cases hsome
      exact hpending
    rcases step.kept_token hkept hactive with hbefore | rfl
    · exact (h.own impl hsession token
        (hbefore.imp_right fun hpending => ⟨impl, hsession, hpending⟩) hactive
        (hid.trans hsame)).snoc _
    · exact ⟨a, _, List.mem_append_right _ (List.mem_singleton_self _), rfl, rfl⟩
  · rintro _ ⟨⟩ hpast token htoken
    rcases sessionIssued_snoc_cases htoken with hold | ⟨result, hanswer, hstatus, hresult⟩
    · -- an earlier token: the path says that this step does not come before its issue
      have hbefore : impl.past 4 := by
        rcases step.progress with ⟨k, hk, hheight, hheight', -⟩ | ⟨-, hheight⟩
        · obtain ⟨n, hn, hstate⟩ := hpath
          obtain rfl := hstate impl hsession k hheight
          obtain ⟨m, hm, hle⟩ := hpast
          rw [hheight'] at hm
          obtain rfl := Option.some.inj hm
          by_cases hthree : n = 3
          · have hmem := hold.milestone
            rw [hn, hthree] at hmem
            exact absurd hmem (by decide)
          · exact ⟨n, hheight, by omega⟩
        · exact SessionImpl.past_of_height hheight hpast
      exact step.bound_kept hpast (h.issued impl hsession hbefore token hold)
    · cases hanswer
      exact (step.issues hstatus hresult).2.2
  · intro token htoken
    rcases sessionConsumed_snoc_cases htoken with hold | ⟨result, hanswer, hstatus⟩
    · exact (h.consumed token hold).snoc _
    · cases hanswer
      obtain ⟨hmem, hactive, hown⟩ := step.consumes hstatus
      exact (h.own impl hsession token (.inl hmem) hactive hown).snoc _
  · intro hmem
    rw [milestones_snoc, List.mem_append] at hmem
    rcases hmem with hold | hnew
    · obtain ⟨token, htoken⟩ := h.found hold
      exact ⟨token, htoken.snoc _⟩
    · obtain ⟨token, result, rfl, hstatus⟩ := consumed_of_milestone (Option.mem_toList.1 hnew)
      exact ⟨token, a, result, List.mem_append_right _ (List.mem_singleton_self _), hstatus⟩

theorem ProvenanceInv.acquired (h : ProvenanceInv trace w) (numbered : NumberedInv w)
    (a : SessionAction) (cell : AdmissionCellIdentity) (high : Int32) (low : UInt32)
    (handle owner handles : ℕ) (registry : List String) :
    ProvenanceInv (trace ++ [(a, .sessionReturned .acquired)])
      { process := { w.process with
          issuerSequence := (nextIssuerId w.process.issuerSequence).2
          registry := registry }
        session := some (.fresh cell high low handle (nextIssuerId w.process.issuerSequence).1)
        owner := owner
        handles := handles } := by
  obtain ⟨hid, -, -⟩ := nextIssuerId_spec numbered.positive
  constructor
  · rintro _ ⟨⟩ token hholds hactive hown
    -- no token bears a number that has not been given out
    have hbefore : w.Holds token := hholds.imp_right fun ⟨_, hsome, hpending⟩ => by
      cases hsome
      cases hpending
    obtain ⟨hnonzero, hbelow⟩ := numbered.tokens token hbefore hactive
    replace hown : token.issuerId = (nextIssuerId w.process.issuerSequence).1 := hown
    rcases hid with hzero | hnext
    · exact absurd (hown.trans hzero) hnonzero
    · rw [hown, hnext] at hbelow
      exact absurd hbelow (lt_irrefl _)
  · rintro _ ⟨⟩ ⟨k, hk, hle⟩
    obtain rfl : 0 = k := Option.some.inj hk
    omega
  · intro token htoken
    rcases sessionConsumed_snoc_cases htoken with hold | ⟨result, hanswer, -⟩
    · exact (h.consumed token hold).snoc _
    · cases hanswer
  · intro hmem
    rw [milestones_snoc] at hmem
    obtain ⟨token, htoken⟩ := h.found (by simpa [SessionOutcome.milestone] using hmem)
    exact ⟨token, htoken.snoc _⟩

/-- The invariant of a session in its process. -/
structure SessionInv (trace : SessionTrace) (w : SessionWorld) : Prop where
  life : LifeInv trace w
  numbered : NumberedInv w
  provenance : ProvenanceInv trace w

/-- A step that leaves numbers, tokens and session alone, or ends the session. -/
theorem SessionInv.idle (h : SessionInv trace w) (step : WorldStep w a w' o)
    (hquiet : o.milestone = none) (hsequence : w'.process.issuerSequence = w.process.issuerSequence)
    (hissuers : w'.process.issuers = w.process.issuers)
    (htokens : w'.process.tokens = w.process.tokens)
    (hsession : ∀ impl, w'.session = some impl → w.session = some impl) :
    SessionInv (trace ++ [(a, o)]) w' :=
  ⟨h.life.step step, h.numbered.same hsequence hissuers htokens hsession,
    h.provenance.quiet a hquiet hsession fun _ _ _ hmem _ _ => htokens ▸ hmem⟩

theorem SessionInv.process (h : SessionInv trace w) (step : WorldStep w a { w with process := p } o)
    (hquiet : o.milestone = none) (grows : ProcessGrows w.process p) :
    SessionInv (trace ++ [(a, o)]) { w with process := p } := by
  refine ⟨h.life.step step, h.numbered.process grows,
    h.provenance.quiet a hquiet (fun _ hsome => hsome) ?_⟩
  intro impl hsome token hmem hactive hid
  rcases grows.tokens token hmem hactive with hbefore | ⟨hnonzero, issuer, hissuer, hsame⟩
  · exact hbefore
  · -- the number of another issuer is not the session's
    have hzero := (h.numbered.own impl hsome).2 issuer hissuer (hsame.trans hid)
    exact absurd (hsame.symm.trans hzero) hnonzero

theorem SessionInv.step (h : SessionInv trace w) (step : WorldStep w a w' o) :
    SessionInv (trace ++ [(a, o)]) w' := by
  have life := h.life.step step
  cases step with
  | process step =>
    exact h.process (.process step) (processAction_quiet _ _)
      (processGrows_of_step h.numbered.positive step)
  | refused status refused =>
    exact h.idle (.refused status refused) rfl rfl rfl rfl fun _ hsome => hsome
  | acquired fresh absent =>
    exact ⟨life, h.numbered.acquired .., h.provenance.acquired h.numbered ..⟩
  | detached operation =>
    exact h.idle (.detached operation) (withoutSession_milestone operation) rfl rfl rfl
      fun _ hsome => hsome
  | operated session step =>
    exact ⟨life, h.numbered.operated session step,
      h.provenance.operated h.life.path session step _⟩
  | moved owner alive => exact h.idle (.moved owner alive) rfl rfl rfl rfl fun _ hsome => hsome
  | abandoned => exact h.idle .abandoned rfl rfl rfl rfl fun _ hsome => hsome
  | destroyed session alive =>
    exact h.idle (.destroyed session alive) rfl rfl rfl rfl fun _ hnone => (by cases hnone)

theorem sessionInv_run (run : Run SessionWorld.exec {} trace w) : SessionInv trace w := by
  refine run.history (P := SessionInv) ⟨lifeInv_run Run.nil, ?_, ?_⟩
    fun _ _ _ _ _ h hexec => h.step (worldStep_of_exec hexec)
  · refine ⟨by decide, fun _ hmem => (by cases hmem), ?_, fun _ hnone => (by cases hnone)⟩
    rintro token (hmem | ⟨_, hnone, _⟩)
    · cases hmem
    · cases hnone
  · refine ⟨fun _ hnone => (by cases hnone), fun _ hnone => (by cases hnone), ?_,
      fun hmem => (by cases hmem)⟩
    rintro token ⟨_, _, hmem, _⟩
    cases hmem

/-! ## The contract -/

/-- The path has each of its stages once. -/
theorem count_admissionPath_take (n : ℕ) (milestone : Milestone) :
    (admissionPath.take n).count milestone ≤ 1 := by
  have hpath : admissionPath.Nodup := by decide
  exact List.nodup_iff_count_le_one.1 (hpath.sublist (List.take_sublist n _)) milestone

/-- **The admission of a worker, in every run.** A session is in `TokenConsumed` or
`WatchdogActive` only after one success of each of the five stages, in order. It then
holds both receipts, for its own cell and adapter, and its worker, and the token it
has consumed is one it has issued for that receipt and that worker. Over its whole
life it issues at most one token and consumes at most one. -/
theorem admission_in_order {trace : SessionTrace} {w : SessionWorld}
    (run : Run SessionWorld.exec {} trace w) :
    (milestones trace).count .tokenIssued ≤ 1 ∧ (milestones trace).count .tokenConsumed ≤ 1 ∧
    ∀ impl, w.session = some impl →
      impl.state = .tokenConsumed ∨ impl.state = .watchdogActive →
      milestones trace = [.preContextAdmitted, .workerBound, .postContextAdmitted, .tokenIssued,
        .tokenConsumed] ∧
      ∃ pre worker post, impl.preReceipt = some pre ∧ impl.worker = some worker ∧
        impl.postReceipt = some post ∧
        (pre.cell = impl.cell ∧ pre.adapterLuidHigh = impl.adapterLuidHigh ∧
          pre.adapterLuidLow = impl.adapterLuidLow) ∧
        (post.cell = impl.cell ∧ post.adapterLuidHigh = impl.adapterLuidHigh ∧
          post.adapterLuidLow = impl.adapterLuidLow) ∧
        (∃ token, SessionConsumed trace token) ∧
        ∀ token, SessionConsumed trace token →
          SessionIssued trace token ∧ token.receiptId = post.receiptId ∧
          token.effectiveCapBytes = post.effectiveCapBytes ∧ token.cell = impl.cell ∧
          token.worker.rootProcessId = worker.rootProcessId ∧
          token.worker.jobIdentity = worker.jobIdentity ∧
          token.worker.executableIdentity = worker.executableIdentity := by
  obtain ⟨life, -, provenance⟩ := sessionInv_run run
  obtain ⟨n, hn, hstate⟩ := life.path
  refine ⟨hn ▸ count_admissionPath_take n _, hn ▸ count_admissionPath_take n _, ?_⟩
  intro impl hsession hrunning
  have hheight : impl.state.height = some 5 := by
    rcases hrunning with hrunning | hrunning <;> (rw [hrunning]; rfl)
  have hmilestones : milestones trace = admissionPath := by
    rw [hn, hstate impl hsession 5 hheight]
    rfl
  have hpast : ∀ m ≤ 5, impl.past m := fun m hm => ⟨5, hheight, hm⟩
  have holding := life.holding impl hsession
  obtain ⟨pre, hpre, hpreIdentity⟩ := holding.pre (hpast 1 (by omega))
  obtain ⟨worker, hworker⟩ := Option.isSome_iff_exists.1 (holding.worker (hpast 2 (by omega)))
  obtain ⟨post, hpost, hpostIdentity⟩ := holding.post (hpast 3 (by omega))
  refine ⟨hmilestones, pre, worker, post, hpre, hworker, hpost, hpreIdentity, hpostIdentity,
    provenance.found (by rw [hmilestones]; decide), ?_⟩
  intro token hconsumed
  have hissued := provenance.consumed token hconsumed
  obtain ⟨⟨receipt, hreceipt, hid, hcap⟩, hcell, hidentity⟩ :=
    provenance.issued impl hsession (hpast 4 (by omega)) token hissued
  rw [hpost] at hreceipt
  cases hreceipt
  rw [SessionImpl.workerIdentity, hworker] at hidentity
  rw [hidentity]
  exact ⟨hissued, hid, hcap, hcell, rfl, rfl, rfl⟩

/-- The unit tests' requests, from the lease to the consumed token. -/
def Fixture.admittedSession : List SessionAction :=
  let now := postReceipt.evaluationMonotonicMilliseconds
  [.acquire cell 7 11 (.granted 1), .call 0 (.admitPreContext preRequest),
    .call 0 (.bindOwnedWorker ⟨42, "job", "worker.exe", 1, kGiB, 1000⟩),
    .call 0 (.admitPostContext postRequest), .call 0 (.issueToken now 1),
    .call 0 (.consumeToken 0 now)]

theorem admission_in_order_on_fixture :
    ∃ trace w impl worker, Run SessionWorld.exec {} trace w ∧ w.session = some impl ∧
      impl.state = .watchdogActive ∧ milestones trace = admissionPath ∧
      impl.worker = some worker ∧
      ∃ token, SessionConsumed trace token ∧ token.worker.rootProcessId = worker.rootProcessId := by
  let actions := Fixture.admittedSession ++
    [.call 0 (.evaluateWatchdog (Fixture.watchdogSampleFor (14 * kGiB)))]
  obtain ⟨trace, w, run, hcheck⟩ := Run.exists_of_runActions actions
    (fun result => result.2.session.any (·.state == .watchdogActive))
    (show (runActions SessionWorld.exec {} actions).any _ = true by decide)
  rw [Option.any_eq_true] at hcheck
  obtain ⟨impl, hsession, hstate⟩ := hcheck
  rw [beq_iff_eq] at hstate
  obtain ⟨hmilestones, _, worker, _, _, hworker, _, _, _, ⟨token, hconsumed⟩, hbound⟩ :=
    (admission_in_order run).2.2 impl hsession (.inr hstate)
  exact ⟨trace, w, impl, worker, run, hsession, hstate, hmilestones, hworker, token, hconsumed,
    (hbound token hconsumed).2.2.2.2.1⟩

end PrismInfer.Governor
