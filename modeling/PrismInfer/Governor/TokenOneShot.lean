import PrismInfer.Governor.TokenInvariant
import PrismInfer.Governor.CapSafety

/-!
# Tokens and receipts are good for one use

The contract of admission_token.cpp under any interleaving of any number of threads, read off
`TokenInv`: `one_shot_tokens`. A receipt yields one token, over all its copies and all issuers; a
token yields one consumption, wherever it is moved.
-/

namespace PrismInfer.Governor

open PrismInfer.Lib AdmissionToken

/-! ## Counting answers -/

/-- A token was issued from a receipt with the id. -/
def issuedFrom (receiptId : UInt64) : TokenAction × TokenOutcome → ℕ
  | (_, .issueAnswered call ⟨_, some _⟩) => if call.receipt.receiptId = receiptId then 1 else 0
  | _ => 0

/-- The issuer has issued a token with the id. -/
def issuedBy (issuer : ℕ) (tokenId : UInt64) : TokenAction × TokenOutcome → ℕ
  | (_, .issueAnswered call ⟨_, some token⟩) =>
    if call.issuer = issuer ∧ token.tokenId = tokenId then 1 else 0
  | _ => 0

/-- A call has consumed the token. -/
def consumedToken (key : UInt64 × UInt64) : TokenAction × TokenOutcome → ℕ
  | (_, .consumeAnswered _ found result) =>
    if result.status = .consumed ∧ found.key = key then 1 else 0
  | _ => 0

variable {issue : IssueCall} {token : AdmissionToken} {thread : ℕ}

section Counts

variable {trace : TokenTrace} {w : TokenWorld}

/-- One token a receipt: all copies of a receipt share the flag at one address. -/
theorem TokenInv.issuedFrom_le_one (h : TokenInv trace w) (receiptId : UInt64) :
    tally (issuedFrom receiptId) trace ≤ 1 := by
  have hmono : tally (issuedFrom receiptId) trace ≤
      tally (issuedFlag (receiptId.toNat - 1)) trace := by
    refine tally_mono ?_
    rintro ⟨a, o⟩ hmem
    match o with
    | .silent | .consumeAnswered _ _ _ | .issueAnswered _ ⟨_, none⟩ => exact le_rfl
    | .issueAnswered call ⟨status, some token⟩ =>
      obtain ⟨address, haddress, hnumber⟩ := (h.origin.minted call token ⟨a, _, hmem, rfl⟩).1.flag
      rw [issuedFrom, issuedFlag]
      by_cases hid : call.receipt.receiptId = receiptId
      · rw [if_pos hid, if_pos]
        rw [haddress, ← hid, hnumber, Nat.add_sub_cancel]
      · rw [if_neg hid]
        exact Nat.zero_le _
  have hflag := h.account.receipts (receiptId.toNat - 1)
  have hone : w.flagAt (receiptId.toNat - 1) ≤ 1 := by
    unfold TokenWorld.flagAt
    split <;> omega
  omega

/-- An issuer repeats no token id. -/
theorem TokenInv.issuedBy_le_one (h : TokenInv trace w) (issuer : ℕ) (tokenId : UInt64) :
    tally (issuedBy issuer tokenId) trace ≤ 1 := by
  have hmono : tally (issuedBy issuer tokenId) trace ≤
      tally (issuedToken (w.issuerIds[issuer]?.getD 0, tokenId)) trace := by
    refine tally_mono ?_
    rintro ⟨a, o⟩ hmem
    match o with
    | .silent | .consumeAnswered _ _ _ | .issueAnswered _ ⟨_, none⟩ => exact le_rfl
    | .issueAnswered call ⟨status, some token⟩ =>
      have hissuer := (h.origin.minted call token ⟨a, _, hmem, rfl⟩).2.issuer
      rw [issuedBy, issuedToken]
      by_cases hby : call.issuer = issuer ∧ token.tokenId = tokenId
      · rw [if_pos hby, if_pos]
        rw [← hby.1, ← hby.2, hissuer]
        rfl
      · rw [if_neg hby]
        exact Nat.zero_le _
  exact hmono.trans (h.account.once _)

/-- One consumption a token. -/
theorem TokenInv.consumedToken_le_one (h : TokenInv trace w) (key : UInt64 × UInt64) :
    tally (consumedToken key) trace ≤ 1 := by
  have hmono : tally (consumedToken key) trace ≤ tally (spentToken key) trace := by
    refine tally_mono ?_
    rintro ⟨a, o⟩ -
    match o with
    | .silent | .issueAnswered _ _ => exact le_rfl
    | .consumeAnswered call found result =>
      rw [consumedToken, spentToken]
      by_cases hconsumed : result.status = .consumed ∧ found.key = key
      · rw [if_pos hconsumed, if_pos ⟨by rw [hconsumed.1]; rfl, hconsumed.2⟩]
      · rw [if_neg hconsumed]
        exact Nat.zero_le _
  have htokens := h.account.tokens key
  have honce := h.account.once key
  omega

theorem issuedToken_pos (h : IssuedIn trace issue token) :
    1 ≤ tally (issuedToken token.key) trace := by
  obtain ⟨a, ⟨status, other⟩, hmem, rfl⟩ := h
  have hle := le_tally (issuedToken token.key) hmem
  rwa [issuedToken, if_pos rfl] at hle

end Counts

/-! ## The terms of a consumption -/

/-- A consumption is asked of the issuer of the token, with the cell and the worker
of the issue, within the token's time, and returns the cap of the receipt. -/
structure ConsumeTerms (issue : IssueCall) (call : ConsumeCall) (found : AdmissionToken)
    (result : AdmissionTokenConsumeResult) : Prop where
  issuer : call.issuer = issue.issuer
  cell : call.cell = issue.cell
  worker : call.worker = issue.worker
  after_issue : issue.now ≤ call.now
  before_expiry : call.now ≤ found.expiresMonotonicMilliseconds
  cap : result.effectiveCapBytes = issue.receipt.effectiveCapBytes

/-- The attempt names another cell or worker than the issue, or comes too early or
too late. -/
def WrongAttempt (issue : IssueCall) (call : ConsumeCall) (found : AdmissionToken) : Prop :=
  call.cell ≠ issue.cell ∨ call.worker ≠ issue.worker ∨ call.now < issue.now ∨
    found.expiresMonotonicMilliseconds < call.now

theorem ConsumeTerms.not_wrong {call : ConsumeCall} {found : AdmissionToken}
    {result : AdmissionTokenConsumeResult} (h : ConsumeTerms issue call found result) :
    ¬ WrongAttempt issue call found := by
  rintro (hcell | hworker | hearly | hlate)
  · exact hcell h.cell
  · exact hworker h.worker
  · exact absurd h.after_issue (UInt64.not_le.2 hearly)
  · exact absurd h.before_expiry (UInt64.not_le.2 hlate)

theorem consumeResult_eq_consumed {terminal : AdmissionTokenStatus}
    (h : (token.consumeResult terminal).status = .consumed) : terminal = .consumed ∧
      (token.consumeResult terminal).effectiveCapBytes = token.effectiveCapBytes := by
  by_cases hterminal : terminal = .consumed
  · rw [consumeResult, if_pos hterminal]
    exact ⟨hterminal, rfl⟩
  · rw [consumeResult, if_neg hterminal] at h
    exact absurd h hterminal

section Answers

variable {trace : TokenTrace} {w w' : TokenWorld} {a : TokenAction} {o : TokenOutcome}
  {call : ConsumeCall} {found : AdmissionToken} {result : AdmissionTokenConsumeResult}

/-- Issuers are told apart by their ids. -/
theorem TokenInv.issuer_of_id (h : TokenInv trace w) {i : ℕ} (hissued : IssuedIn trace issue found)
    (hid : w.issuerIds[i]? = some found.issuerId) : i = issue.issuer := by
  obtain ⟨hterms, hminted⟩ := h.origin.minted issue found hissued
  exact h.number.distinct _ _ _ hid hminted.issuer hterms.own_issuer

/-- Only the call that had taken the flag answers `Consumed`. -/
theorem won_of_consumed
    (step : TokenStep w (.advance thread) w' (.consumeAnswered call found result))
    (hconsumed : result.status = .consumed) :
    w.threads[thread]? = some (.consumeWon call found) := by
  cases step with
  | refused status at_pc slot untaken =>
    rcases untaken with ⟨-, rfl⟩ | ⟨-, rfl⟩ <;> cases hconsumed
  | lost at_pc slot inactive => cases hconsumed
  | answered at_pc slot => exact at_pc

theorem TokenInv.consumeTerms (h : TokenInv trace w)
    (step : TokenStep w a w' (.consumeAnswered call found result))
    (hconsumed : result.status = .consumed) :
    ∃ issue, IssuedIn trace issue found ∧ ConsumeTerms issue call found result := by
  cases step with
  | refused status at_pc slot untaken =>
    rcases untaken with ⟨-, rfl⟩ | ⟨-, rfl⟩ <;> cases hconsumed
  | lost at_pc slot inactive => cases hconsumed
  | @answered thread _ _ token at_pc slot =>
    have hmem := List.mem_of_getElem? at_pc
    obtain ⟨⟨issue, hissued⟩, hid, -⟩ := h.origin.pcs _ hmem
    obtain ⟨hterminal, hcap⟩ := consumeResult_eq_consumed hconsumed
    obtain ⟨hcell, hworker, hafter, hbefore⟩ := terminalStatus_eq_consumed hterminal
    have hterms := (h.origin.minted issue found hissued).1
    -- the object still is the token that was read
    have hsame : token.effectiveCapBytes = found.effectiveCapBytes := by
      rw [← h.origin.key_of_judged (.inr hmem) slot]
    exact ⟨issue, hissued,
      { issuer := h.issuer_of_id hissued hid
        cell := hcell.symm.trans hterms.cell
        worker := hworker.symm.trans hterms.worker
        after_issue := hterms.issued ▸ hafter
        before_expiry := hbefore
        cap := by rw [hcap, hsame, hterms.cap] }⟩

/-! ## Attempts that fail -/

/-- From this state on the token is of no use: none of its objects is active, and
only a call that had already taken its flag may still answer `Consumed`. -/
def Unusable (t : TokenWorld) (key : UInt64 × UInt64) : Prop :=
  ∀ after w, Run TokenWorld.exec t after w →
    (∀ token ∈ w.tokens, token.key = key → token.active = false) ∧
    ∀ mid rest thread call found result,
      after = mid ++ (.advance thread, .consumeAnswered call found result) :: rest →
        found.key = key → result.status = .consumed →
          t.threads[thread]? = some (.consumeWon call found)

/-- Only an issue makes an object active. -/
theorem active_le_of_step (key : UInt64 × UInt64) (step : TokenStep w a w' o) :
    tally (activeAs key) w'.tokens ≤
      tally (activeAs key) w.tokens + issuedToken key (a, o) := by
  have hgone : invalidated.activeAs key = 0 := activeAs_of_inactive rfl
  cases step with
  | @minted thread call cell expires at_pc slot =>
    show tally _ (w.tokens ++ [_]) ≤ _
    rw [tally_append, tally_cons, tally_nil, activeAs_of_active rfl]
    exact le_rfl
  | @won thread call read token at_pc slot active =>
    have hset := tally_set (activeAs key) slot { token with active := false }
    have hdown : activeAs key { token with active := false } = 0 :=
      activeAs_of_inactive rfl
    show tally _ (w.tokens.set call.slot _) ≤ _
    omega
  | @constructed source token slot unused =>
    have hset := tally_set (activeAs key) slot .invalidated
    show tally _ (w.tokens.set source .invalidated ++ [token]) ≤ _
    rw [tally_append, tally_cons, tally_nil]
    omega
  | @assigned target source token old overwritten slot distinct unused =>
    have hset := tally_set_set (activeAs key) distinct overwritten slot token
      .invalidated
    show tally _ ((w.tokens.set target token).set source .invalidated) ≤ _
    omega
  | _ => exact Nat.le_add_right _ _

/-- A call that has taken a flag had it before the step, or the step took it from
an active object. -/
theorem took_or_active_of_step (horigin : OriginInv trace w) (step : TokenStep w a w' o)
    {read : AdmissionToken} (hwon : w'.threads[thread]? = some (.consumeWon call read)) :
    w.threads[thread]? = some (.consumeWon call read) ∨
      1 ≤ tally (activeAs read.key) w.tokens := by
  have hset : ∀ {mover : ℕ} {new : TokenPc}, w'.threads = w.threads.set mover new →
      new = .consumeWon call read ∨ w.threads[thread]? = some (.consumeWon call read) := by
    intro mover new hthreads
    rw [hthreads] at hwon
    rcases getElem?_set_cases hwon with ⟨-, rfl⟩ | hold
    · exact .inl rfl
    · exact .inr hold
  cases step with
  | spawn =>
    rcases getElem?_snoc_cases hwon with hold | ⟨-, hidle⟩
    · exact .inl hold
    · cases hidle
  | @won mover call' read' token at_pc slot active =>
    rcases hset rfl with hnew | hold
    · cases hnew
      right
      have hread := horigin.key_of_judged (.inl (List.mem_of_getElem? at_pc)) slot
      have hle := le_tally (activeAs read.key) (List.mem_of_getElem? slot)
      rwa [activeAs_of_active active, named, if_pos (by rw [← hread]; rfl)] at hle
    · exact .inl hold
  | calledIssue _ idle slot | calledConsume idle | locked at_pc slot unlocked
  | rejected status at_pc slot | took at_pc slot checked flag fresh | minted at_pc slot
  | refused status at_pc slot untaken | judged at_pc slot active asked own
  | lost at_pc slot inactive | answered at_pc slot =>
    rcases hset rfl with hnew | hold
    · cases hnew
    · exact .inl hold
  | _ => exact .inl hwon

/-- A token that was issued and has no active object never has one again. -/
theorem TokenInv.unusable (h : TokenInv trace w) (hissued : IssuedIn trace issue found)
    (hinactive : tally (activeAs found.key) w.tokens = 0) :
    Unusable w found.key := by
  have hstay : ∀ {after t}, Run TokenWorld.exec w after t → TokenInv (trace ++ after) t ∧
      tally (activeAs found.key) t.tokens = 0 ∧
      ∀ (thread : ℕ) call read, t.threads[thread]? = some (.consumeWon call read) →
        read.key = found.key → w.threads[thread]? = some (.consumeWon call read) := by
    intro after t run
    refine run.history (P := fun after t => TokenInv (trace ++ after) t ∧
      tally (activeAs found.key) t.tokens = 0 ∧
      ∀ (thread : ℕ) call read, t.threads[thread]? = some (.consumeWon call read) →
        read.key = found.key → w.threads[thread]? = some (.consumeWon call read)) ?_ ?_
    · rw [List.append_nil]
      exact ⟨h, hinactive, fun _ _ _ hwon _ => hwon⟩
    · rintro after t a t' o ⟨hinv, hzero, hwon⟩ hexec
      have step := tokenStep_of_exec hexec
      have hinv' := tokenInv_step hinv step
      rw [List.append_assoc] at hinv'
      refine ⟨hinv', ?_, ?_⟩
      · -- the token was issued before, so this step does not issue it
        have hpos := issuedToken_pos hissued
        have honce := hinv'.account.once found.key
        have hle := active_le_of_step found.key step
        rw [tally_append, tally_append, tally_cons, tally_nil] at honce
        omega
      · intro thread call read hpc hkey
        rcases took_or_active_of_step hinv.origin step hpc with hold | hactive
        · exact hwon thread call read hold hkey
        · rw [hkey] at hactive
          omega
  intro after t run
  refine ⟨?_, ?_⟩
  · intro token hmem hkey
    have hle := le_tally (activeAs found.key) hmem
    rw [(hstay run).2.1] at hle
    cases hactive : token.active with
    | false => rfl
    | true =>
      rw [activeAs_of_active hactive, named, if_pos hkey] at hle
      omega
  · rintro mid rest thread call other result rfl hkey hconsumed
    obtain ⟨u, u', hmid, hexec, -⟩ := run.split_at
    exact (hstay hmid).2.2 thread call other
      (won_of_consumed (tokenStep_of_exec hexec) hconsumed) hkey

/-- An object whose flag a call found down is the only one of its name. -/
theorem TokenInv.inactive_of_lost (h : TokenInv trace w) (hissued : IssuedIn trace issue found)
    (hpc : w.threads[thread]? = some (.consumeJudged call found))
    (htoken : w.tokens[call.slot]? = some token) (hdown : token.active = false) :
    tally (activeAs found.key) w.tokens = 0 := by
  have hread := h.origin.key_of_judged (.inl (List.mem_of_getElem? hpc)) htoken
  have hkey : token.key = found.key := by
    rw [← hread]
    rfl
  have hterms := (h.origin.minted issue found hissued).1
  have hobjects := h.account.objects found.key hterms.own_issuer
  have honce := h.account.once found.key
  -- writing the object's flag up would make as many active objects as there are names
  have hset := tally_set (activeAs found.key) htoken { token with active := true }
  have hup : activeAs found.key { token with active := true } = 1 := by
    rw [activeAs_of_active rfl, named, if_pos]
    rw [hread]
  have hset' := tally_set (named found.key) htoken { token with active := true }
  have hsame : named found.key { token with active := true } =
      token.named found.key := rfl
  have hle : tally (activeAs found.key)
      (w.tokens.set call.slot { token with active := true }) ≤
        tally (named found.key)
          (w.tokens.set call.slot { token with active := true }) := by
    refine tally_mono fun other _ => ?_
    unfold activeAs named
    split <;> split <;> simp_all
  rw [activeAs_of_inactive hdown, hup] at hset
  omega

/-- A wrong attempt at the issuing issuer spends the token. -/
theorem TokenInv.wrongAttempt (h : TokenInv trace w)
    (step : TokenStep w a w' (.consumeAnswered call found result))
    (hissued : IssuedIn trace issue found) (hissuer : call.issuer = issue.issuer)
    (hwrong : WrongAttempt issue call found) :
    result.status ≠ .consumed ∧ Unusable w' found.key := by
  obtain ⟨hterms, hminted⟩ := h.origin.minted issue found hissued
  have hinv' := tokenInv_step h step
  have hissued' := hissued.append [(a, .consumeAnswered call found result)]
  refine ⟨?_, hinv'.unusable hissued' ?_⟩
  · intro hconsumed
    obtain ⟨issue', hissued', hconsume⟩ := h.consumeTerms step hconsumed
    -- the terms of the issue that minted the token do not depend on which entry it is
    have hterms' := (h.origin.minted issue' found hissued').1
    have hconsume' : ConsumeTerms issue call found result := by
      refine ⟨hissuer, ?_, ?_, ?_, hconsume.before_expiry, ?_⟩
      · rw [hconsume.cell, ← hterms'.cell, hterms.cell]
      · rw [hconsume.worker, ← hterms'.worker, hterms.worker]
      · rw [← hterms.issued, hterms'.issued]
        exact hconsume.after_issue
      · rw [hconsume.cap, ← hterms'.cap, hterms.cap]
    exact hconsume'.not_wrong hwrong
  · cases step with
    | refused status at_pc slot untaken =>
      rcases untaken with ⟨hdown, -⟩ | ⟨⟨cell, hcell, hforeign⟩, -⟩
      · rw [hterms.active] at hdown
        cases hdown
      · have hid := issuerIds_of_getElem? hcell
        rw [hissuer, hminted.issuer] at hid
        exact absurd (Option.some.inj hid) hforeign
    | lost at_pc slot inactive => exact h.inactive_of_lost hissued at_pc slot inactive
    | answered at_pc slot =>
      have htook := le_tally (TokenPc.tookToken found.key) (List.mem_of_getElem? at_pc)
      rw [TokenPc.tookToken, if_pos rfl] at htook
      have htokens := h.account.tokens found.key
      have honce := h.account.once found.key
      show tally _ w.tokens = 0
      omega

/-- An attempt at another issuer reads the token and leaves it as it is. -/
theorem TokenInv.foreignAttempt (h : TokenInv trace w)
    (step : TokenStep w a w' (.consumeAnswered call found result))
    (hissued : IssuedIn trace issue found) (hforeign : call.issuer ≠ issue.issuer) :
    result.status = .foreignIssuer ∧ w'.tokens = w.tokens ∧
      w'.tokens[call.slot]? = some found := by
  cases step with
  | refused status at_pc slot untaken =>
    rcases untaken with ⟨hdown, -⟩ | ⟨-, rfl⟩
    · rw [(h.origin.minted issue found hissued).1.active] at hdown
      cases hdown
    · exact ⟨rfl, rfl, slot⟩
  | lost at_pc | answered at_pc =>
    exact absurd (h.issuer_of_id hissued (h.origin.pcs _ (List.mem_of_getElem? at_pc)).2.1)
      hforeign

end Answers

/-! ## An active token can be consumed -/

theorem terminalStatus_of_terms {cell : AdmissionCellIdentity} {worker : AdmissionWorkerIdentity}
    {now : UInt64} (hcell : token.cell = cell) (hvalid : admissionCellIdentityValid cell = true)
    (hworker : token.worker = worker) (hcomplete : worker.incomplete = false)
    (hafter : token.issuedMonotonicMilliseconds ≤ now)
    (hbefore : now ≤ token.expiresMonotonicMilliseconds) :
    token.terminalStatus cell worker now = .consumed := by
  unfold terminalStatus
  refine (if_neg ?_).trans ((if_neg ?_).trans (if_neg ?_))
  · simp [hvalid, hcell]
  · simp [hcomplete, hworker]
  · rintro (hearly | hlate)
    · exact absurd hafter (UInt64.not_le.2 hearly)
    · exact absurd hbefore (UInt64.not_le.2 hlate)

section Alone

variable {w : TokenWorld} {call : ConsumeCall} {read : AdmissionToken}

theorem advance_consumeStart {cell : IssuerCell}
    (hpc : w.threads[thread]? = some (.consumeStart call))
    (htoken : w.tokens[call.slot]? = some token) (hactive : token.active = true)
    (hcell : w.issuers[call.issuer]? = some cell) (hid : token.issuerId = cell.issuer.issuerId) :
    w.exec (.advance thread) = some (w.setPc thread (.consumeJudged call token), .silent) := by
  simp [TokenWorld.exec, TokenWorld.advance, hpc, stepConsumeStart, htoken, hcell, hactive, hid]

theorem advance_consumeJudged (hpc : w.threads[thread]? = some (.consumeJudged call read))
    (htoken : w.tokens[call.slot]? = some token) (hactive : token.active = true) :
    w.exec (.advance thread) =
      some ((w.setToken call.slot { token with active := false }).setPc thread
        (.consumeWon call read), .silent) := by
  simp [TokenWorld.exec, TokenWorld.advance, hpc, stepConsumeJudged, htoken, hactive]

theorem advance_consumeWon (hpc : w.threads[thread]? = some (.consumeWon call read))
    (htoken : w.tokens[call.slot]? = some token) : w.exec (.advance thread) =
      some (w.setPc thread .idle, .consumeAnswered call read
        (token.consumeResult (read.terminalStatus call.cell call.worker call.now))) := by
  simp [TokenWorld.exec, TokenWorld.advance, hpc, stepConsumeWon, htoken]

end Alone

/-- A thread that is left alone consumes an active token on its terms. -/
theorem TokenInv.consumable {trace : TokenTrace} {w : TokenWorld} (h : TokenInv trace w)
    {slot : ℕ} {now : UInt64} (hidle : w.threads[thread]? = some .idle)
    (htoken : w.tokens[slot]? = some token) (hissued : IssuedIn trace issue token)
    (hafter : issue.now ≤ now) (hbefore : now ≤ token.expiresMonotonicMilliseconds) :
    let call : ConsumeCall := ⟨issue.issuer, slot, issue.cell, issue.worker, now⟩
    ∃ w', Run TokenWorld.exec w
      [(.callConsume thread call, .silent), (.advance thread, .silent), (.advance thread, .silent),
        (.advance thread, .consumeAnswered call token
          { status := .consumed, effectiveCapBytes := issue.receipt.effectiveCapBytes })] w' := by
  intro call
  obtain ⟨hterms, hminted⟩ := h.origin.minted issue token hissued
  obtain ⟨cell, hcell, -⟩ := hminted.passed
  have hid : token.issuerId = cell.issuer.issuerId :=
    Option.some.inj (hminted.issuer.symm.trans (issuerIds_of_getElem? hcell))
  have hbounds : call.slot < w.tokens.length ∧ call.issuer < w.issuers.length :=
    ⟨(List.getElem?_eq_some_iff.1 htoken).1, (List.getElem?_eq_some_iff.1 hcell).1⟩
  have hterminal : token.terminalStatus call.cell call.worker call.now = .consumed :=
    terminalStatus_of_terms hterms.cell hterms.cell_valid hterms.worker hterms.worker_complete
      (hterms.issued ▸ hafter) hbefore
  -- the four states of the call, one after the other
  have hcalled : w.exec (.callConsume thread call) =
      some (w.setPc thread (.consumeStart call), .silent) := by
    simp only [TokenWorld.exec, hidle, if_pos hbounds]
  have hstart : (w.setPc thread (.consumeStart call)).threads[thread]? =
      some (.consumeStart call) := getElem?_set_of hidle _
  have hjudged : ((w.setPc thread (.consumeStart call)).setPc thread
      (.consumeJudged call token)).threads[thread]? = some (.consumeJudged call token) :=
    getElem?_set_of hstart _
  have hwon := getElem?_set_of hjudged (.consumeWon call token)
  have hslot := getElem?_set_of htoken { token with active := false }
  have hanswer : consumeResult { token with active := false }
      (token.terminalStatus call.cell call.worker call.now) =
        { status := .consumed, effectiveCapBytes := issue.receipt.effectiveCapBytes } := by
    rw [hterminal, consumeResult, if_pos rfl, ← hterms.cap]
  have called := Run.single hcalled
  have judged := called.snoc (advance_consumeStart hstart htoken hterms.active hcell hid)
  have won := judged.snoc (advance_consumeJudged hjudged htoken hterms.active)
  have answered := won.snoc (advance_consumeWon hwon hslot)
  rw [hanswer] at answered
  exact ⟨_, answered⟩

/-! ## The contract -/

/-- **Tokens and receipts are good for one use**, after every run of any number of
threads over any issuers, receipts, copies and tokens. In turn: a receipt id yields
at most one token; a token id of an issuer is not repeated; a token is issued once
and consumed once; a token carries its receipt's id and does not outlive it. Then,
for the answer of any consumption the process can give next: a `Consumed` answer
meets its terms; a wrong attempt at the issuing issuer makes the token unusable; an
attempt at another issuer leaves it as it was. And an active token is usable. -/
theorem one_shot_tokens {trace : TokenTrace} {w : TokenWorld}
    (run : Run TokenWorld.exec {} trace w) :
    (∀ receiptId, tally (issuedFrom receiptId) trace ≤ 1) ∧
    (∀ issuer tokenId, tally (issuedBy issuer tokenId) trace ≤ 1) ∧
    (∀ key, tally (issuedToken key) trace ≤ 1 ∧ tally (consumedToken key) trace ≤ 1) ∧
    (∀ issue token, IssuedIn trace issue token →
      token.receiptId = issue.receipt.receiptId ∧
      token.expiresMonotonicMilliseconds.toNat ≤
        issue.receipt.evaluationMonotonicMilliseconds.toNat +
          issue.receipt.timing.maximumGuardAgeMilliseconds.toNat) ∧
    (∀ a w' call found result, w.exec a = some (w', .consumeAnswered call found result) →
      (result.status = .consumed →
        ∃ issue, IssuedIn trace issue found ∧ ConsumeTerms issue call found result) ∧
      ∀ issue, IssuedIn trace issue found →
        (call.issuer = issue.issuer → WrongAttempt issue call found →
          result.status ≠ .consumed ∧ Unusable w' found.key) ∧
        (call.issuer ≠ issue.issuer →
          result.status = .foreignIssuer ∧ w'.tokens = w.tokens ∧
            w'.tokens[call.slot]? = some found)) ∧
    ∀ (thread slot : ℕ) token issue now, w.threads[thread]? = some .idle →
      w.tokens[slot]? = some token → IssuedIn trace issue token → issue.now ≤ now →
      now ≤ token.expiresMonotonicMilliseconds →
        let call : ConsumeCall := ⟨issue.issuer, slot, issue.cell, issue.worker, now⟩
        ∃ w', Run TokenWorld.exec w
          [(.callConsume thread call, .silent), (.advance thread, .silent),
            (.advance thread, .silent), (.advance thread, .consumeAnswered call token
              { status := .consumed,
                effectiveCapBytes := issue.receipt.effectiveCapBytes })] w' := by
  have h := tokenInv_run run
  refine ⟨h.issuedFrom_le_one, h.issuedBy_le_one,
    fun key => ⟨h.account.once key, h.consumedToken_le_one key⟩, ?_, ?_, ?_⟩
  · intro issue token hissued
    have hterms := (h.origin.minted issue token hissued).1
    exact ⟨hterms.receipt, hterms.expiry⟩
  · intro a w' call found result hexec
    have step := tokenStep_of_exec hexec
    refine ⟨h.consumeTerms step, fun issue hissued => ⟨?_, ?_⟩⟩
    · exact h.wrongAttempt step hissued
    · exact h.foreignAttempt step hissued
  · intro thread slot token issue now hidle htoken hissued hafter hbefore
    exact h.consumable hidle htoken hissued hafter hbefore

/-- Two issuers and two threads: a token is issued from a copy of a receipt, moved,
tried at the other issuer, and consumed. -/
def Fixture.tokenActions : List TokenAction :=
  let worker : AdmissionWorkerIdentity := ⟨41, "job", "worker.exe"⟩
  let now := postReceipt.evaluationMonotonicMilliseconds
  [.newIssuer, .newIssuer, .spawn, .spawn, .stageB postRequest, .copyReceipt 0,
    .callIssue 0 1 0 cell worker now 1, .callIssue 1 0 1 cell worker now 1,
    .advance 0, .advance 1, .advance 0, .advance 1, .advance 0, .moveConstruct 0,
    .callConsume 1 ⟨1, 1, cell, worker, now⟩, .advance 1,
    .callConsume 0 ⟨0, 1, cell, worker, now⟩, .advance 0, .advance 0]

/-- The next answer of the first thread is `Consumed`. -/
def TokenWorld.consumesNext (w : TokenWorld) : Bool :=
  match w.exec (.advance 0) with
  | some (_, .consumeAnswered _ _ result) => result.status = .consumed
  | _ => false

theorem one_shot_tokens_on_fixture : ∃ trace w, Run TokenWorld.exec {} trace w ∧
    tally (issuedFrom 1) trace = 1 ∧ (∀ receiptId, tally (issuedFrom receiptId) trace ≤ 1) ∧
    ∃ w' call found result, w.exec (.advance 0) = some (w', .consumeAnswered call found result) ∧
      ∃ issue, IssuedIn trace issue found ∧ ConsumeTerms issue call found result := by
  obtain ⟨trace, w, run, hcheck⟩ := Run.exists_of_runActions Fixture.tokenActions
    (fun result => tally (issuedFrom 1) result.1 = 1 && result.2.consumesNext)
    (show (runActions TokenWorld.exec {} Fixture.tokenActions).any _ = true by decide)
  rw [Bool.and_eq_true, decide_eq_true_eq] at hcheck
  obtain ⟨hone, hnext⟩ := hcheck
  have hcontract := one_shot_tokens run
  unfold TokenWorld.consumesNext at hnext
  split at hnext
  · rename_i w' call found answer hexec
    exact ⟨trace, w, run, hone, hcontract.1, w', call, found, answer, hexec,
      (hcontract.2.2.2.2.1 _ _ _ _ _ hexec).1 (by simpa using hnext)⟩
  · cases hnext

end PrismInfer.Governor
