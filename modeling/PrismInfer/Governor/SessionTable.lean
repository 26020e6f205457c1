import PrismInfer.Governor.SessionRuns
import PrismInfer.Lib.Tally

/-!
# The transition table of a session

`SessionStep` lists what the operations of a session can do to it: the ways
forward through the fifteen states with all that was checked on the way, the ways
down (`closed`, `quarantined`), and the cleanup. `sessionStep_of_run` says that the
operations do nothing else; the results about sessions are case analyses over the
table and never unfold an operation.
-/

namespace PrismInfer.Governor

open PrismInfer.Lib

/-! ## Milestones -/

/-- The five successes on the way to a running worker. -/
inductive Milestone
  | preContextAdmitted
  | workerBound
  | postContextAdmitted
  | tokenIssued
  | tokenConsumed
  deriving DecidableEq

/-- The success that an answer reports, if it is one of the five. -/
def SessionAnswer.milestone : SessionAnswer → Option Milestone
  | .preContext decision => if decision.admitted then some .preContextAdmitted else none
  | .bound ok => if ok then some .workerBound else none
  | .postContext decision => if decision.admitted then some .postContextAdmitted else none
  | .issued result => if result.status = .issued then some .tokenIssued else none
  | .consumed _ result => if result.status = .consumed then some .tokenConsumed else none
  | _ => none

theorem withoutSession_milestone (operation : SessionOperation) :
    operation.withoutSession.milestone = none := by
  cases operation <;> rfl

/-! ## The table -/

/-- The evidence and the times with which a cleanup ends in `Cleaned`. -/
structure CleanupTerms (impl : SessionImpl) (evidence : SupervisorCleanupEvidence)
    (now : UInt64) : Prop where
  at_state : impl.state = .cleanupStarted
  evidence : evidence.complete = true
  started : impl.cleanupStartedMonotonicMilliseconds ≠ 0
  receipt : ∃ receipt, impl.postReceipt = some receipt ∧
    impl.cleanupStartedMonotonicMilliseconds.toNat ≤ now.toNat ∧
    now.toNat - impl.cleanupStartedMonotonicMilliseconds.toNat ≤
      receipt.timing.cleanupMilliseconds.toNat ∧
    (impl.cancelRequestedMonotonicMilliseconds ≠ 0 →
      impl.cancelRequestedMonotonicMilliseconds.toNat ≤ now.toNat ∧
      now.toNat - impl.cancelRequestedMonotonicMilliseconds.toNat ≤
        receipt.timing.cleanupMilliseconds.toNat)

/-- The session after `cleanup_owned` has run to its end. -/
def SessionImpl.cleanedUp (impl : SessionImpl) (evidence : SupervisorCleanupEvidence)
    (state : GpuAdmissionSessionState) : SessionImpl :=
  { impl with
    preReceipt := none
    postReceipt := none
    worker := none
    terminalEvidence := some evidence
    lease := none
    state := state }

/-- The call confirms that the aborted job is gone: its tree was found empty within
the cleanup time, or the worker's run has ended with exit and empty tree observed. -/
def SessionOperation.ConfirmsAbort (impl : SessionImpl) : SessionOperation → Prop
  | .recordJobAbort now jobTreeEmpty =>
    jobTreeEmpty = true ∧ impl.cancelRequestedMonotonicMilliseconds ≤ now ∧
      ∃ receipt, impl.postReceipt = some receipt ∧
        now - impl.cancelRequestedMonotonicMilliseconds ≤ receipt.timing.cleanupMilliseconds
  | .endOfRun result => result.workerExitObserved = true ∧ result.jobTreeEmpty = true
  | _ => False

/-- Every way an operation can change a session. -/
inductive SessionStep (p : AdmissionProcess) (impl : SessionImpl) :
    SessionOperation → AdmissionProcess → SessionImpl → SessionAnswer → Prop
  | preAdmitted {request : PreContextAdmissionRequest} {decision receipt}
      (at_state : impl.state = .leaseHeld)
      (lease : impl.lease.any (·.active) = true)
      (cell : receipt.cell = impl.cell) (high : receipt.adapterLuidHigh = impl.adapterLuidHigh)
      (low : receipt.adapterLuidLow = impl.adapterLuidLow)
      (admitted : decision.admitted = true) :
      SessionStep p impl (.admitPreContext request) p
        { impl with preReceipt := some receipt, state := .preContextAdmitted }
        (.preContext decision)
  | bound {evidence : NativeWorkerContainmentIdentity}
      (at_state : impl.state = .preContextAdmitted) :
      SessionStep p impl (.bindOwnedWorker evidence) p
        { impl with worker := some evidence, state := .workerContained } (.bound true)
  | postAdmitted {request : PostContextAdmissionRequest} {decision receipt ledger}
      (at_state : impl.state = .workerContained) (worker : impl.worker.isSome = true)
      (cell : receipt.cell = impl.cell) (high : receipt.adapterLuidHigh = impl.adapterLuidHigh)
      (low : receipt.adapterLuidLow = impl.adapterLuidLow)
      (admitted : decision.admitted = true) :
      SessionStep p impl (.admitPostContext request) { p with ledger := ledger }
        { impl with postReceipt := some receipt, state := .postContextAdmitted }
        (.postContext decision)
  | issued {now validity : UInt64} {receipt consumed token}
      (at_state : impl.state = .postContextAdmitted) (post : impl.postReceipt = some receipt)
      (issuer : token.issuerId = impl.tokenIssuer.issuerId ∧ token.issuerId ≠ 0)
      (bound : token.receiptId = receipt.receiptId ∧ token.cell = impl.cell ∧
        token.worker = impl.workerIdentity ∧
        token.effectiveCapBytes = receipt.effectiveCapBytes)
      (active : token.active = true) :
      SessionStep p impl (.issueToken now validity)
        { p with ledger := { p.ledger with consumed := consumed }, tokens := p.tokens ++ [token] }
        { impl with tokenIssuer := impl.tokenIssuer.recorded receipt, state := .tokenIssued }
        (.issued { status := .issued, token := some token })
  | consumed {slot : ℕ} {now : UInt64} {token} (at_state : impl.state = .tokenIssued)
      (found : p.tokens[slot]? = some token) (active : token.active = true)
      (own : token.issuerId = impl.tokenIssuer.issuerId)
      (bound : token.cell = impl.cell ∧ token.worker = impl.workerIdentity) :
      SessionStep p impl (.consumeToken slot now)
        { p with tokens := p.tokens.set slot { token with active := false } }
        { impl with state := .tokenConsumed }
        (.consumed token
          { status := .consumed, effectiveCapBytes := token.effectiveCapBytes })
  | continued {sample : SupervisorWatchdogSample} {receipt}
      (at_state : impl.state = .tokenConsumed ∨ impl.state = .watchdogActive)
      (post : impl.postReceipt = some receipt)
      (continues : (evaluateSupervisorWatchdog receipt sample).continueWork = true) :
      SessionStep p impl (.evaluateWatchdog sample) p { impl with state := .watchdogActive }
        (.watchdog (evaluateSupervisorWatchdog receipt sample))
  | cancelled {operation answer} (time : UInt64)
      (at_state : impl.state = .tokenConsumed ∨ impl.state = .watchdogActive)
      (stopped : ∀ decision, answer = .watchdog decision → decision.continueWork = false)
      (failed : answer.milestone = none) :
      SessionStep p impl operation p
        { impl with state := .cancelRequested, cancelRequestedMonotonicMilliseconds := time }
        answer
  | cancelling {operation decision next}
      (at_state : impl.state = .cancelRequested ∨ impl.state = .cooperativeCancelAcknowledged)
      (to_state : next = .jobAbortRequired ∨ next = .workerExited ∨
        next = .cooperativeCancelAcknowledged ∨ next = impl.state) :
      SessionStep p impl operation p { impl with state := next } (.cancellation decision)
  | exited {operation answer} (teardown : NativeWorkerTeardown)
      (pending : Option AdmissionToken) (kept : ∀ token ∈ pending, impl.pendingToken = some token)
      (at_state : impl.state = .watchdogActive ∨ impl.state = .cancelRequested ∨
        impl.state = .cooperativeCancelAcknowledged ∨ impl.state = .jobAbortRequired)
      (quiet : ∀ decision, answer ≠ .watchdog decision) (failed : answer.milestone = none)
      (confirmed : impl.state = .jobAbortRequired → operation.ConfirmsAbort impl) :
      SessionStep p impl operation p
        { impl with
          pendingToken := pending, ownedTeardown := teardown, state := .workerExited } answer
  | ended {result : NativeWorkerTeardown} :
      SessionStep p impl (.endOfRun result) p
        { impl with pendingToken := none, ownedTeardown := result } (.done true)
  | began {now : UInt64} (nonzero : now ≠ 0)
      (at_state : impl.state = .workerExited ∨
        impl.state = .failedClosed ∧ impl.worker = none) :
      SessionStep p impl (.beginCleanup now) p
        { impl with cleanupStartedMonotonicMilliseconds := now, state := .cleanupStarted }
        (.done true)
  | cleaned {evidence now} (terms : CleanupTerms impl evidence now) :
      SessionStep p impl (.cleanupOwned evidence now)
        { p with registry := impl.dropLease p.registry } (impl.cleanedUp evidence .cleaned)
        (.cleanup .cleaned)
  | uncleaned {evidence now} :
      SessionStep p impl (.cleanupOwned evidence now) p (impl.cleanedUp evidence .quarantined)
        (.cleanup .quarantined)
  | quarantined {operation answer} (lease : Option ExclusiveGpuLease)
      (teardown : NativeWorkerTeardown) (pending : Option AdmissionToken)
      (kept : ∀ token ∈ pending, impl.pendingToken = some token)
      (leased : lease = impl.lease ∨
        lease = impl.lease.map (·.quarantineForProcessLifetime))
      (quiet : ∀ decision, answer ≠ .watchdog decision)
      (uncleaned : answer ≠ .cleanup .cleaned) (failed : answer.milestone = none) :
      SessionStep p impl operation p
        { impl with
          lease := lease, pendingToken := pending, ownedTeardown := teardown
          state := .quarantined } answer
  | closed {operation answer}
      (stopped : ∀ decision, answer = .watchdog decision → decision.continueWork = false)
      (uncleaned : answer ≠ .cleanup .cleaned) (failed : answer.milestone = none) :
      SessionStep p impl operation p impl.failClosed answer
  | closedBy {slot : ℕ} {now : UInt64} {token result}
      (found : p.tokens[slot]? = some token) (failed : result.status ≠ .consumed) :
      SessionStep p impl (.consumeToken slot now)
        { p with tokens := p.tokens.set slot { token with active := false } } impl.failClosed
        (.consumed token result)
  | kept {operation} (ok : Bool) : SessionStep p impl operation p impl (.done ok)
  | stored {slot : ℕ} {token} (found : p.tokens[slot]? = some token) :
      SessionStep p impl (.storePendingToken slot)
        { p with tokens := p.tokens.set slot .invalidated }
        { impl with pendingToken := some token } (.done true)
  | taken {tokenId token} (pending : impl.pendingToken = some token) :
      SessionStep p impl (.takePendingToken tokenId) { p with tokens := p.tokens ++ [token] }
        { impl with pendingToken := none } (.done true)

/-! ## The operations do nothing else -/

section Inversion

variable {p p' : AdmissionProcess} {impl impl' : SessionImpl} {answer : SessionAnswer}

theorem preContext_not_admitted {decision : PreContextAdmissionDecision}
    (h : decision.admitted = false) : (SessionAnswer.preContext decision).milestone = none := by
  rw [SessionAnswer.milestone, h]
  rfl

theorem postContext_not_admitted {decision : PostContextAdmissionDecision}
    (h : decision.admitted = false) : (SessionAnswer.postContext decision).milestone = none := by
  rw [SessionAnswer.milestone, h]
  rfl

theorem sessionStep_admitPreContext (request : PreContextAdmissionRequest) :
    SessionStep p impl (.admitPreContext request) p (impl.admitPreContext request).2
      (.preContext (impl.admitPreContext request).1) := by
  unfold SessionImpl.admitPreContext
  by_cases hmismatch : impl.state ≠ .leaseHeld ∨ request.cell ≠ impl.cell ∨
      request.gpu.adapterLuidHigh ≠ impl.adapterLuidHigh ∨
      request.gpu.adapterLuidLow ≠ impl.adapterLuidLow
  · rw [if_pos hmismatch]
    exact .closed (by simp) (by simp) rfl
  rw [if_neg hmismatch]
  simp only [not_or, not_not] at hmismatch
  obtain ⟨hstate, hcell, hhigh, hlow⟩ := hmismatch
  dsimp only
  have hpassed := @preAdmitted_of_admitted
    { request with exclusiveGpuLeaseHeld := impl.lease.any (·.active) }
  generalize evaluatePreContextAdmission _ = decision at hpassed ⊢
  by_cases hadmitted : decision.admitted = true
  · -- an admitted request has a receipt
    have hpre := hpassed hadmitted
    obtain ⟨deadline, -, -, hreceipt⟩ := hpre.receipt
    rw [if_neg (by simp [hadmitted, hreceipt]), hreceipt]
    exact .preAdmitted hstate hpre.lease_held hcell
      (hpre.echoed.2.2.2.1.trans hhigh) (hpre.echoed.2.2.2.2.trans hlow) hadmitted
  · rw [if_pos (.inl (by simpa using hadmitted))]
    exact .closed (by simp) (by simp)
      (preContext_not_admitted (by simpa using hadmitted))

theorem sessionStep_bindOwnedWorker (evidence : NativeWorkerContainmentIdentity) :
    SessionStep p impl (.bindOwnedWorker evidence) p (impl.bindOwnedWorker evidence).2
      (.bound (impl.bindOwnedWorker evidence).1) := by
  unfold SessionImpl.bindOwnedWorker
  split
  · rename_i hvalid
    exact .bound hvalid.1
  · exact .closed (by simp) (by simp) rfl

theorem sessionStep_admitPostContext (request : PostContextAdmissionRequest) :
    SessionStep p impl (.admitPostContext request)
      { p with ledger := (impl.admitPostContext p.ledger request).2.1 }
      (impl.admitPostContext p.ledger request).2.2
      (.postContext (impl.admitPostContext p.ledger request).1) := by
  unfold SessionImpl.admitPostContext
  by_cases hmismatch : impl.state ≠ .workerContained ∨ impl.worker.isNone ∨
      impl.preReceipt.isNone ∨ request.cell ≠ impl.cell ∨
      impl.worker.map (·.rootProcessId) ≠ some request.ownedGpu.processId ∨
      request.gpu.adapterLuidHigh ≠ impl.adapterLuidHigh ∨
      request.gpu.adapterLuidLow ≠ impl.adapterLuidLow
  · rw [if_pos hmismatch]
    exact .closed (by simp) (by simp) rfl
  rw [if_neg hmismatch]
  simp only [not_or, not_not] at hmismatch
  obtain ⟨hstate, hworker, -, hcell, -, hhigh, hlow⟩ := hmismatch
  dsimp only
  have hpassed := @postAdmitted_of_admitted p.ledger
    { request with preContextReceipt := impl.preReceipt }
  have hclean := rejectedCleanly p.ledger { request with preContextReceipt := impl.preReceipt }
  generalize evaluatePostContextAdmission _ _ = result at hpassed hclean ⊢
  obtain ⟨decision, ledger⟩ := result
  by_cases hadmitted : decision.admitted = true
  · obtain ⟨⟨pre, hpost⟩, -⟩ := hpassed hadmitted
    obtain ⟨receiptId, -, hreceipt⟩ := hpost.receipt
    dsimp only at hreceipt ⊢
    rw [if_neg (by simp [hadmitted, hreceipt]), hreceipt]
    exact .postAdmitted hstate (by simpa [Option.isSome_iff_ne_none] using hworker) hcell hhigh
      hlow hadmitted
  · -- a rejection leaves the ledger as it was
    rcases hclean with hcontra | ⟨-, rfl⟩
    · exact absurd hcontra hadmitted
    · rw [if_pos (.inl (by simpa using hadmitted))]
      exact .closed (by simp) (by simp)
        (postContext_not_admitted (by simpa using hadmitted))

theorem sessionStep_issueToken (now validity : UInt64) :
    let result := impl.issueToken p.ledger.consumed now validity
    SessionStep p impl (.issueToken now validity)
      { p with
        ledger := { p.ledger with consumed := result.2.1 }
        tokens := p.tokens ++ result.1.token.toList } result.2.2 (.issued result.1) := by
  -- a call that is refused before the issuer is asked changes the state only
  have hrefused : SessionStep p impl (.issueToken now validity)
      { p with
        ledger := { p.ledger with consumed := p.ledger.consumed }
        tokens := p.tokens ++ [] } impl.failClosed
      (.issued { status := .supervisorStateInvalid }) := by
    rw [List.append_nil]
    exact .closed (by simp) (by simp) rfl
  generalize hresult : impl.issueToken p.ledger.consumed now validity = result
  unfold SessionImpl.issueToken at hresult
  split at hresult
  · subst hresult
    exact hrefused
  rename_i receipt hpost
  split at hresult
  · subst hresult
    exact hrefused
  rename_i hstate
  rcases issue_cases impl.tokenIssuer p.ledger.consumed receipt impl.cell impl.workerIdentity now
    validity with ⟨status, hstatus, hissue⟩ | ⟨expires, consumed, hchecked, hissue⟩
  · rw [hissue] at hresult
    dsimp only at hresult
    rw [if_pos (.inl hstatus)] at hresult
    subst hresult
    show SessionStep p impl _ { p with tokens := p.tokens ++ [] } _ _
    rw [List.append_nil]
    exact .closed (by simp) (by simp) (if_neg hstatus)
  · rw [hissue] at hresult
    dsimp only at hresult
    rw [if_neg (by simp)] at hresult
    subst hresult
    exact .issued (not_not.1 hstate) hpost ⟨rfl, hchecked.issuerId_ne_zero⟩ ⟨rfl, rfl, rfl, rfl⟩
      rfl

theorem sessionStep_consumeToken {slot : ℕ} {token : AdmissionToken}
    (htoken : p.tokens[slot]? = some token) (now : UInt64) :
    let result := impl.consumeToken token now
    SessionStep p impl (.consumeToken slot now)
      { p with tokens := p.tokens.set slot result.2.1 } result.2.2
      (.consumed token result.1) := by
  -- a failure that leaves the token as it was
  have hclosed : ∀ status, status ≠ .consumed →
      SessionStep p impl (.consumeToken slot now)
        { p with tokens := p.tokens.set slot token } impl.failClosed
        (.consumed token { status := status }) := by
    intro status hstatus
    rw [← set_of_getElem? htoken]
    exact .closed (by simp) (by simp) (if_neg hstatus)
  generalize hresult : impl.consumeToken token now = result
  unfold SessionImpl.consumeToken at hresult
  split at hresult
  · subst hresult
    exact hclosed _ (by decide)
  rename_i hstate
  split at hresult
  · subst hresult
    exact hclosed _ (by decide)
  rcases consume_cases impl.tokenIssuer token impl.cell impl.workerIdentity now with
    ⟨status, hstatus, hconsume | hconsume⟩ | ⟨hactive, hown, hcell, hworker, hconsume⟩
  · rw [hconsume] at hresult
    dsimp only at hresult
    rw [if_pos hstatus] at hresult
    subst hresult
    exact hclosed _ hstatus
  · rw [hconsume] at hresult
    dsimp only at hresult
    rw [if_pos hstatus] at hresult
    subst hresult
    exact .closedBy htoken hstatus
  · rw [hconsume] at hresult
    dsimp only at hresult
    rw [if_neg (by simp)] at hresult
    subst hresult
    exact .consumed (not_not.1 hstate) htoken hactive hown ⟨hcell, hworker⟩

theorem sessionStep_evaluateWatchdog (sample : SupervisorWatchdogSample) :
    SessionStep p impl (.evaluateWatchdog sample) p (impl.evaluateWatchdog sample).2
      (.watchdog (impl.evaluateWatchdog sample).1) := by
  have hrejected : SessionStep p impl (.evaluateWatchdog sample) p impl.failClosed
      (.watchdog {}) := .closed (fun _ h => by cases h; rfl) (fun h => by cases h) rfl
  unfold SessionImpl.evaluateWatchdog
  split
  · exact hrejected
  rename_i receipt hpost
  by_cases hmismatch : (impl.state ≠ .tokenConsumed ∧ impl.state ≠ .watchdogActive) ∨
      impl.worker.isNone ∨ impl.worker.map (·.rootProcessId) ≠ some sample.ownedGpu.processId
  · rw [if_pos hmismatch]
    exact hrejected
  rw [if_neg hmismatch]
  rw [not_or, not_and_or, not_not, not_not] at hmismatch
  dsimp only
  by_cases hcontinue : (evaluateSupervisorWatchdog receipt sample).continueWork = true
  · rw [if_pos hcontinue]
    exact .continued hmismatch.1 hpost hcontinue
  · rw [if_neg hcontinue]
    exact .cancelled _ hmismatch.1 (fun _ h => by cases h; simpa using hcontinue) rfl

variable (now : UInt64)

theorem sessionStep_cancelRequested :
    SessionStep p impl (.cancelRequested now) p (impl.cancelRequested now) (.done true) := by
  unfold SessionImpl.cancelRequested
  split
  · rename_i hstate
    exact .cancelled now hstate (fun _ h => by cases h) rfl
  · exact .kept true

/-- Where a cancellation can lead. -/
theorem cancellationStep_state (state : GpuAdmissionSessionState) (timing : SupervisorTimingPolicy)
    (elapsed : UInt64) (acknowledged workerExited jobTreeEmpty : Bool) :
    let next := SessionImpl.cancellationStep state timing elapsed acknowledged workerExited
      jobTreeEmpty
    next.1 = .jobAbortRequired ∨ next.1 = .workerExited ∨
      next.1 = .cooperativeCancelAcknowledged ∨ next.1 = state := by
  generalize hnext : SessionImpl.cancellationStep state timing elapsed acknowledged workerExited
    jobTreeEmpty = next
  unfold SessionImpl.cancellationStep at hnext
  split at hnext
  · exact .inl (by rw [← hnext])
  split at hnext
  · split at hnext
    · exact .inl (by rw [← hnext])
    · exact .inr (.inl (by rw [← hnext]))
  split at hnext
  · exact .inl (by rw [← hnext])
  split at hnext
  · exact .inr (.inr (.inl (by rw [← hnext])))
  split at hnext
  · exact .inl (by rw [← hnext])
  · exact .inr (.inr (.inr (by rw [← hnext])))

variable {operation : SessionOperation}

theorem sessionStep_quarantined {decision : CancellationDecision} :
    SessionStep p impl operation p { impl with state := .quarantined } (.cancellation decision) :=
  .quarantined impl.lease impl.ownedTeardown impl.pendingToken (fun _ h => h) (.inl rfl)
    (by simp) (by simp) rfl

theorem sessionStep_advanceCancellation (acknowledged workerExited jobTreeEmpty : Bool) :
    let result := impl.advanceCancellation now acknowledged workerExited jobTreeEmpty
    SessionStep p impl operation p result.2 (.cancellation result.1) := by
  generalize hresult : impl.advanceCancellation now acknowledged workerExited jobTreeEmpty = result
  unfold SessionImpl.advanceCancellation at hresult
  dsimp only at hresult
  split at hresult
  · subst hresult
    exact sessionStep_quarantined
  split at hresult
  · subst hresult
    exact sessionStep_quarantined
  · rename_i receipt _ hmismatch
    subst hresult
    rw [not_or, not_and_or, not_not, not_not] at hmismatch
    exact .cancelling hmismatch.1 (cancellationStep_state ..)

theorem sessionStep_recordJobAbort (jobTreeEmpty : Bool) :
    let result := impl.recordJobAbort now jobTreeEmpty
    SessionStep p impl (.recordJobAbort now jobTreeEmpty) p result.2
      (.cancellation result.1) := by
  generalize hresult : impl.recordJobAbort now jobTreeEmpty = result
  unfold SessionImpl.recordJobAbort at hresult
  dsimp only at hresult
  split at hresult
  · subst hresult
    exact sessionStep_quarantined
  rename_i receipt hpost
  split at hresult
  · subst hresult
    exact sessionStep_quarantined
  rename_i hmismatch
  split at hresult
  · subst hresult
    exact sessionStep_quarantined
  · rename_i hlate
    subst hresult
    rw [not_or, not_not, UInt64.not_lt] at hmismatch
    rw [not_or, UInt64.not_lt] at hlate
    exact .exited impl.ownedTeardown impl.pendingToken (fun _ h => h)
      (.inr (.inr (.inr hmismatch.1))) (fun _ h => by cases h) rfl
      (fun _ => ⟨by simpa using hlate.1, hmismatch.2, receipt, hpost, hlate.2⟩)

theorem sessionStep_recordNormalWorkerExit (jobTreeEmpty : Bool) :
    let result := impl.recordNormalWorkerExit now jobTreeEmpty
    SessionStep p impl (.recordNormalWorkerExit now jobTreeEmpty) p result.2
      (.done result.1) := by
  generalize hresult : impl.recordNormalWorkerExit now jobTreeEmpty = result
  unfold SessionImpl.recordNormalWorkerExit at hresult
  split at hresult
  · subst hresult
    exact .kept false
  split at hresult
  · subst hresult
    exact .quarantined _ impl.ownedTeardown impl.pendingToken (fun _ h => h) (.inr rfl)
      (by simp) (by simp) rfl
  · rename_i hmismatch
    subst hresult
    rw [not_or, not_not] at hmismatch
    exact .exited impl.ownedTeardown impl.pendingToken (fun _ h => h) (.inl hmismatch.1)
      (fun _ h => by cases h) rfl (fun h => by cases hmismatch.1.symm.trans h)

theorem sessionStep_beginCleanup :
    SessionStep p impl (.beginCleanup now) p (impl.beginCleanup now).2
      (.done (impl.beginCleanup now).1) := by
  unfold SessionImpl.beginCleanup
  by_cases hzero : now = 0
  · rw [if_pos hzero]
    exact .kept false
  rw [if_neg hzero]
  by_cases hstate : impl.state ≠ .workerExited ∧
      (impl.state ≠ .failedClosed ∨ impl.worker.isSome)
  · rw [if_pos hstate]
    exact .quarantined _ impl.ownedTeardown impl.pendingToken (fun _ h => h) (.inr rfl)
      (by simp) (by simp) rfl
  · rw [if_neg hstate]
    rw [not_and_or, not_not, not_or, not_not] at hstate
    refine .began hzero (hstate.imp_right ?_)
    rintro ⟨hclosed, hworker⟩
    exact ⟨hclosed, by simpa using hworker⟩

/-- A quarantined lease is not released when its object goes. -/
theorem dropLease_quarantineLease (impl : SessionImpl) (registry : List String) :
    impl.quarantineLease.dropLease registry = registry := by
  unfold SessionImpl.quarantineLease SessionImpl.dropLease
  cases impl.lease with
  | none => rfl
  | some lease => rfl

theorem toNat_sub_le_of_le {now start bound : UInt64} (hle : start ≤ now)
    (h : now - start ≤ bound) :
    start.toNat ≤ now.toNat ∧ now.toNat - start.toNat ≤ bound.toNat := by
  have hsub := UInt64.toNat_sub_of_le now start hle
  have hbound := UInt64.le_iff_toNat_le.1 h
  rw [hsub] at hbound
  exact ⟨UInt64.le_iff_toNat_le.1 hle, hbound⟩

theorem cleanupTerms_of_deadlineMet {evidence : SupervisorCleanupEvidence} {now : UInt64}
    (hevidence : evidence.complete = true) (h : impl.deadlineMet now = true) :
    CleanupTerms impl evidence now := by
  unfold SessionImpl.deadlineMet at h
  rw [Bool.and_eq_true, Bool.and_eq_true, Bool.and_eq_true, beq_iff_eq, bne_iff_ne,
    decide_eq_true_eq] at h
  obtain ⟨⟨⟨hstate, hstarted⟩, hafter⟩, hreceipt⟩ := h
  cases hpost : impl.postReceipt with
  | none =>
    rw [hpost] at hreceipt
    cases hreceipt
  | some receipt =>
    rw [hpost, Option.any_some, Bool.and_eq_true, decide_eq_true_eq, Bool.or_eq_true,
      beq_iff_eq, Bool.and_eq_true, decide_eq_true_eq, decide_eq_true_eq] at hreceipt
    obtain ⟨hcleanup, hcancel⟩ := hreceipt
    obtain ⟨hle, hwithin⟩ := toNat_sub_le_of_le hafter hcleanup
    refine ⟨hstate, hevidence, hstarted, receipt, hpost, hle, hwithin, ?_⟩
    intro hnonzero
    rcases hcancel with hzero | ⟨hlater, hbound⟩
    · exact absurd hzero hnonzero
    · exact toNat_sub_le_of_le hlater hbound

theorem sessionStep_cleanupOwned (evidence : SupervisorCleanupEvidence) (now : UInt64) :
    let result := impl.cleanupOwned p.registry evidence now
    SessionStep p impl (.cleanupOwned evidence now) { p with registry := result.2.1 } result.2.2
      (.cleanup result.1) := by
  generalize hresult : impl.cleanupOwned p.registry evidence now = result
  unfold SessionImpl.cleanupOwned at hresult
  split at hresult
  · subst hresult
    exact .quarantined impl.lease impl.ownedTeardown impl.pendingToken (fun _ h => h)
      (.inl rfl) (by simp) (by simp) rfl
  dsimp only at hresult
  by_cases hcleaned : (evidence.complete && impl.deadlineMet now) = true
  · rw [if_pos hcleaned, if_pos hcleaned] at hresult
    subst hresult
    rw [Bool.and_eq_true] at hcleaned
    exact .cleaned (cleanupTerms_of_deadlineMet hcleaned.1 hcleaned.2)
  · rw [if_neg hcleaned, if_neg hcleaned, dropLease_quarantineLease] at hresult
    subst hresult
    exact .uncleaned

theorem sessionStep_endOfRun (teardown : NativeWorkerTeardown) :
    SessionStep p impl (.endOfRun teardown) p (impl.endOfRun teardown) (.done true) := by
  unfold SessionImpl.endOfRun
  dsimp only
  by_cases hexit : teardown.workerExitObserved ∧ teardown.jobTreeEmpty ∧
      (impl.state = .watchdogActive ∨ impl.state = .cancelRequested ∨
        impl.state = .cooperativeCancelAcknowledged ∨ impl.state = .jobAbortRequired)
  · rw [if_pos hexit, if_neg (by simp)]
    exact .exited teardown none (fun _ h => by cases h) hexit.2.2 (fun _ h => by cases h) rfl
      (fun _ => ⟨hexit.1, hexit.2.1⟩)
  rw [if_neg hexit]
  by_cases hlost : (!teardown.workerExitObserved) = true ∨ (!teardown.jobTreeEmpty) = true
  · rw [if_pos hlost, if_pos rfl]
    exact .quarantined _ teardown none (by simp) (.inr rfl) (by simp) (by simp) rfl
  rw [if_neg hlost]
  by_cases hquarantined : impl.state = .quarantined
  · rw [if_pos hquarantined]
    have hstep : SessionStep p impl (.endOfRun teardown) p
        { impl with
          lease := impl.lease.map (·.quarantineForProcessLifetime)
          pendingToken := none, ownedTeardown := teardown, state := .quarantined } (.done true) :=
      .quarantined _ teardown none (by simp) (.inr rfl) (by simp) (by simp) rfl
    rwa [← hquarantined] at hstep
  · rw [if_neg hquarantined]
    exact .ended

theorem sessionStep_takePendingToken (tokenId : UInt64) :
    let result := impl.takePendingToken tokenId
    SessionStep p impl (.takePendingToken tokenId)
      { p with tokens := p.tokens ++ result.1.toList } result.2 (.done result.1.isSome) := by
  have hfailed : SessionStep p impl (.takePendingToken tokenId)
      { p with tokens := p.tokens ++ [] } impl.failClosed (.done false) := by
    rw [List.append_nil]
    exact .closed (by simp) (by simp) rfl
  generalize hresult : impl.takePendingToken tokenId = result
  unfold SessionImpl.takePendingToken at hresult
  split at hresult
  · subst hresult
    exact hfailed
  rename_i token hpending
  split at hresult
  · subst hresult
    exact hfailed
  · subst hresult
    exact .taken hpending

/-- The table is all the operations do. -/
theorem sessionStep_of_run (h : impl.run p operation = some (p', impl', answer)) :
    SessionStep p impl operation p' impl' answer := by
  cases operation with
  | admitPreContext request =>
    cases h
    exact sessionStep_admitPreContext request
  | bindOwnedWorker evidence =>
    cases h
    exact sessionStep_bindOwnedWorker evidence
  | admitPostContext request =>
    cases h
    exact sessionStep_admitPostContext request
  | issueToken now validity =>
    cases h
    exact sessionStep_issueToken now validity
  | consumeToken slot now =>
    simp only [SessionImpl.run] at h
    split at h
    · cases h
    · rename_i token htoken
      cases h
      exact sessionStep_consumeToken htoken now
  | evaluateWatchdog sample =>
    cases h
    exact sessionStep_evaluateWatchdog sample
  | cancelRequested now =>
    cases h
    exact sessionStep_cancelRequested now
  | cancelAck now =>
    cases h
    exact sessionStep_advanceCancellation now true false false
  | advanceCancellation now acknowledged workerExited jobTreeEmpty =>
    cases h
    exact sessionStep_advanceCancellation now acknowledged workerExited jobTreeEmpty
  | recordJobAbort now jobTreeEmpty =>
    cases h
    exact sessionStep_recordJobAbort now jobTreeEmpty
  | recordNormalWorkerExit now jobTreeEmpty =>
    cases h
    exact sessionStep_recordNormalWorkerExit now jobTreeEmpty
  | beginCleanup now =>
    cases h
    exact sessionStep_beginCleanup now
  | cleanupOwned evidence now =>
    cases h
    exact sessionStep_cleanupOwned evidence now
  | endOfRun teardown =>
    cases h
    exact sessionStep_endOfRun teardown
  | failClosed =>
    cases h
    exact .closed (by simp) (by simp) rfl
  | storePendingToken slot =>
    simp only [SessionImpl.run] at h
    split at h
    · cases h
    · rename_i token htoken
      cases h
      exact .stored htoken
  | takePendingToken tokenId =>
    cases h
    exact sessionStep_takePendingToken tokenId

end Inversion

/-! ## Steps of the world -/

/-- The session that an acquisition makes. -/
def SessionImpl.fresh (cell : AdmissionCellIdentity) (high : Int32) (low : UInt32) (handle : ℕ)
    (issuerId : UInt64) : SessionImpl :=
  { cell := cell
    adapterLuidHigh := high
    adapterLuidLow := low
    lease := some ⟨high, low, makeLeaseId high low, some handle⟩
    tokenIssuer := { issuerId := issuerId } }

/-- Every step of a session in its process. -/
inductive WorldStep (w : SessionWorld) : SessionAction → SessionWorld → SessionOutcome → Prop
  | process {action p status} (step : w.process.step action = some (p, status)) :
      WorldStep w (.process action) { w with process := p } (action.outcome status)
  | refused {cell high low answer} (status) (refused : status ≠ .acquired) :
      WorldStep w (.acquire cell high low answer) w (.sessionReturned status)
  | acquired {cell high low answer handle} (fresh : w.handles = 0)
      (absent : makeLeaseId high low ∉ w.process.registry) :
      WorldStep w (.acquire cell high low answer)
        { process := { w.process with
            issuerSequence := (nextIssuerId w.process.issuerSequence).2
            registry := w.process.registry ++ [makeLeaseId high low] }
          session := some (.fresh cell high low handle (nextIssuerId w.process.issuerSequence).1)
          owner := 0
          handles := 1 } (.sessionReturned .acquired)
  | detached {handle} (operation : SessionOperation) :
      WorldStep w (.call handle operation) w (.detached operation.withoutSession)
  | operated {handle operation p impl impl' answer} (session : w.session = some impl)
      (step : SessionStep w.process impl operation p impl' answer) :
      WorldStep w (.call handle operation) { w with process := p, session := some impl' }
        (.answered answer)
  | moved {handle} (owner : ℕ) (alive : w.handles ≠ 0) :
      WorldStep w (.move handle) { w with owner := owner, handles := w.handles + 1 } .silent
  | abandoned {handle} : WorldStep w (.destroy handle) w .silent
  | destroyed {handle impl} (session : w.session = some impl) (alive : w.handles ≠ 0) :
      WorldStep w (.destroy handle)
        { w with
          process := { w.process with registry := impl.destroyed w.process.registry }
          session := none } .silent

/-- A lease is granted with its id added to the registry, or nothing changes. -/
theorem acquireExclusiveGpuLease_cases (registry : List String) (high : Int32) (low : UInt32)
    (answer : OsAnswer) : (∃ handle, makeLeaseId high low ∉ registry ∧
      acquireExclusiveGpuLease registry high low answer =
        ({ status := .acquired, lease := some ⟨high, low, makeLeaseId high low, some handle⟩ },
          registry ++ [makeLeaseId high low])) ∨
    ((acquireExclusiveGpuLease registry high low answer).1.status ≠ .acquired ∧
      (acquireExclusiveGpuLease registry high low answer).1.lease = none ∧
      (acquireExclusiveGpuLease registry high low answer).2 = registry) := by
  unfold acquireExclusiveGpuLease
  by_cases hinvalid : high = 0 ∧ low = 0
  · rw [if_pos hinvalid]
    exact .inr ⟨by simp, rfl, rfl⟩
  rw [if_neg hinvalid]
  by_cases hheld : makeLeaseId high low ∈ registry
  · rw [if_pos hheld]
    exact .inr ⟨by simp, rfl, rfl⟩
  rw [if_neg hheld]
  cases answer with
  | granted handle => exact .inl ⟨handle, hheld, rfl⟩
  | heldByAnotherProcess | systemError => exact .inr ⟨by simp, rfl, rfl⟩

variable {w w' : SessionWorld}

theorem worldStep_of_acquire {o : SessionOutcome} {cell : AdmissionCellIdentity} {high : Int32}
    {low : UInt32} {answer : OsAnswer} (h : w.exec (.acquire cell high low answer) = some (w', o)) :
    WorldStep w (.acquire cell high low answer) w' o := by
  simp only [SessionWorld.exec] at h
  split at h
  · cases h
  rename_i hfresh
  unfold acquireGpuAdmissionSession at h
  by_cases hvalid : (!admissionCellIdentityValid cell) = true
  · rw [if_pos hvalid] at h
    cases h
    exact .refused _ (by decide)
  rw [if_neg hvalid] at h
  dsimp only at h
  rcases acquireExclusiveGpuLease_cases w.process.registry high low answer with
    ⟨handle, habsent, hgranted⟩ | ⟨hstatus, hlease, hregistry⟩
  · rw [hgranted, if_neg (by simp)] at h
    cases h
    exact .acquired (not_not.1 hfresh) habsent
  · rw [if_pos (.inl hstatus), hregistry] at h
    cases h
    exact .refused _ (by decide)

/-- `WorldStep` is all that happens. -/
theorem worldStep_of_exec {a : SessionAction} {o : SessionOutcome} (h : w.exec a = some (w', o)) :
    WorldStep w a w' o := by
  cases a with
  | process action =>
    simp only [SessionWorld.exec] at h
    split at h
    · cases h
    · rename_i p status hstep
      cases h
      exact .process hstep
  | acquire cell high low answer => exact worldStep_of_acquire h
  | call handle operation =>
    simp only [SessionWorld.exec] at h
    split at h
    · cases h
    split at h
    · cases h
      exact .detached operation
    split at h
    · cases h
    · rename_i impl hsession
      split at h
      · cases h
      · rename_i p impl' answer hrun
        cases h
        exact .operated hsession (sessionStep_of_run hrun)
  | move handle =>
    simp only [SessionWorld.exec] at h
    split at h
    · cases h
    · rename_i hhandle
      cases h
      exact .moved _ (by omega)
  | destroy handle =>
    simp only [SessionWorld.exec] at h
    split at h
    · cases h
    rename_i hhandle
    split at h
    · cases h
      exact .abandoned
    split at h
    · cases h
    · rename_i impl hsession
      cases h
      exact .destroyed hsession (by omega)

/-- An answer comes from the session, on the handle that has it. -/
theorem run_of_exec {handle : ℕ} {answer : SessionAnswer}
    (h : w.exec (.call handle operation) = some (w', .answered answer)) :
    handle = w.owner ∧ ∃ p impl impl', w.session = some impl ∧
      impl.run w.process operation = some (p, impl', answer) ∧
      w' = { w with process := p, session := some impl' } := by
  simp only [SessionWorld.exec] at h
  split at h
  · cases h
  split at h
  · cases h
  rename_i howner
  split at h
  · cases h
  rename_i impl hsession
  split at h
  · cases h
  rename_i p impl' answer' hrun
  cases h
  exact ⟨not_not.1 howner, p, impl, impl', hsession, hrun, rfl⟩

end PrismInfer.Governor
