import PrismInfer.Governor.SessionCleanup

/-!
# The deadlines of a cancellation

What the answers of `advance_cancellation` and `record_job_abort`, and a cleanup to
`Cleaned`, say about the time that has passed since the cancellation was requested. The
calls may come with any times, also with times that go back.

* `advanceCancellation_cases`, `recordJobAbort_cases`: what one call can answer.
* `acknowledged_in_time`: a session in `CooperativeCancelAcknowledged` has had a call with an
  acknowledgement in time, in every run.
* `cancellation_deadlines_kept`: the deadlines, at every call of every run.
-/

namespace PrismInfer.Governor

open PrismInfer.Lib

/-! ## One call -/

section Calls

variable {impl : SessionImpl} {now : UInt64} {acknowledged workerExited jobTreeEmpty : Bool}

/-- The time that has passed since the request, for a call that does not come before it. -/
def SessionImpl.Elapsed (impl : SessionImpl) (now : UInt64) (elapsed : ℕ) : Prop :=
  impl.cancelRequestedMonotonicMilliseconds.toNat + elapsed = now.toNat

theorem elapsed_of_not_lt (h : ¬ now < impl.cancelRequestedMonotonicMilliseconds) :
    impl.Elapsed now (now - impl.cancelRequestedMonotonicMilliseconds).toNat := by
  have hle := UInt64.not_lt.1 h
  rw [SessionImpl.Elapsed, UInt64.toNat_sub_of_le _ _ hle]
  have := UInt64.le_iff_toNat_le.1 hle
  omega

/-- What a step of a cancellation answers, by its action. -/
theorem cancellationStep_action {state : GpuAdmissionSessionState} {timing : SupervisorTimingPolicy}
    {elapsed : UInt64} {next : GpuAdmissionSessionState} {action : CancellationAction}
    (h : SessionImpl.cancellationStep state timing elapsed acknowledged workerExited jobTreeEmpty =
      (next, action)) :
    (action = .abortJob ∧ next = .jobAbortRequired) ∨
    (action = .beginCleanup ∧ next = .workerExited ∧ workerExited = true ∧ jobTreeEmpty = true ∧
      elapsed.toNat ≤ timing.workerExitMilliseconds.toNat) ∨
    (action = .awaitCooperativeExit ∧ next = .cooperativeCancelAcknowledged ∧
      acknowledged = true ∧ elapsed.toNat < timing.workerExitMilliseconds.toNat ∧
      elapsed.toNat ≤ timing.cooperativeCancelAckMilliseconds.toNat) ∨
    (action = .awaitCooperativeExit ∧ next = state ∧
      elapsed.toNat < timing.workerExitMilliseconds.toNat ∧
      (state = .cooperativeCancelAcknowledged ∨
        elapsed.toNat < timing.cooperativeCancelAckMilliseconds.toNat)) := by
  have hbelow {bound : UInt64} (hle : ¬ elapsed > bound) : elapsed.toNat ≤ bound.toNat :=
    UInt64.le_iff_toNat_le.1 (UInt64.not_lt.1 hle)
  have hstrict {bound : UInt64} (hle : ¬ elapsed > bound) (hne : ¬ elapsed = bound) :
      elapsed.toNat < bound.toNat :=
    lt_of_le_of_ne (hbelow hle) fun heq => hne (UInt64.toNat_inj.1 heq)
  unfold SessionImpl.cancellationStep at h
  split at h
  · cases h
    exact .inl ⟨rfl, rfl⟩
  rename_i hexit
  split at h
  · split at h
    · cases h
      exact .inl ⟨rfl, rfl⟩
    · rename_i hexited hempty
      cases h
      exact .inr (.inl ⟨rfl, rfl, hexited, by simpa using hempty, hbelow hexit⟩)
  split at h
  · cases h
    exact .inl ⟨rfl, rfl⟩
  rename_i hnotEqual
  split at h
  · rename_i hack
    cases h
    exact .inr (.inr (.inl ⟨rfl, rfl, hack.1, hstrict hexit hnotEqual,
      UInt64.le_iff_toNat_le.1 hack.2⟩))
  split at h
  · cases h
    exact .inl ⟨rfl, rfl⟩
  · rename_i hlate
    cases h
    refine .inr (.inr (.inr ⟨rfl, rfl, hstrict hexit hnotEqual, ?_⟩))
    rw [not_and_or, not_not, ge_iff_le, UInt64.not_le] at hlate
    exact hlate.imp_right UInt64.lt_iff_toNat_lt.1

/-- A call is refused and quarantines, or it comes in a cancellation and not before its request. -/
theorem advanceCancellation_cases {decision : CancellationDecision} {impl' : SessionImpl}
    (h : impl.advanceCancellation now acknowledged workerExited jobTreeEmpty = (decision, impl')) :
    (decision.action = .quarantine ∧ impl' = { impl with state := .quarantined }) ∨
    ∃ receipt elapsed, impl.postReceipt = some receipt ∧ impl.Elapsed now elapsed.toNat ∧
      impl' = { impl with state := decision.state } ∧
      SessionImpl.cancellationStep impl.state receipt.timing elapsed acknowledged workerExited
        jobTreeEmpty = (decision.state, decision.action) := by
  unfold SessionImpl.advanceCancellation at h
  dsimp only at h
  split at h
  · cases h
    exact .inl ⟨rfl, rfl⟩
  rename_i receipt hreceipt
  split at h
  · cases h
    exact .inl ⟨rfl, rfl⟩
  rename_i hguard
  cases h
  exact .inr ⟨receipt, _, hreceipt, elapsed_of_not_lt (not_or.1 hguard).2, rfl, rfl⟩

/-- A call that comes before the request quarantines. -/
theorem advanceCancellation_early (h : now < impl.cancelRequestedMonotonicMilliseconds) :
    (impl.advanceCancellation now acknowledged workerExited jobTreeEmpty).2.state =
      .quarantined := by
  unfold SessionImpl.advanceCancellation
  split
  · rfl
  · rw [if_pos (.inr h)]

/-- An abort is refused, or it is recorded with its job tree empty and in time. -/
theorem recordJobAbort_cases {decision : CancellationDecision} {impl' : SessionImpl}
    (h : impl.recordJobAbort now jobTreeEmpty = (decision, impl')) :
    (decision.action = .quarantine ∧ impl' = { impl with state := .quarantined }) ∨
    (decision.action = .beginCleanup ∧ impl' = { impl with state := .workerExited } ∧
      jobTreeEmpty = true ∧ ∃ receipt elapsed, impl.postReceipt = some receipt ∧
        impl.Elapsed now elapsed ∧ elapsed ≤ receipt.timing.cleanupMilliseconds.toNat) := by
  unfold SessionImpl.recordJobAbort at h
  dsimp only at h
  split at h
  · cases h
    exact .inl ⟨rfl, rfl⟩
  rename_i receipt hreceipt
  split at h
  · cases h
    exact .inl ⟨rfl, rfl⟩
  rename_i hguard
  split at h
  · cases h
    exact .inl ⟨rfl, rfl⟩
  · rename_i htree
    cases h
    rw [not_or, gt_iff_lt, UInt64.not_lt] at htree
    exact .inr ⟨rfl, rfl, by simpa using htree.1, receipt, _, hreceipt,
      elapsed_of_not_lt (not_or.1 hguard).2, UInt64.le_iff_toNat_le.1 htree.2⟩

theorem recordJobAbort_early (h : now < impl.cancelRequestedMonotonicMilliseconds) :
    (impl.recordJobAbort now jobTreeEmpty).2.state = .quarantined := by
  unfold SessionImpl.recordJobAbort
  split
  · rfl
  · rw [if_pos (.inr h)]

end Calls

/-! ## The calls of a run -/

/-- The arguments of a call of `advance_cancellation`. -/
structure CancellationCall where
  now : UInt64
  (acknowledged workerExited jobTreeEmpty : Bool)

/-- The operation as a call of `advance_cancellation`, which the `cancel_ack` callback is too. -/
def SessionOperation.cancellationCall : SessionOperation → Option CancellationCall
  | .cancelAck now => some ⟨now, true, false, false⟩
  | .advanceCancellation now acknowledged workerExited jobTreeEmpty =>
    some ⟨now, acknowledged, workerExited, jobTreeEmpty⟩
  | _ => none

/-- The session has answered a call with an acknowledgement at most so long after the request. -/
def AcknowledgedWithin (trace : SessionTrace) (impl : SessionImpl) (limit : ℕ) : Prop :=
  ∃ handle operation answer call elapsed,
    (SessionAction.call handle operation, SessionOutcome.answered answer) ∈ trace ∧
    operation.cancellationCall = some call ∧ call.acknowledged = true ∧
    impl.Elapsed call.now elapsed ∧ elapsed ≤ limit

theorem AcknowledgedWithin.mono {trace trace' : SessionTrace} {impl : SessionImpl} {limit : ℕ}
    (h : AcknowledgedWithin trace impl limit) (hsubset : trace ⊆ trace') :
    AcknowledgedWithin trace' impl limit := by
  obtain ⟨handle, operation, answer, call, elapsed, hmem, hrest⟩ := h
  exact ⟨handle, operation, answer, call, elapsed, hsubset hmem, hrest⟩

theorem AcknowledgedWithin.of_request {trace : SessionTrace} {impl impl' : SessionImpl} {limit : ℕ}
    (h : AcknowledgedWithin trace impl limit)
    (hrequest : impl'.cancelRequestedMonotonicMilliseconds =
      impl.cancelRequestedMonotonicMilliseconds) :
    AcknowledgedWithin trace impl' limit := by
  obtain ⟨handle, operation, answer, call, elapsed, hmem, hcall, hack, helapsed, hlimit⟩ := h
  refine ⟨handle, operation, answer, call, elapsed, hmem, hcall, hack, ?_, hlimit⟩
  rwa [SessionImpl.Elapsed, hrequest]

section Steps

variable {p p' : AdmissionProcess} {impl impl' : SessionImpl} {operation : SessionOperation}
  {answer : SessionAnswer}

theorem run_cancellationCall {call : CancellationCall}
    (hcall : operation.cancellationCall = some call)
    (hrun : impl.run p operation = some (p', impl', answer)) :
    ∃ decision, answer = .cancellation decision ∧
      impl.advanceCancellation call.now call.acknowledged call.workerExited call.jobTreeEmpty =
        (decision, impl') := by
  cases operation with
  | cancelAck | advanceCancellation =>
    obtain rfl := Option.some.inj hcall
    cases hrun
    exact ⟨_, rfl, rfl⟩
  | _ => cases hcall

theorem run_recordJobAbort {now : UInt64} {jobTreeEmpty : Bool}
    (hrun : impl.run p (.recordJobAbort now jobTreeEmpty) = some (p', impl', answer)) :
    ∃ decision, answer = .cancellation decision ∧
      impl.recordJobAbort now jobTreeEmpty = (decision, impl') := by
  cases hrun
  exact ⟨_, rfl, rfl⟩

/-- Only the two functions of a cancellation answer with a decision. -/
theorem operation_of_decision {decision : CancellationDecision}
    (hrun : impl.run p operation = some (p', impl', .cancellation decision)) :
    (∃ call, operation.cancellationCall = some call) ∨
      ∃ now jobTreeEmpty, operation = .recordJobAbort now jobTreeEmpty := by
  cases operation with
  | cancelAck | advanceCancellation => exact .inl ⟨_, rfl⟩
  | recordJobAbort now jobTreeEmpty => exact .inr ⟨_, _, rfl⟩
  | consumeToken | storePendingToken =>
    simp only [SessionImpl.run] at hrun
    split at hrun <;> cases hrun
  | _ => cases hrun

/-- Without a decision, a session is in `CooperativeCancelAcknowledged` only if it was, and
with the same request and receipt. -/
theorem SessionStep.acknowledged (step : SessionStep p impl operation p' impl' answer)
    (hstate : impl'.state = .cooperativeCancelAcknowledged)
    (hanswer : ∀ decision, answer ≠ .cancellation decision) :
    impl.state = .cooperativeCancelAcknowledged ∧ impl'.postReceipt = impl.postReceipt ∧
      impl'.cancelRequestedMonotonicMilliseconds = impl.cancelRequestedMonotonicMilliseconds := by
  cases step with
  | cancelling at_state to_state => exact absurd rfl (hanswer _)
  | ended | kept | stored | taken => exact ⟨hstate, rfl, rfl⟩
  | _ => cases hstate

/-- A session acknowledges by a call with an acknowledgement in time, or had done so. -/
theorem acknowledged_of_run (hrun : impl.run p operation = some (p', impl', answer))
    (hstate : impl'.state = .cooperativeCancelAcknowledged) : impl'.postReceipt = impl.postReceipt ∧
    impl'.cancelRequestedMonotonicMilliseconds = impl.cancelRequestedMonotonicMilliseconds ∧
    (impl.state = .cooperativeCancelAcknowledged ∨ ∃ call receipt elapsed,
      operation.cancellationCall = some call ∧ call.acknowledged = true ∧
      impl.postReceipt = some receipt ∧ impl.Elapsed call.now elapsed ∧
      elapsed ≤ receipt.timing.cooperativeCancelAckMilliseconds.toNat) := by
  by_cases hdecision : ∃ decision, answer = .cancellation decision
  case neg =>
    obtain ⟨hbefore, hreceipt, hrequest⟩ := (sessionStep_of_run hrun).acknowledged hstate
      fun decision heq => hdecision ⟨decision, heq⟩
    exact ⟨hreceipt, hrequest, .inl hbefore⟩
  obtain ⟨decision, rfl⟩ := hdecision
  rcases operation_of_decision hrun with ⟨call, hcall⟩ | ⟨now, jobTreeEmpty, rfl⟩
  · obtain ⟨decision', hdecision, hadvance⟩ := run_cancellationCall hcall hrun
    rcases advanceCancellation_cases hadvance with
      ⟨-, rfl⟩ | ⟨receipt, elapsed, hreceipt, helapsed, rfl, hstep⟩
    · cases hstate
    · refine ⟨rfl, rfl, ?_⟩
      rcases cancellationStep_action hstep with ⟨-, hnext⟩ | ⟨-, hnext, -⟩ |
        ⟨-, -, hack, -, hlimit⟩ | ⟨-, hnext, -⟩
      · exact absurd (hnext.symm.trans hstate) (by decide)
      · exact absurd (hnext.symm.trans hstate) (by decide)
      · exact .inr ⟨call, receipt, _, hcall, hack, hreceipt, helapsed, hlimit⟩
      · exact .inl (hnext.symm.trans hstate)
  · obtain ⟨decision', hdecision, habort⟩ := run_recordJobAbort hrun
    rcases recordJobAbort_cases habort with ⟨-, rfl⟩ | ⟨-, rfl, -⟩ <;> cases hstate

/-- A session gets to `Cleaned` only by a cleanup in time. -/
theorem SessionStep.cleaned_in_time (step : SessionStep p impl operation p' impl' answer)
    (hbefore : impl.state ≠ .cleaned) (hafter : impl'.state = .cleaned) :
    ∃ evidence now, operation = .cleanupOwned evidence now ∧ CleanupTerms impl evidence now := by
  cases step with
  | cleaned terms => exact ⟨_, _, rfl, terms⟩
  | cancelling at_state to_state =>
    obtain rfl := hafter
    rcases to_state with h | h | h | h
    · cases h
    · cases h
    · cases h
    · exact absurd h.symm hbefore
  | ended | kept | stored | taken => exact absurd hafter hbefore
  | _ => cases hafter

end Steps

/-- In every run, a session in `CooperativeCancelAcknowledged` has answered a call with an
acknowledgement in time. -/
theorem acknowledged_in_time {trace : SessionTrace} {w : SessionWorld}
    (run : Run SessionWorld.exec {} trace w) :
    ∀ impl, w.session = some impl → impl.state = .cooperativeCancelAcknowledged →
      ∃ receipt, impl.postReceipt = some receipt ∧
        AcknowledgedWithin trace impl
          receipt.timing.cooperativeCancelAckMilliseconds.toNat := by
  refine session_history_of_run (P := fun trace impl =>
    impl.state = .cooperativeCancelAcknowledged → ∃ receipt, impl.postReceipt = some receipt ∧
      AcknowledgedWithin trace impl receipt.timing.cooperativeCancelAckMilliseconds.toNat) run
    ?_ ?_ ?_
  · intro trace cell high low handle issuerId _ hstate
    cases hstate
  · intro trace impl a o _ h hstate
    obtain ⟨receipt, hreceipt, hack⟩ := h hstate
    exact ⟨receipt, hreceipt, hack.mono (List.subset_append_left _ _)⟩
  · intro trace p impl operation p' impl' answer handle h hrun hstate
    obtain ⟨hpost, hrequest, hbefore | ⟨call, receipt, elapsed, hcall, hack, hreceipt, helapsed,
      hlimit⟩⟩ := acknowledged_of_run hrun hstate
    · obtain ⟨receipt, hreceipt, hack⟩ := h hbefore
      exact ⟨receipt, hpost.trans hreceipt,
        (hack.mono (List.subset_append_left _ _)).of_request hrequest⟩
    · refine ⟨receipt, hpost.trans hreceipt, handle, operation, answer, call, elapsed, ?_, hcall,
        hack, ?_, hlimit⟩
      · exact List.mem_append_right _ (List.mem_singleton.2 rfl)
      · rwa [SessionImpl.Elapsed, hrequest]

/-- What a call says about the time since the request of the cancellation. -/
structure DeadlinesKept (trace : SessionTrace) (impl impl' : SessionImpl)
    (operation : SessionOperation) (answer : SessionAnswer) : Prop where
  await : ∀ call decision, operation.cancellationCall = some call →
    answer = .cancellation decision → decision.action = .awaitCooperativeExit →
    ∃ receipt elapsed, impl.postReceipt = some receipt ∧ impl.Elapsed call.now elapsed ∧
      elapsed < receipt.timing.workerExitMilliseconds.toNat ∧
      (elapsed < receipt.timing.cooperativeCancelAckMilliseconds.toNat ∨
        AcknowledgedWithin trace impl receipt.timing.cooperativeCancelAckMilliseconds.toNat)
  exited : ∀ call decision, operation.cancellationCall = some call →
    answer = .cancellation decision → decision.action = .beginCleanup →
    call.workerExited = true ∧ call.jobTreeEmpty = true ∧
      ∃ receipt elapsed, impl.postReceipt = some receipt ∧ impl.Elapsed call.now elapsed ∧
        elapsed ≤ receipt.timing.workerExitMilliseconds.toNat
  aborted : ∀ now jobTreeEmpty decision, operation = .recordJobAbort now jobTreeEmpty →
    answer = .cancellation decision → decision.action = .beginCleanup →
    jobTreeEmpty = true ∧
      ∃ receipt elapsed, impl.postReceipt = some receipt ∧ impl.Elapsed now elapsed ∧
        elapsed ≤ receipt.timing.cleanupMilliseconds.toNat
  early : ∀ now, ((∃ call, operation.cancellationCall = some call ∧ call.now = now) ∨
      ∃ jobTreeEmpty, operation = .recordJobAbort now jobTreeEmpty) →
    now < impl.cancelRequestedMonotonicMilliseconds → impl'.state = .quarantined
  cleaned : impl.state ≠ .cleaned → impl'.state = .cleaned →
    ∃ evidence now receipt elapsed, operation = .cleanupOwned evidence now ∧
      impl.postReceipt = some receipt ∧ impl.Elapsed now elapsed ∧
      elapsed ≤ receipt.timing.cleanupMilliseconds.toNat

/-- The deadlines of a requested cancellation, at every call of every run. -/
theorem cancellation_deadlines_kept {trace : SessionTrace} {w w' : SessionWorld}
    {impl : SessionImpl} (run : Run SessionWorld.exec {} trace w)
    (hsession : w.session = some impl) (hcancel : impl.cancelRequestedMonotonicMilliseconds ≠ 0)
    {handle : ℕ} {operation : SessionOperation} {answer : SessionAnswer}
    (hexec : w.exec (.call handle operation) = some (w', .answered answer)) :
    ∃ impl', w'.session = some impl' ∧
      DeadlinesKept (trace ++ [(.call handle operation, .answered answer)]) impl impl' operation
        answer := by
  obtain ⟨-, p, impl₁, impl', hsession', hrun, rfl⟩ := run_of_exec hexec
  obtain rfl : impl₁ = impl := Option.some.inj (hsession'.symm.trans hsession)
  refine ⟨impl', rfl, ?_⟩
  constructor
  case await =>
    rintro call decision hcall rfl haction
    obtain ⟨decision', hdecision, hadvance⟩ := run_cancellationCall hcall hrun
    obtain rfl := SessionAnswer.cancellation.inj hdecision
    rcases advanceCancellation_cases hadvance with
      ⟨hquarantine, -⟩ | ⟨receipt, elapsed, hreceipt, helapsed, -, hstep⟩
    · exact absurd (hquarantine.symm.trans haction) (by decide)
    · refine ⟨receipt, elapsed.toNat, hreceipt, helapsed, ?_⟩
      rcases cancellationStep_action hstep with ⟨hother, -⟩ | ⟨hother, -⟩ |
        ⟨-, -, hack, hexit, hlimit⟩ | ⟨-, -, hexit, hbefore | hack⟩
      · exact absurd (hother.symm.trans haction) (by decide)
      · exact absurd (hother.symm.trans haction) (by decide)
      · -- this call carries the acknowledgement
        exact ⟨hexit, .inr ⟨handle, operation, _, call, _,
          List.mem_append_right _ (List.mem_singleton.2 rfl), hcall, hack, helapsed, hlimit⟩⟩
      · -- an earlier call did
        obtain ⟨receipt', hreceipt', hacked⟩ := acknowledged_in_time run impl₁ hsession hbefore
        cases hreceipt.symm.trans hreceipt'
        exact ⟨hexit, .inr (hacked.mono (List.subset_append_left _ _))⟩
      · exact ⟨hexit, .inl hack⟩
  case exited =>
    rintro call decision hcall rfl haction
    obtain ⟨decision', hdecision, hadvance⟩ := run_cancellationCall hcall hrun
    obtain rfl := SessionAnswer.cancellation.inj hdecision
    rcases advanceCancellation_cases hadvance with
      ⟨hquarantine, -⟩ | ⟨receipt, elapsed, hreceipt, helapsed, -, hstep⟩
    · exact absurd (hquarantine.symm.trans haction) (by decide)
    · rcases cancellationStep_action hstep with ⟨hother, -⟩ | ⟨-, -, hexited, hempty, hlimit⟩ |
        ⟨hother, -⟩ | ⟨hother, -⟩
      · exact absurd (hother.symm.trans haction) (by decide)
      · exact ⟨hexited, hempty, receipt, _, hreceipt, helapsed, hlimit⟩
      · exact absurd (hother.symm.trans haction) (by decide)
      · exact absurd (hother.symm.trans haction) (by decide)
  case aborted =>
    rintro now jobTreeEmpty decision rfl rfl haction
    obtain ⟨decision', hdecision, habort⟩ := run_recordJobAbort hrun
    obtain rfl := SessionAnswer.cancellation.inj hdecision
    rcases recordJobAbort_cases habort with ⟨hquarantine, -⟩ | ⟨-, -, hempty, hreceipt⟩
    · exact absurd (hquarantine.symm.trans haction) (by decide)
    · exact ⟨hempty, hreceipt⟩
  case early =>
    rintro now (⟨call, hcall, rfl⟩ | ⟨jobTreeEmpty, rfl⟩) hearly
    · obtain ⟨decision, -, hadvance⟩ := run_cancellationCall hcall hrun
      have hstate := @advanceCancellation_early impl₁ call.now call.acknowledged call.workerExited
        call.jobTreeEmpty hearly
      rwa [hadvance] at hstate
    · obtain ⟨decision, -, habort⟩ := run_recordJobAbort hrun
      have hstate := @recordJobAbort_early impl₁ now jobTreeEmpty hearly
      rwa [habort] at hstate
  case cleaned =>
    intro hbefore hafter
    obtain ⟨evidence, now, rfl, terms⟩ := (sessionStep_of_run hrun).cleaned_in_time hbefore hafter
    obtain ⟨receipt, hreceipt, -, -, hrequest⟩ := terms.receipt
    obtain ⟨hle, hlimit⟩ := hrequest hcancel
    exact ⟨evidence, now, receipt, _, rfl, hreceipt, Nat.add_sub_cancel' hle, hlimit⟩

/-- The worker of `admittedSession` is asked to stop and acknowledges. -/
def Fixture.acknowledgedSession : List SessionAction :=
  admittedSession ++
    [.call 0 (.evaluateWatchdog (watchdogSampleFor (14 * kGiB))), .call 0 (.cancelRequested 10450),
      .call 0 (.cancelAck 10500)]

theorem cancellation_deadlines_kept_on_fixture :
    ∃ trace w impl, Run SessionWorld.exec {} trace w ∧ w.session = some impl ∧
      ∃ receipt elapsed, impl.postReceipt = some receipt ∧ impl.Elapsed 11450 elapsed ∧
        elapsed < receipt.timing.workerExitMilliseconds.toNat := by
  obtain ⟨trace, w, run, hcheck⟩ := Run.exists_of_runActions Fixture.acknowledgedSession
    (fun result => result.2.session.any (·.cancelRequestedMonotonicMilliseconds != 0) &&
      (result.2.exec (.call 0 (.advanceCancellation 11450 false false false))).any (·.2 ==
        .answered (.cancellation
          { action := .awaitCooperativeExit, state := .cooperativeCancelAcknowledged })))
    (show (runActions SessionWorld.exec {} Fixture.acknowledgedSession).any _ = true by
      decide)
  rw [Bool.and_eq_true, Option.any_eq_true, Option.any_eq_true] at hcheck
  obtain ⟨⟨impl, hsession, hcancel⟩, ⟨w', outcome⟩, hexec, houtcome⟩ := hcheck
  obtain rfl := beq_iff_eq.1 houtcome
  obtain ⟨impl', -, hkept⟩ := cancellation_deadlines_kept run hsession (bne_iff_ne.1 hcancel) hexec
  obtain ⟨receipt, elapsed, hreceipt, helapsed, hexit, -⟩ := hkept.await _ _ rfl rfl rfl
  exact ⟨trace, w, impl, run, hsession, receipt, elapsed, hreceipt, helapsed, hexit⟩

end PrismInfer.Governor
