import PrismInfer.Governor.SessionLease

/-!
# The ends of a session that did not go well

Two rules of the documentation about the way down. A missed cancellation deadline
(T-105) is to force quarantine: the session does not remember the deadline, and what
decides is whether the abort of the job was confirmed in `JobAbortRequired`
(`quarantined_after_missed_deadline`). A failure before there is a worker is to go
through a zero-resource cleanup record: `finalize_cleanup` has an edge for it, but the
record must meet the terms of a session that had a worker (`cleaned_of_failed_iff`).
-/

namespace PrismInfer.Governor

open PrismInfer.Lib

/-! ## A missed deadline -/

/-- The step does not confirm the abort of a job that had to be aborted. -/
def AbortUnconfirmed (_ : SessionTrace) (w : SessionWorld) (a : SessionAction) : Prop :=
  ∀ operation impl, a = .call w.owner operation → w.session = some impl →
    impl.state = .jobAbortRequired → ¬operation.ConfirmsAbort impl

/-- The job has to be aborted, or the session is on its way to quarantine. -/
def SessionImpl.Aborted (impl : SessionImpl) : Prop :=
  impl.state = .jobAbortRequired ∨ impl.Doomed

/-- Without the confirmation a session leaves `JobAbortRequired` only downwards. -/
theorem aborted_of_unconfirmed {p p' : AdmissionProcess} {impl impl' : SessionImpl}
    {operation : SessionOperation} {answer : SessionAnswer}
    (step : SessionStep p impl operation p' impl' answer)
    (hstate : impl.state = .jobAbortRequired) (hunconfirmed : ¬operation.ConfirmsAbort impl) :
    impl'.Aborted := by
  have hoff : ∀ {state : GpuAdmissionSessionState}, impl.state = state →
      state ≠ .jobAbortRequired → impl'.Aborted :=
    fun heq hne => absurd (heq.symm.trans hstate) hne
  cases step with
  | preAdmitted at_state | bound at_state | postAdmitted at_state | issued at_state
  | consumed at_state => exact hoff at_state (by decide)
  | continued at_state | cancelled _ at_state | cancelling at_state =>
    exact at_state.elim (hoff · (by decide)) (hoff · (by decide))
  | exited _ _ _ _ _ _ confirmed => exact absurd (confirmed hstate) hunconfirmed
  | began nonzero at_state => exact at_state.elim (hoff · (by decide)) (hoff ·.1 (by decide))
  | cleaned terms => exact hoff terms.at_state (by decide)
  | uncleaned | quarantined => exact .inr (.inr (.inl rfl))
  | closed | closedBy => exact .inr (.inl rfl)
  | ended | kept | stored | taken => exact .inl hstate

/-- `AbortJob` is answered only on the way to `JobAbortRequired`. -/
theorem jobAbortRequired_of_abortJob {p p' : AdmissionProcess} {impl impl' : SessionImpl}
    {operation : SessionOperation} {decision : CancellationDecision}
    (hrun : impl.run p operation = some (p', impl', .cancellation decision))
    (habort : decision.action = .abortJob) : impl'.state = .jobAbortRequired := by
  have hadvance : ∀ now acknowledged workerExited jobTreeEmpty,
      (impl.advanceCancellation now acknowledged workerExited jobTreeEmpty).1.action =
        .abortJob →
      (impl.advanceCancellation now acknowledged workerExited jobTreeEmpty).2.state =
        .jobAbortRequired := by
    intro now acknowledged workerExited jobTreeEmpty
    unfold SessionImpl.advanceCancellation
    split
    · exact fun h => (by cases h)
    split
    · exact fun h => (by cases h)
    dsimp only
    unfold SessionImpl.cancellationStep
    intro h
    split_ifs at h ⊢ <;> rfl
  cases operation with
  | cancelAck | advanceCancellation =>
    simp only [SessionImpl.run, Option.some.injEq, Prod.mk.injEq,
      SessionAnswer.cancellation.injEq] at hrun
    obtain ⟨-, rfl, rfl⟩ := hrun
    exact hadvance _ _ _ _ habort
  | recordJobAbort now jobTreeEmpty =>
    simp only [SessionImpl.run, Option.some.injEq, Prod.mk.injEq,
      SessionAnswer.cancellation.injEq] at hrun
    obtain ⟨-, -, rfl⟩ := hrun
    unfold SessionImpl.recordJobAbort at habort
    split at habort
    · cases habort
    split_ifs at habort
  | consumeToken | storePendingToken =>
    simp only [SessionImpl.run] at hrun
    split at hrun <;> cases hrun
  | _ => cases hrun

/-- After an `AbortJob` that is never confirmed, the session stays aborted. -/
theorem aborted_run {before later : SessionTrace} {t w : SessionWorld}
    (hbefore : Run SessionWorld.exec {} before t) (halive : t.handles ≠ 0)
    (h : ∀ impl, t.session = some impl → impl.Aborted) (hlater : Run SessionWorld.exec t later w)
    (hevery : Run.EveryStep SessionWorld.exec {} AbortUnconfirmed (before ++ later)) :
    w.handles ≠ 0 ∧ ∀ impl, w.session = some impl → impl.Aborted := by
  induction hlater with
  | nil => exact ⟨halive, h⟩
  | @snoc trace v v' a o hrun hexec ih =>
    have hfull := hbefore.append hrun
    rw [← List.append_assoc, Run.everyStep_snoc hfull] at hevery
    obtain ⟨halive, haborted⟩ := ih hevery.1
    have hstep := worldStep_of_exec hexec
    cases hstep with
    | process | refused | detached | abandoned => exact ⟨halive, haborted⟩
    | acquired fresh absent => exact absurd fresh halive
    | @operated handle operation p impl impl' answer session step =>
      refine ⟨halive, ?_⟩
      rintro _ ⟨⟩
      obtain ⟨rfl, p₁, impl₁, impl₂, hsession, hop, hworld⟩ := run_of_exec hexec
      cases hworld
      obtain rfl : impl₁ = impl := Option.some.inj (hsession.symm.trans session)
      rcases haborted impl₁ session with hstate | hdoomed
      · exact aborted_of_unconfirmed step hstate (hevery.2 operation impl₁ rfl session hstate)
      · exact .inr (hdoomed.operated ((lifeInv_run hfull).holding impl₁ session) step)
    | moved owner alive => exact ⟨Nat.succ_ne_zero _, haborted⟩
    | destroyed session alive => exact ⟨halive, fun _ hnone => (by cases hnone)⟩

variable {impl : SessionImpl}

theorem SessionImpl.Aborted.not_cleaned (h : impl.Aborted) : impl.state ≠ .cleaned := by
  intro hcleaned
  rcases h with hstate | hstate | hstate | ⟨hstate, -⟩ <;> (rw [hcleaned] at hstate; cases hstate)

/-- After a cleanup to `Cleaned` the session is in `Cleaned`. -/
theorem cleaned_of_isCleaning {v v' : SessionWorld} {a : SessionAction} {o : SessionOutcome}
    (hentry : IsCleaning (a, o)) (hexec : v.exec a = some (v', o)) :
    ∃ impl, v'.session = some impl ∧ impl.state = .cleaned := by
  obtain ⟨handle, evidence, now, hcall⟩ := hentry
  cases hcall
  obtain ⟨-, p, impl, impl', hsession, hrun, rfl⟩ := run_of_exec hexec
  have hstate : (impl.cleanupOwned v.process.registry evidence now).2.2.state =
      (impl.cleanupOwned v.process.registry evidence now).1 := by
    unfold SessionImpl.cleanupOwned
    split <;> rfl
  simp only [SessionImpl.run, Option.some.injEq, Prod.mk.injEq, SessionAnswer.cleanup.injEq] at hrun
  obtain ⟨-, rfl, hcleaned⟩ := hrun
  exact ⟨_, rfl, hstate.trans hcleaned⟩

/-- A live session has handles. -/
theorem handles_of_session {trace : SessionTrace} {w : SessionWorld}
    (run : Run SessionWorld.exec {} trace w) (hsession : w.session = some impl) :
    w.handles ≠ 0 := by
  intro hzero
  rw [(unanswered_of_fresh run hzero).1] at hsession
  cases hsession

/-- The entry is an `AbortJob` answer. -/
def IsAbort : SessionAction × SessionOutcome → Bool
  | (_, .answered (.cancellation decision)) => decision.action == .abortJob
  | _ => false

theorem jobAbortRequired_of_isAbort {v v' : SessionWorld} {a : SessionAction} {o : SessionOutcome}
    (hentry : IsAbort (a, o) = true) (hexec : v.exec a = some (v', o)) :
    (∃ impl, v'.session = some impl ∧ impl.state = .jobAbortRequired) ∧ ¬IsCleaning (a, o) := by
  cases worldStep_of_exec hexec with
  | process step =>
    unfold IsAbort at hentry
    split at hentry
    · rename_i heq
      exact absurd (Prod.mk.inj heq).2 (processAction_unanswered _ _ _)
    · cases hentry
  | @operated handle operation p impl impl' answer session step =>
    unfold IsAbort at hentry
    split at hentry
    · rename_i decision heq
      cases heq
      obtain ⟨-, p, impl, impl', -, hrun, hworld⟩ := run_of_exec hexec
      cases hworld
      refine ⟨⟨_, rfl, jobAbortRequired_of_abortJob hrun (beq_iff_eq.1 hentry)⟩, ?_⟩
      rintro ⟨_, _, _, heq⟩
      cases heq
    · cases hentry
  | _ => cases hentry

/-- **A missed cancellation deadline, in every run.** If no step confirms the abort of
the job while the session is in `JobAbortRequired`, then after an `AbortJob` answer
the session never reaches `Cleaned`, and no one acquires its adapter again. -/
theorem quarantined_after_missed_deadline {before after : SessionTrace} {w : SessionWorld}
    {cell : AdmissionCellIdentity} {high : Int32} {low : UInt32} {answer : OsAnswer}
    {entry : SessionAction × SessionOutcome}
    (run : Run SessionWorld.exec {}
      (before ++ (.acquire cell high low answer, .sessionReturned .acquired) :: after) w)
    (hmem : entry ∈ after) (habort : IsAbort entry = true)
    (hevery : Run.EveryStep SessionWorld.exec {} AbortUnconfirmed
      (before ++ (.acquire cell high low answer, .sessionReturned .acquired) :: after)) :
    (∀ impl, w.session = some impl → impl.state ≠ .cleaned) ∧ Unacquirable w.process high low := by
  obtain ⟨t, t', hbefore, hacquire, hafter⟩ := Run.split_at run
  have hto := hbefore.snoc hacquire
  obtain ⟨during, later, rfl⟩ := List.append_of_mem hmem
  obtain ⟨v, v', hduring, hcall, hlater⟩ := Run.split_at (b := entry.2) hafter
  have hto' := (hto.append hduring).snoc hcall
  obtain ⟨⟨impl, hsession, hstate⟩, huncleaning⟩ := jobAbortRequired_of_isAbort habort hcall
  have haborted : ∀ other, v'.session = some other → other.Aborted := by
    intro other hother
    obtain rfl : impl = other := Option.some.inj (hsession.symm.trans hother)
    exact .inl hstate
  have halive := handles_of_session hto' hsession
  rw [List.append_cons before, List.append_cons during, ← List.append_assoc,
    ← List.append_assoc] at hevery
  refine ⟨fun other hother => ((aborted_run hto' halive haborted hlater hevery).2 other
    hother).not_cleaned, unacquirable_until_cleaned hbefore hacquire hafter ?_⟩
  rintro ⟨a, o⟩ hmem hcleaning
  rcases List.mem_append.1 hmem with hearly | hlast
  · -- a session cleaned before would not have answered
    obtain ⟨earlier, between, rfl⟩ := List.append_of_mem hearly
    obtain ⟨u, u', hearlier, hclean, hbetween⟩ := Run.split_at hduring
    obtain ⟨cleaned, hcleaned, hcleanedState⟩ := cleaned_of_isCleaning hcleaning hclean
    have hoff := SessionWorld.kept_run (P := fun impl => impl.state.height = none)
      (fun _ _ _ _ _ _ hnone step => step.off_path hnone)
      (handles_of_session ((hto.append hearlier).snoc hclean) hcleaned)
      (fun other hother => by
        obtain rfl : cleaned = other := Option.some.inj (hcleaned.symm.trans hother)
        rw [hcleanedState]
        rfl) (hbetween.snoc hcall) impl hsession
    rw [hstate] at hoff
    cases hoff
  rcases List.mem_cons.1 hlast with rfl | hlate
  · exact huncleaning hcleaning
  · obtain ⟨earlier, rest, rfl⟩ := List.append_of_mem hlate
    obtain ⟨u, u', hearlier, hclean, -⟩ := Run.split_at hlater
    obtain ⟨cleaned, hcleaned, hcleanedState⟩ := cleaned_of_isCleaning hcleaning hclean
    rw [List.append_cons earlier, ← List.append_assoc _ _ rest] at hevery
    exact ((aborted_run hto' halive haborted (hearlier.snoc hclean) hevery.left).2 cleaned
      hcleaned).not_cleaned hcleanedState

/-- The worker of `admittedSession` misses its exit deadline; the abort of its job is
recorded with the given finding, and a cleanup follows. -/
def Fixture.abortedSession (jobTreeEmpty : Bool) : List SessionAction :=
  admittedSession.tail ++
    [.call 0 (.evaluateWatchdog (watchdogSampleFor (14 * kGiB))), .call 0 (.cancelRequested 10450),
      .call 0 (.advanceCancellation 13000 false false false),
      .call 0 (.recordJobAbort 13100 jobTreeEmpty), .call 0 (.beginCleanup 13200),
      .call 0 (.cleanupOwned cleanupEvidence 13300)]

theorem cleaned_after_missed_deadline :
    ∃ after entry w impl, Run SessionWorld.exec {}
      ([] ++ (.acquire Fixture.cell 7 11 (.granted 1), .sessionReturned .acquired) :: after) w ∧
      entry ∈ after ∧ IsAbort entry = true ∧ w.session = some impl ∧ impl.state = .cleaned ∧
      (acquireExclusiveGpuLease w.process.registry 7 11 (.granted 1)).1.status = .acquired := by
  obtain ⟨after, w, hactions, hended⟩ := Fixture.exists_of_acquired (Fixture.abortedSession true)
    (fun result => result.1.any IsAbort && result.2.session.any (·.state == .cleaned) &&
      (acquireExclusiveGpuLease result.2.process.registry 7 11 (.granted 1)).1.status == .acquired)
    (by decide)
  rw [Bool.and_eq_true, Bool.and_eq_true, beq_iff_eq, List.any_eq_true,
    Option.any_eq_true] at hended
  obtain ⟨⟨⟨entry, hmem, habort⟩, impl, hsession, hstate⟩, hfree⟩ := hended
  exact ⟨after, entry, w, impl, Run.of_runActions hactions, hmem, habort, hsession,
    beq_iff_eq.1 hstate, hfree⟩

theorem quarantined_after_missed_deadline_on_fixture :
    ∃ after entry w, Run SessionWorld.exec {}
      ([] ++ (.acquire Fixture.cell 7 11 (.granted 1), .sessionReturned .acquired) :: after) w ∧
      entry ∈ after ∧ IsAbort entry = true ∧ w.session.isSome = true ∧
      (∀ impl, w.session = some impl → impl.state ≠ .cleaned) ∧ Unacquirable w.process 7 11 := by
  obtain ⟨after, w, hactions, hended⟩ := Fixture.exists_of_acquired (Fixture.abortedSession false)
    (fun result => result.1.any IsAbort && result.2.session.isSome) (by decide)
  rw [Bool.and_eq_true, List.any_eq_true] at hended
  obtain ⟨⟨entry, hmem, habort⟩, hsession⟩ := hended
  have run := Run.of_runActions hactions
  refine ⟨after, entry, w, run, hmem, habort, hsession,
    @quarantined_after_missed_deadline [] _ _ _ _ _ _ _ run hmem habort
      (Run.everyStep_of_runActions hactions ?_)⟩
  rintro a ha before u operation impl rfl hsession' hstate
  simp only [Fixture.abortedSession, Fixture.admittedSession, List.tail_cons, List.cons_append,
    List.nil_append, List.mem_cons, List.not_mem_nil, or_false, reduceCtorEq, false_or,
    SessionAction.call.injEq] at ha
  rcases ha with ⟨-, rfl⟩ | ⟨-, rfl⟩ | ⟨-, rfl⟩ | ⟨-, rfl⟩ | ⟨-, rfl⟩ | ⟨-, rfl⟩ | ⟨-, rfl⟩ |
    ⟨-, rfl⟩ | ⟨-, rfl⟩ | ⟨-, rfl⟩ | ⟨-, rfl⟩ <;>
    simp [SessionOperation.ConfirmsAbort]

/-! ## A failure before there is a worker -/

/-- What `finalize_cleanup` asks of the session itself: a Stage-B receipt, all five
marks of the end of a worker, and the cleanup time since a recorded cancellation. -/
structure SessionImpl.CleanupReady (impl : SessionImpl) (now : UInt64) : Prop where
  teardown : impl.ownedTeardown = ⟨true, true, true, true, true⟩
  receipt : ∃ receipt, impl.postReceipt = some receipt ∧
    (impl.cancelRequestedMonotonicMilliseconds ≠ 0 →
      impl.cancelRequestedMonotonicMilliseconds ≤ now ∧
      now - impl.cancelRequestedMonotonicMilliseconds ≤ receipt.timing.cleanupMilliseconds)

/-- The device's side of a cleanup record is in order. -/
structure DeviceCleanupEvidence.Good (evidence : DeviceCleanupEvidence) : Prop where
  reconciled : evidence.deviceResourcesReconciled = true
  reason : evidence.terminalReason ≠ ""
  lastGood : isSha256 evidence.lastGoodSampleSha256 = true
  bundle : isSha256 evidence.evidenceBundleSha256 = true

theorem ownedEvidence_complete_iff {evidence : DeviceCleanupEvidence} (h : evidence.Good) :
    (impl.ownedEvidence evidence).complete = true ↔
      impl.ownedTeardown = ⟨true, true, true, true, true⟩ := by
  simp only [SupervisorCleanupEvidence.complete, SessionImpl.ownedEvidence, h.reconciled,
    h.lastGood, h.bundle, Bool.and_true, Bool.and_eq_true, bne_iff_ne, ne_eq, h.reason,
    not_false_eq_true, and_true]
  cases impl.ownedTeardown
  simp only [NativeWorkerTeardown.mk.injEq, and_assoc]

/-- The deadline of a cleanup that ends when it begins. -/
theorem deadlineMet_at_start_iff {now : UInt64} (hstate : impl.state = .cleanupStarted)
    (hstarted : impl.cleanupStartedMonotonicMilliseconds = now) (hnow : now ≠ 0) :
    impl.deadlineMet now = true ↔ ∃ receipt, impl.postReceipt = some receipt ∧
      (impl.cancelRequestedMonotonicMilliseconds ≠ 0 →
        impl.cancelRequestedMonotonicMilliseconds ≤ now ∧
        now - impl.cancelRequestedMonotonicMilliseconds ≤ receipt.timing.cleanupMilliseconds) := by
  unfold SessionImpl.deadlineMet
  rw [hstate, hstarted]
  simp only [beq_self_eq_true, bne_iff_ne, ne_eq, hnow, not_false_eq_true, ge_iff_le,
    UInt64.le_refl, decide_true, Bool.true_and, Bool.and_true, Bool.and_eq_true, UInt64.sub_self,
    Option.any_eq_true, Bool.or_eq_true, beq_iff_eq, decide_eq_true_eq, UInt64.zero_le, true_and]
  refine exists_congr fun receipt => and_congr_right fun _ => ?_
  rw [or_iff_not_imp_left]

/-- A cleanup that may begin: with a record of the device that is in order, the one call of
`finalize_cleanup` ends in `Cleaned` and releases the lease exactly when the session is
ready. -/
theorem cleaned_of_begun_iff {evidence : DeviceCleanupEvidence} {now : UInt64}
    (hbegun : (impl.beginCleanup now).1 = true) (hnow : now ≠ 0) (hevidence : evidence.Good)
    (registry : List String) : ((impl.finalizeCleanup registry evidence now).1 = .cleaned ∧
      (impl.finalizeCleanup registry evidence now).2.1 = impl.dropLease registry) ↔
    impl.CleanupReady now := by
  let begun : SessionImpl := { impl with
    cleanupStartedMonotonicMilliseconds := now
    state := .cleanupStarted }
  have hbegins : impl.beginCleanup now = (true, begun) := by
    unfold SessionImpl.beginCleanup at hbegun ⊢
    rw [if_neg hnow] at hbegun ⊢
    split at hbegun
    · cases hbegun
    · rename_i hmay
      rw [if_neg hmay]
  have hcomplete := @ownedEvidence_complete_iff impl evidence hevidence
  have hdeadline := @deadlineMet_at_start_iff begun now rfl rfl hnow
  unfold SessionImpl.finalizeCleanup SessionImpl.cleanupOwned
  rw [if_neg hnow, hbegins]
  dsimp only
  rw [if_neg (by simp), if_neg (by simp [begun])]
  by_cases hcleaned : ((impl.ownedEvidence evidence).complete && begun.deadlineMet now) = true
  · rw [if_pos hcleaned, if_pos hcleaned]
    rw [Bool.and_eq_true, hcomplete, hdeadline] at hcleaned
    exact iff_of_true ⟨rfl, rfl⟩ ⟨hcleaned.1, hcleaned.2⟩
  · rw [if_neg hcleaned, if_neg hcleaned]
    rw [Bool.and_eq_true, hcomplete, hdeadline] at hcleaned
    exact iff_of_false (fun h => (by cases h.1)) fun hready => hcleaned ⟨hready.1, hready.2⟩

/-- **The cleanup after a failure without a worker.** With a record of the device that
is in order, the one call of `finalize_cleanup` ends in `Cleaned` and releases the
lease exactly when the session has what only a session with a worker can have. -/
theorem cleaned_of_failed_iff {impl : SessionImpl} {evidence : DeviceCleanupEvidence}
    {now : UInt64} (hstate : impl.state = .failedClosed) (hworker : impl.worker = none)
    (hnow : now ≠ 0) (hevidence : evidence.Good) (registry : List String) :
    ((impl.finalizeCleanup registry evidence now).1 = .cleaned ∧
      (impl.finalizeCleanup registry evidence now).2.1 = impl.dropLease registry) ↔
    impl.CleanupReady now := by
  refine cleaned_of_begun_iff ?_ hnow hevidence registry
  unfold SessionImpl.beginCleanup
  rw [if_neg hnow, if_neg]
  rintro ⟨-, hfailed | hbound⟩
  · exact hfailed hstate
  · rw [hworker] at hbound
    cases hbound

/-- The record of a device on which nothing was left. -/
def Fixture.deviceEvidence : DeviceCleanupEvidence :=
  { deviceResourcesReconciled := true
    terminalReason := cleanupEvidence.terminalReason
    lastGoodSampleSha256 := cleanupEvidence.lastGoodSampleSha256
    evidenceBundleSha256 := cleanupEvidence.evidenceBundleSha256 }

theorem Fixture.deviceEvidence_good : deviceEvidence.Good :=
  ⟨rfl, by decide, by decide, by decide⟩

/-- Stage A rejects the request without thermal data; no worker is ever bound. -/
theorem failed_not_cleaned :
    ∃ trace w impl, Run SessionWorld.exec {} trace w ∧ w.session = some impl ∧
      impl.state = .failedClosed ∧ impl.worker = none ∧ Fixture.deviceEvidence.Good ∧
      (impl.finalizeCleanup w.process.registry Fixture.deviceEvidence 5).1 = .quarantined ∧
      (impl.finalizeCleanup w.process.registry Fixture.deviceEvidence 5).2.1 =
        w.process.registry := by
  let actions : List SessionAction := [.acquire Fixture.cell 7 11 (.granted 1),
    .call 0 (.admitPreContext { Fixture.preRequest with thermal := {} })]
  obtain ⟨trace, w, run, hended⟩ := Run.exists_of_runActions actions
    (fun result => result.2.session.any fun impl => impl.state == .failedClosed &&
      impl.worker.isNone &&
      (impl.finalizeCleanup result.2.process.registry Fixture.deviceEvidence 5).1 == .quarantined &&
      (impl.finalizeCleanup result.2.process.registry Fixture.deviceEvidence 5).2.1 ==
        result.2.process.registry)
    (show (runActions SessionWorld.exec {} actions).any _ = true by decide)
  rw [Option.any_eq_true] at hended
  obtain ⟨impl, hsession, hended⟩ := hended
  simp only [Bool.and_eq_true, beq_iff_eq, Option.isNone_iff_eq_none] at hended
  obtain ⟨⟨⟨hstate, hworker⟩, hquarantined⟩, hregistry⟩ := hended
  exact ⟨trace, w, impl, run, hsession, hstate, hworker, Fixture.deviceEvidence_good,
    hquarantined, hregistry⟩

/-- In a run nothing is ready without a worker: the Stage-B receipt is given for one. -/
theorem not_cleanupReady_of_run {trace : SessionTrace} {w : SessionWorld} {impl : SessionImpl}
    (run : Run SessionWorld.exec {} trace w) (hsession : w.session = some impl)
    (hworker : impl.worker = none) (now : UInt64) : ¬impl.CleanupReady now := by
  rintro ⟨-, receipt, hpost, -⟩
  have hbound := ((lifeInv_run run).holding impl hsession).post_worker (by rw [hpost]; rfl)
  rw [hworker] at hbound
  cases hbound

/-- A session that a run leads to is not cleaned. A session as the code would have to leave it
gives its lease back. -/
theorem cleaned_of_failed_iff_on_fixture :
    (∃ trace w impl, Run SessionWorld.exec {} trace w ∧ w.session = some impl ∧
      impl.state = .failedClosed ∧ impl.worker = none ∧
      ¬((impl.finalizeCleanup w.process.registry Fixture.deviceEvidence 5).1 = .cleaned ∧
        (impl.finalizeCleanup w.process.registry Fixture.deviceEvidence 5).2.1 =
          impl.dropLease w.process.registry)) ∧
    ∃ impl : SessionImpl, impl.lease.any (·.active) = true ∧ impl.state = .failedClosed ∧
      impl.worker = none ∧ impl.CleanupReady 5 ∧
      (impl.finalizeCleanup ["gpu"] Fixture.deviceEvidence 5).1 = .cleaned ∧
      (impl.finalizeCleanup ["gpu"] Fixture.deviceEvidence 5).2.1 = [] := by
  constructor
  · obtain ⟨trace, w, run, hended⟩ := Run.exists_of_runActions Fixture.failedSession
      (fun result => result.2.session.any fun impl =>
        impl.state == .failedClosed && impl.worker.isNone)
      (show (runActions SessionWorld.exec {} Fixture.failedSession).any _ = true by decide)
    obtain ⟨impl, hsession, hended⟩ := (Option.any_eq_true _ _).1 hended
    rw [Bool.and_eq_true, beq_iff_eq, Option.isNone_iff_eq_none] at hended
    refine ⟨trace, w, impl, run, hsession, hended.1, hended.2, ?_⟩
    rw [cleaned_of_failed_iff hended.1 hended.2 (by decide) Fixture.deviceEvidence_good]
    exact not_cleanupReady_of_run run hsession hended.2 5
  · let impl : SessionImpl :=
      { lease := some { leaseId := "gpu", nativeHandle := some 1 }
        state := .failedClosed
        postReceipt := some Fixture.postReceipt
        ownedTeardown := ⟨true, true, true, true, true⟩
        tokenIssuer := { issuerId := 1 } }
    have hready : impl.CleanupReady 5 := ⟨rfl, Fixture.postReceipt, rfl, fun h => absurd rfl h⟩
    obtain ⟨hcleaned, hregistry⟩ := (cleaned_of_failed_iff rfl rfl (by decide)
      Fixture.deviceEvidence_good ["gpu"]).2 hready
    exact ⟨impl, rfl, rfl, rfl, hready, hcleaned, hregistry.trans (by decide)⟩

end PrismInfer.Governor
