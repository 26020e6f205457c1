import PrismInfer.Governor.SessionProvenance

/-!
# The run cap under the watchdog

The design documents say that the run cap may shrink under the watchdog but cannot
grow. The session keeps no cap between two evaluations: every decision is made anew
from the Stage-B receipt and the sample (`Watched`), so the cap follows the room that
the samples report. `capNeverGrows_iff_room` says exactly when it does not grow, and
`cap_grows_again` gives a run in which it does.
-/

namespace PrismInfer.Governor

open PrismInfer.Lib

/-! ## The room of a sample -/

/-- What the limits of a run leave, in exact arithmetic: the admitted cap with its
reserve, the policy ceiling, and the live capacity of the sample. -/
def PostContextAdmissionReceipt.room (receipt : PostContextAdmissionReceipt)
    (sample : SupervisorWatchdogSample) : ℕ :=
  min (receipt.effectiveCapBytes.toNat + receipt.gpuReserveBytes.toNat)
    (min receipt.policyCeilingBytes.toNat (exactLiveCapacity sample.gpu sample.ownedGpu))

namespace WatchdogPassed

variable {receipt : PostContextAdmissionReceipt} {sample sample' : SupervisorWatchdogSample}

/-- A worker with a context owns device memory. -/
theorem owned_pos (h : WatchdogPassed receipt sample) :
    0 < sample.ownedGpu.ownedCurrentBytes.toNat := by
  have howned := h.owned_valid
  simp only [watchdogOwnedInvalid, reconciledOwnedCurrent, reconcileOwnedCurrent,
    Bool.or_eq_false_iff, and_assoc] at howned
  obtain ⟨-, -, -, -, -, -, -, -, hpresent, -, htotal, -, hcontext, -⟩ := howned
  rw [bne_eq_false_iff_eq] at htotal
  rw [beq_eq_false_iff_ne, ne_eq, ← UInt64.toNat_inj] at hcontext
  have hsome : sample.ownedGpu.currentCategories.foldlM checkedAddU64 0 =
      some sample.ownedGpu.ownedCurrentBytes := by
    rw [← htotal]
    exact eq_some_getD_of_not_isNone 0 (by rw [hpresent]; decide)
  have hle := (le_of_checkedSum hsome).2 sample.ownedGpu.cudaContextRuntimeCurrentBytes
    (by simp [OwnedGpuMemoryEvidence.currentCategories])
  exact (Nat.pos_of_ne_zero hcontext).trans_le hle

/-- The cap is the room above the reserve. -/
theorem toNat_liveCap_room (h : WatchdogPassed receipt sample) :
    (receipt.liveCap sample).toNat + receipt.gpuReserveBytes.toNat = receipt.room sample := by
  have hpos := h.owned_pos
  have hle := UInt64.le_iff_toNat_le.1 h.owned_le_cap
  have hcap := h.toNat_liveCap
  rw [PostContextAdmissionReceipt.room]
  omega

end WatchdogPassed

/-! ## The decisions of a run -/

/-- The entry is an evaluation by the session's watchdog: its sample and decision. -/
def watchdogEntry :
    SessionAction × SessionOutcome → Option (SupervisorWatchdogSample × SupervisorWatchdogDecision)
  | (.call _ (.evaluateWatchdog sample), .answered (.watchdog decision)) => some (sample, decision)
  | _ => none

/-- The evaluations of a trace, in order. -/
def evaluations (trace : SessionTrace) :
    List (SupervisorWatchdogSample × SupervisorWatchdogDecision) :=
  trace.filterMap watchdogEntry

theorem evaluations_snoc (trace : SessionTrace) (entry : SessionAction × SessionOutcome) :
    evaluations (trace ++ [entry]) = evaluations trace ++ (watchdogEntry entry).toList := by
  rw [evaluations, List.filterMap_append, ← evaluations]
  cases h : watchdogEntry entry with
  | none => simp [h]
  | some evaluation => simp [h]

variable {a : SessionAction} {o : SessionOutcome} {trace : SessionTrace} {w w' : SessionWorld}
  {sample : SupervisorWatchdogSample}

theorem watchdogEntry_eq_some {evaluation : SupervisorWatchdogSample × SupervisorWatchdogDecision}
    (h : watchdogEntry (a, o) = some evaluation) :
    ∃ handle, a = .call handle (.evaluateWatchdog evaluation.1) ∧
      o = .answered (.watchdog evaluation.2) := by
  unfold watchdogEntry at h
  split at h
  · rename_i handle sample decision hentry
    cases h
    cases hentry
    exact ⟨handle, rfl, rfl⟩
  · cases h

/-- The cap of each decision that continues work is at most that of every earlier
decision. -/
def CapNeverGrows (trace : SessionTrace) : Prop :=
  (evaluations trace).Pairwise fun earlier later =>
    later.2.continueWork = true → later.2.effectiveCapBytes ≤ earlier.2.effectiveCapBytes

instance (trace : SessionTrace) : Decidable (CapNeverGrows trace) :=
  inferInstanceAs (Decidable ((evaluations trace).Pairwise _))

/-! ## What a running session knows of its evaluations -/

/-- Before the token is consumed there are none, and while the session runs all were
made against its receipt and let work continue. -/
structure Watched (trace : SessionTrace) (impl : SessionImpl) : Prop where
  before : ∀ k < 5, impl.state.height = some k → evaluations trace = []
  running : impl.state = .tokenConsumed ∨ impl.state = .watchdogActive →
    ∀ evaluation ∈ evaluations trace, ∃ receipt, impl.postReceipt = some receipt ∧
      WatchdogPassed receipt evaluation.1 ∧
      evaluation.2 = evaluateSupervisorWatchdog receipt evaluation.1

variable {impl : SessionImpl}

/-- A step that is no evaluation. -/
theorem Watched.unwatched {p p' : AdmissionProcess} {impl' : SessionImpl}
    {operation : SessionOperation} {answer : SessionAnswer} (h : Watched trace impl)
    (step : SessionStep p impl operation p' impl' answer)
    (hanswer : ∀ decision, answer ≠ .watchdog decision) : Watched trace impl' := by
  constructor
  · intro k hk hheight
    rcases step.progress with ⟨m, hm, hbefore, -⟩ | ⟨-, hoff | hsame⟩
    · exact h.before m hm hbefore
    · rw [hoff] at hheight
      cases hheight
    · exact h.before k hk (hsame ▸ hheight)
  · cases step with
    | consumed at_state found active own bound =>
      -- nothing was evaluated before the consumption
      intro _ evaluation hmem
      rw [h.before 4 (by omega) (by rw [at_state]; rfl)] at hmem
      cases hmem
    | continued at_state post continues => exact absurd rfl (hanswer _)
    | ended | kept | stored | taken => exact h.running
    | preAdmitted | bound | postAdmitted | issued | cancelled | exited | began | quarantined =>
      exact fun hstate => (by simp at hstate)
    | cancelling at_state to_state =>
      rintro hstate
      rcases to_state with rfl | rfl | rfl | rfl
      · simp at hstate
      · simp at hstate
      · simp at hstate
      · rcases at_state with hcancel | hcancel <;> simp [hcancel] at hstate
    | cleaned | uncleaned => exact fun hstate => (by simp [SessionImpl.cleanedUp] at hstate)
    | closed | closedBy => exact fun hstate => (by simp [SessionImpl.failClosed] at hstate)

theorem Watched.operated {p p' : AdmissionProcess} {impl' : SessionImpl}
    {operation : SessionOperation} {answer : SessionAnswer} (h : Watched trace impl)
    (step : SessionStep p impl operation p' impl' answer) (handle : ℕ) :
    Watched (trace ++ [(.call handle operation, .answered answer)]) impl' := by
  by_cases hanswer : ∀ decision, answer ≠ .watchdog decision
  · -- no decision, so no new evaluation
    have hsame : evaluations (trace ++ [(.call handle operation, .answered answer)]) =
        evaluations trace := by
      rw [evaluations_snoc]
      cases hentry : watchdogEntry (.call handle operation, .answered answer) with
      | none => rw [Option.toList_none, List.append_nil]
      | some evaluation =>
        obtain ⟨-, -, houtcome⟩ := watchdogEntry_eq_some hentry
        cases houtcome
        exact absurd rfl (hanswer _)
    have hkept := h.unwatched step hanswer
    constructor
    · rw [hsame]
      exact hkept.before
    · rw [hsame]
      exact hkept.running
  · push Not at hanswer
    obtain ⟨decision, rfl⟩ := hanswer
    cases step with
    | @continued sample receipt at_state post continues =>
      refine ⟨?_, fun _ evaluation hmem => ?_⟩
      · intro k hk hheight
        obtain rfl : 5 = k := Option.some.inj hheight
        omega
      · rw [evaluations_snoc, List.mem_append] at hmem
        rcases hmem with hold | hnew
        · exact h.running at_state evaluation hold
        · cases Option.mem_toList.1 hnew
          exact ⟨receipt, post, continueWork_iff.1 continues, rfl⟩
    | cancelled time at_state stopped failed =>
      refine ⟨?_, fun hstate => by simp at hstate⟩
      intro k hk hheight
      obtain rfl : 5 = k := Option.some.inj hheight
      omega
    | exited _ _ _ _ quiet | quarantined _ _ _ _ _ quiet => exact absurd rfl (quiet _)
    | closed stopped uncleaned failed =>
      refine ⟨?_, fun hstate => by simp [SessionImpl.failClosed] at hstate⟩
      intro k _ hheight
      cases hheight

/-- Only a session's answers are evaluations. -/
theorem watchdogEntry_quiet (h : ∀ answer, o ≠ .answered answer) : watchdogEntry (a, o) = none := by
  cases hentry : watchdogEntry (a, o) with
  | none => rfl
  | some evaluation =>
    obtain ⟨-, -, houtcome⟩ := watchdogEntry_eq_some hentry
    exact absurd houtcome (h _)

theorem Unanswered.evaluations (h : Unanswered trace) : evaluations trace = [] :=
  List.filterMap_eq_nil_iff.2 fun entry hmem => watchdogEntry_quiet (h entry hmem)

theorem watched_run (run : Run SessionWorld.exec {} trace w) :
    ∀ impl, w.session = some impl → Watched trace impl := by
  refine session_history run ?_ ?_ fun _ _ _ _ _ _ _ handle h step => h.operated step handle
  · intro trace cell high low handle issuerId hunanswered
    refine ⟨fun _ _ _ => hunanswered.evaluations, fun _ evaluation hmem => ?_⟩
    rw [hunanswered.evaluations] at hmem
    cases hmem
  · intro trace impl a o ho h
    have hsame : evaluations (trace ++ [(a, o)]) = evaluations trace := by
      rw [evaluations_snoc, watchdogEntry_quiet ho, Option.toList_none, List.append_nil]
    constructor
    · rw [hsame]
      exact h.before
    · rw [hsame]
      exact h.running

/-! ## When the cap does not grow -/

/-- The session as it is lets work continue on the sample, against the receipt. -/
structure SessionImpl.Continues (impl : SessionImpl) (receipt : PostContextAdmissionReceipt)
    (sample : SupervisorWatchdogSample) : Prop where
  at_state : impl.state = .tokenConsumed ∨ impl.state = .watchdogActive
  post : impl.postReceipt = some receipt
  worker : impl.worker.map (·.rootProcessId) = some sample.ownedGpu.processId
  passed : WatchdogPassed receipt sample

theorem SessionImpl.Continues.decision {receipt : PostContextAdmissionReceipt}
    (h : impl.Continues receipt sample) :
    (impl.evaluateWatchdog sample).1 = receipt.continuing sample := by
  have hworker : impl.worker.isNone = false := by
    cases hnone : impl.worker with
    | none =>
      have hidentity := h.worker
      rw [hnone] at hidentity
      cases hidentity
    | some worker => rfl
  have hstate : ¬(impl.state ≠ .tokenConsumed ∧ impl.state ≠ .watchdogActive) := by
    rw [not_and_or, not_not, not_not]
    exact h.at_state
  simp only [SessionImpl.evaluateWatchdog, h.post]
  rw [if_neg (by simp [hstate, hworker, h.worker]), evaluateSupervisorWatchdog_of_passed h.passed,
    if_pos (show (receipt.continuing sample).continueWork = true from rfl)]

/-- A decision of the session that continues work. -/
theorem continues_of_continueWork (h : (impl.evaluateWatchdog sample).1.continueWork = true) :
    ∃ receipt, impl.Continues receipt sample := by
  unfold SessionImpl.evaluateWatchdog at h
  split at h
  · cases h
  rename_i receipt hpost
  split at h
  · cases h
  rename_i hmismatch
  simp only [not_or, not_and_or, not_not] at hmismatch
  refine ⟨receipt, hmismatch.1, hpost, hmismatch.2.2, ?_⟩
  dsimp only at h
  split at h
  · rename_i hcontinue
    exact continueWork_iff.1 hcontinue
  · rename_i hstop
    exact absurd h hstop

/-- What a call of `evaluate_watchdog` on the session's own handle does. -/
theorem exec_evaluateWatchdog (hsession : w.session = some impl)
    (h : w.exec (.call w.owner (.evaluateWatchdog sample)) = some (w', o)) :
    o = .answered (.watchdog (impl.evaluateWatchdog sample).1) := by
  simp only [SessionWorld.exec, ne_eq, not_true_eq_false, if_false, hsession] at h
  split at h
  · cases h
  · cases h
    rfl

/-- An evaluation was made by a session on its own handle. -/
theorem session_of_evaluation {handle : ℕ} {decision : SupervisorWatchdogDecision}
    (h : w.exec (.call handle (.evaluateWatchdog sample)) =
      some (w', .answered (.watchdog decision))) :
    handle = w.owner ∧ ∃ impl, w.session = some impl ∧
      decision = (impl.evaluateWatchdog sample).1 := by
  obtain ⟨howner, p, impl, impl', hsession, hrun, -⟩ := run_of_exec h
  simp only [SessionImpl.run, Option.some.injEq, Prod.mk.injEq,
    SessionAnswer.watchdog.injEq] at hrun
  exact ⟨howner, impl, hsession, hrun.2.2.symm⟩

/-- The step does not let work continue on a sample with more room than an earlier
one had. -/
def RoomKept (trace : SessionTrace) (w : SessionWorld) (a : SessionAction) : Prop :=
  ∀ sample impl receipt, a = .call w.owner (.evaluateWatchdog sample) →
    w.session = some impl → impl.Continues receipt sample →
    ∀ earlier ∈ evaluations trace, receipt.room sample ≤ receipt.room earlier.1

/-- One evaluation after a run: the caps and the rooms are in the same order. -/
theorem cap_le_iff_room {receipt : PostContextAdmissionReceipt}
    (run : Run SessionWorld.exec {} trace w) (hsession : w.session = some impl)
    (h : impl.Continues receipt sample)
    {earlier : SupervisorWatchdogSample × SupervisorWatchdogDecision}
    (hearlier : earlier ∈ evaluations trace) :
    (impl.evaluateWatchdog sample).1.effectiveCapBytes ≤ earlier.2.effectiveCapBytes ↔
      receipt.room sample ≤ receipt.room earlier.1 := by
  obtain ⟨receipt', hpost, hpassed, hdecision⟩ :=
    (watched_run run impl hsession).running h.at_state earlier hearlier
  obtain rfl : receipt' = receipt := Option.some.inj (hpost.symm.trans h.post)
  rw [hdecision, evaluateSupervisorWatchdog_of_passed hpassed, h.decision, UInt64.le_iff_toNat_le,
    ← h.passed.toNat_liveCap_room, ← hpassed.toNat_liveCap_room]
  show (receipt'.liveCap sample).toNat ≤ (receipt'.liveCap earlier.1).toNat ↔ _
  omega

theorem capNeverGrows_snoc (run : Run SessionWorld.exec {} trace w)
    (hexec : w.exec a = some (w', o)) :
    CapNeverGrows (trace ++ [(a, o)]) ↔ CapNeverGrows trace ∧ RoomKept trace w a := by
  rw [CapNeverGrows, evaluations_snoc]
  cases hentry : watchdogEntry (a, o) with
  | none =>
    rw [Option.toList_none, List.append_nil]
    refine (and_iff_left ?_).symm
    rintro sample impl receipt rfl hsession -
    rw [exec_evaluateWatchdog hsession hexec] at hentry
    cases hentry
  | some evaluation =>
    obtain ⟨sample, decision⟩ := evaluation
    obtain ⟨handle, rfl, rfl⟩ := watchdogEntry_eq_some hentry
    dsimp only at hexec
    obtain ⟨rfl, impl, hsession, rfl⟩ := session_of_evaluation hexec
    rw [Option.toList_some, List.pairwise_append]
    constructor
    · rintro ⟨hold, -, hnew⟩
      refine ⟨hold, ?_⟩
      rintro sample' impl' receipt hcall hsession' hcontinues earlier hearlier
      cases hcall
      obtain rfl : impl' = impl := Option.some.inj (hsession'.symm.trans hsession)
      refine (cap_le_iff_room run hsession hcontinues hearlier).1
        (hnew earlier hearlier _ (List.mem_singleton_self _) ?_)
      show (impl'.evaluateWatchdog sample).1.continueWork = true
      rw [hcontinues.decision]
      rfl
    · rintro ⟨hold, hroom⟩
      refine ⟨hold, List.pairwise_singleton _ _, ?_⟩
      rintro earlier hearlier later hlater hcontinue
      cases List.mem_singleton.1 hlater
      obtain ⟨receipt, hcontinues⟩ := continues_of_continueWork hcontinue
      exact (cap_le_iff_room run hsession hcontinues hearlier).2
        (hroom sample impl receipt rfl hsession hcontinues earlier hearlier)

/-- **The run cap, in every run.** The cap never grows exactly when no step lets work
continue on a sample that leaves more room (below the admitted cap with its reserve)
than a sample evaluated before. -/
theorem capNeverGrows_iff_room {trace : SessionTrace} {w : SessionWorld}
    (run : Run SessionWorld.exec {} trace w) :
    CapNeverGrows trace ↔ Run.EveryStep SessionWorld.exec {} RoomKept trace := by
  induction run with
  | nil => exact iff_of_true List.Pairwise.nil (Run.everyStep_nil _)
  | snoc run step ih => rw [capNeverGrows_snoc run step, ih, Run.everyStep_snoc run]

/-- The unit tests' admission, and two watchdog samples with the given DXGI budgets. -/
def Fixture.watchedSession (budget budget' : UInt64) : List SessionAction :=
  admittedSession ++ [.call 0 (.evaluateWatchdog (watchdogSampleFor budget)),
    .call 0 (.evaluateWatchdog (watchdogSampleFor budget'))]

/-- Two evaluations that both continue, the second under a larger cap. -/
def capGrows : List (SupervisorWatchdogSample × SupervisorWatchdogDecision) → Bool
  | [earlier, later] => earlier.2.continueWork && later.2.continueWork &&
      decide (earlier.2.effectiveCapBytes < later.2.effectiveCapBytes)
  | _ => false

/-- A budget of 10 GiB and then one of 14 GiB, after a consumed token: the cap falls
below the admitted 8 GiB and then grows again. -/
theorem cap_grows_again : ∃ trace w earlier later, Run SessionWorld.exec {} trace w ∧
    evaluations trace = [earlier, later] ∧ earlier.2.continueWork = true ∧
    later.2.continueWork = true ∧ earlier.2.effectiveCapBytes < later.2.effectiveCapBytes ∧
    ¬CapNeverGrows trace := by
  let actions := Fixture.watchedSession (10 * kGiB) (14 * kGiB)
  obtain ⟨trace, w, run, hgrows⟩ := Run.exists_of_runActions actions
    (fun result => capGrows (evaluations result.1))
    (show (runActions SessionWorld.exec {} actions).any _ = true by decide)
  dsimp only [capGrows] at hgrows
  split at hgrows
  · rename_i earlier later hevaluations
    rw [Bool.and_eq_true, Bool.and_eq_true, decide_eq_true_eq] at hgrows
    obtain ⟨⟨hearlier, hlater⟩, hlt⟩ := hgrows
    refine ⟨trace, w, earlier, later, run, hevaluations, hearlier, hlater, hlt, ?_⟩
    intro hnever
    rw [CapNeverGrows, hevaluations, List.pairwise_pair] at hnever
    exact absurd (hnever hlater) (UInt64.not_le.2 hlt)
  · cases hgrows

/-- The same samples in the other order. -/
theorem capNeverGrows_iff_room_on_fixture : ∃ trace w, Run SessionWorld.exec {} trace w ∧
    (evaluations trace).length = 2 ∧ (evaluations trace).all (·.2.continueWork) = true ∧
    CapNeverGrows trace ∧ Run.EveryStep SessionWorld.exec {} RoomKept trace := by
  let actions := Fixture.watchedSession (14 * kGiB) (10 * kGiB)
  obtain ⟨trace, w, run, hcheck⟩ := Run.exists_of_runActions actions
    (fun result => decide ((evaluations result.1).length = 2) &&
      (evaluations result.1).all (·.2.continueWork) && decide (CapNeverGrows result.1))
    (show (runActions SessionWorld.exec {} actions).any _ = true by decide)
  rw [Bool.and_eq_true, Bool.and_eq_true, decide_eq_true_eq, decide_eq_true_eq] at hcheck
  obtain ⟨⟨htwo, hcontinue⟩, hnever⟩ := hcheck
  exact ⟨trace, w, run, htwo, hcontinue, hnever, (capNeverGrows_iff_room run).1 hnever⟩

end PrismInfer.Governor
