import PrismInfer.Governor.SessionTable
import PrismInfer.Governor.CapSafety

/-!
# The life of a session

What holds of a session whatever is called on it, in whatever order.

`SessionStep.progress` carries the order of the states: a step reports the next
  milestone and moves one state up the path, or reports none and stays at the same
  height, or leaves the path for good.
-/

namespace PrismInfer.Governor

open PrismInfer.Lib

/-- What has happened in a process with a session. -/
abbrev SessionTrace := List (SessionAction × SessionOutcome)

/-- The milestone that an entry of a trace reports. -/
def SessionOutcome.milestone : SessionOutcome → Option Milestone
  | .answered answer | .detached answer => answer.milestone
  | _ => none

/-- The successes of a trace, in order. -/
def milestones (trace : SessionTrace) : List Milestone :=
  trace.filterMap (·.2.milestone)

theorem milestones_snoc (trace : SessionTrace) (a : SessionAction) (o : SessionOutcome) :
    milestones (trace ++ [(a, o)]) = milestones trace ++ o.milestone.toList := by
  rw [milestones, List.filterMap_append, ← milestones]
  cases h : o.milestone with
  | none => simp [h]
  | some milestone => simp [h]

/-- The five stages of an admission. -/
def admissionPath : List Milestone :=
  [.preContextAdmitted, .workerBound, .postContextAdmitted, .tokenIssued, .tokenConsumed]

/-- How many stages a session in the state has behind it; `none` for the states off
the path, where the number does not follow from the state. -/
def GpuAdmissionSessionState.height : GpuAdmissionSessionState → Option ℕ
  | .leaseHeld => some 0
  | .preContextAdmitted => some 1
  | .workerContained => some 2
  | .postContextAdmitted => some 3
  | .tokenIssued => some 4
  | .tokenConsumed | .watchdogActive | .cancelRequested | .cooperativeCancelAcknowledged
  | .jobAbortRequired | .workerExited => some 5
  | .cleanupStarted | .failedClosed | .cleaned | .quarantined => none

variable {p p' : AdmissionProcess} {impl impl' : SessionImpl} {operation : SessionOperation}
  {answer : SessionAnswer} {trace : SessionTrace} {o : SessionOutcome} {w w' : SessionWorld}

/-- **The order of the states.** -/
theorem SessionStep.progress (step : SessionStep p impl operation p' impl' answer) :
    (∃ k, k < 5 ∧ impl.state.height = some k ∧ impl'.state.height = some (k + 1) ∧
      answer.milestone = admissionPath[k]?) ∨
    answer.milestone = none ∧
      (impl'.state.height = none ∨ impl'.state.height = impl.state.height) := by
  cases step with
  | preAdmitted at_state lease cell high low admitted =>
    exact .inl ⟨0, by omega, by rw [at_state]; rfl, rfl, by
      rw [SessionAnswer.milestone, admitted]; rfl⟩
  | bound at_state => exact .inl ⟨1, by omega, by rw [at_state]; rfl, rfl, rfl⟩
  | postAdmitted at_state worker cell high low admitted =>
    exact .inl ⟨2, by omega, by rw [at_state]; rfl, rfl, by
      rw [SessionAnswer.milestone, admitted]; rfl⟩
  | issued at_state post issuer bound active =>
    exact .inl ⟨3, by omega, by rw [at_state]; rfl, rfl, rfl⟩
  | consumed at_state found active own bound =>
    exact .inl ⟨4, by omega, by rw [at_state]; rfl, rfl, rfl⟩
  | continued at_state post continues =>
    have hheight : impl.state.height = some 5 := by
      rcases at_state with hstate | hstate <;> (rw [hstate]; rfl)
    exact .inr ⟨rfl, .inr hheight.symm⟩
  | cancelled time at_state stopped failed =>
    refine .inr ⟨failed, .inr ?_⟩
    rcases at_state with hstate | hstate <;> (rw [hstate]; rfl)
  | cancelling at_state to_state =>
    refine .inr ⟨rfl, .inr ?_⟩
    have hheight : impl.state.height = some 5 := by
      rcases at_state with hstate | hstate <;> (rw [hstate]; rfl)
    rcases to_state with rfl | rfl | rfl | rfl
    · exact hheight.symm
    · exact hheight.symm
    · exact hheight.symm
    · rfl
  | exited teardown pending kept at_state quiet failed =>
    refine .inr ⟨failed, .inr ?_⟩
    rcases at_state with hstate | hstate | hstate | hstate <;> (rw [hstate]; rfl)
  | ended | kept | stored | taken => exact .inr ⟨rfl, .inr rfl⟩
  | began | cleaned | uncleaned => exact .inr ⟨rfl, .inl rfl⟩
  | quarantined _ _ _ _ _ _ _ failed | closed _ _ failed => exact .inr ⟨failed, .inl rfl⟩
  | closedBy found failed => exact .inr ⟨if_neg failed, .inl rfl⟩

/-- Without a milestone a session stays where it is on the path, or leaves it. -/
theorem SessionStep.height_of_quiet (step : SessionStep p impl operation p' impl' answer)
    (h : answer.milestone = none) :
    impl'.state.height = none ∨ impl'.state.height = impl.state.height := by
  rcases step.progress with ⟨k, hk, -, -, hmilestone⟩ | ⟨-, hheight⟩
  · -- the path has an entry for each of its five stages
    rw [h, eq_comm, List.getElem?_eq_none_iff] at hmilestone
    exact absurd hk (not_lt.2 hmilestone)
  · exact hheight

/-! ## The path -/

/-- The successes so far are a beginning of the path; a session on the path tells
by its state how long it is. -/
def OnPath (trace : SessionTrace) (session : Option SessionImpl) : Prop :=
  ∃ n, milestones trace = admissionPath.take n ∧
    ∀ impl, session = some impl → ∀ k, impl.state.height = some k → n = k

/-- An entry without a milestone changes nothing for a session that it leaves at its
height. -/
theorem OnPath.quiet {session session' : Option SessionImpl} (h : OnPath trace session)
    {a : SessionAction} (hquiet : o.milestone = none)
    (hheight : ∀ impl', session' = some impl' → impl'.state.height = none ∨
      ∃ impl, session = some impl ∧ impl'.state.height = impl.state.height) :
    OnPath (trace ++ [(a, o)]) session' := by
  obtain ⟨n, hn, hstate⟩ := h
  refine ⟨n, ?_, ?_⟩
  · rw [milestones_snoc, hn, hquiet, Option.toList_none, List.append_nil]
  · intro impl' hsession' k hk
    rcases hheight impl' hsession' with hoff | ⟨impl, hsession, hsame⟩
    · rw [hoff] at hk
      cases hk
    · exact hstate impl hsession k (hsame ▸ hk)

theorem OnPath.operated (h : OnPath trace (some impl))
    (step : SessionStep p impl operation p' impl' answer) (a : SessionAction) :
    OnPath (trace ++ [(a, .answered answer)]) (some impl') := by
  rcases step.progress with ⟨k, hk, hbefore, hafter, hmilestone⟩ | ⟨hnone, hheight⟩
  · -- the next stage
    obtain ⟨n, hn, hstate⟩ := h
    refine ⟨k + 1, ?_, ?_⟩
    · rw [milestones_snoc, hn, hstate impl rfl k hbefore, List.take_add_one, ← hmilestone]
      rfl
    · rintro _ ⟨⟩ m hm
      rw [hafter] at hm
      exact Option.some.inj hm
  · refine h.quiet hnone ?_
    rintro _ ⟨⟩
    exact hheight.imp_right fun hsame => ⟨impl, rfl, hsame⟩

/-! ## What a session holds on the path -/

/-- The session has `n` stages behind it. -/
def SessionImpl.past (impl : SessionImpl) (n : ℕ) : Prop :=
  ∃ k, impl.state.height = some k ∧ n ≤ k

theorem SessionImpl.past_of_height {n : ℕ}
    (hheight : impl'.state.height = none ∨ impl'.state.height = impl.state.height)
    (h : impl'.past n) : impl.past n := by
  obtain ⟨k, hk, hn⟩ := h
  rcases hheight with hoff | hsame
  · rw [hoff] at hk
    cases hk
  · exact ⟨k, hsame ▸ hk, hn⟩

/-- The receipts and the worker that go with the stages behind a session. That a
Stage-B receipt never stands without a worker holds off the path too. -/
structure Holding (impl : SessionImpl) : Prop where
  pre : impl.past 1 → ∃ receipt, impl.preReceipt = some receipt ∧ receipt.cell = impl.cell ∧
    receipt.adapterLuidHigh = impl.adapterLuidHigh ∧ receipt.adapterLuidLow = impl.adapterLuidLow
  worker : impl.past 2 → impl.worker.isSome = true
  post : impl.past 3 → ∃ receipt, impl.postReceipt = some receipt ∧ receipt.cell = impl.cell ∧
    receipt.adapterLuidHigh = impl.adapterLuidHigh ∧ receipt.adapterLuidLow = impl.adapterLuidLow
  post_worker : impl.postReceipt.isSome = true → impl.worker.isSome = true

/-- A step that writes neither receipt nor worker and passes none of their stages. -/
theorem Holding.kept (h : Holding impl) (hpast : ∀ n ≤ 3, impl'.past n → impl.past n)
    (hpre : impl'.preReceipt = impl.preReceipt) (hworker : impl'.worker = impl.worker)
    (hpost : impl'.postReceipt = impl.postReceipt) (hcell : impl'.cell = impl.cell)
    (hhigh : impl'.adapterLuidHigh = impl.adapterLuidHigh)
    (hlow : impl'.adapterLuidLow = impl.adapterLuidLow) : Holding impl' := by
  constructor
  · intro hstate
    rw [hpre, hcell, hhigh, hlow]
    exact h.pre (hpast 1 (by omega) hstate)
  · intro hstate
    rw [hworker]
    exact h.worker (hpast 2 (by omega) hstate)
  · intro hstate
    rw [hpost, hcell, hhigh, hlow]
    exact h.post (hpast 3 (by omega) hstate)
  · rw [hpost, hworker]
    exact h.post_worker

/-- A cleanup leaves the path with empty hands. -/
theorem holding_cleanedUp (impl : SessionImpl) (evidence : SupervisorCleanupEvidence)
    {state : GpuAdmissionSessionState} (hstate : state.height = none) :
    Holding (impl.cleanedUp evidence state) := by
  have hoff : ∀ n, ¬(impl.cleanedUp evidence state).past n := by
    rintro n ⟨k, hk, -⟩
    rw [show (impl.cleanedUp evidence state).state.height = none from hstate] at hk
    cases hk
  constructor
  · exact fun h => absurd h (hoff 1)
  · exact fun h => absurd h (hoff 2)
  · exact fun h => absurd h (hoff 3)
  · intro h
    cases h

theorem Holding.operated (h : Holding impl) (step : SessionStep p impl operation p' impl' answer) :
    Holding impl' := by
  have hquiet : answer.milestone = none → ∀ n ≤ 3, impl'.past n → impl.past n :=
    fun hanswer n _ hpast => SessionImpl.past_of_height (step.height_of_quiet hanswer) hpast
  cases step with
  | @preAdmitted request decision receipt at_state lease cell high low admitted =>
    have hnot : ∀ n, 2 ≤ n → ¬SessionImpl.past
        { impl with preReceipt := some receipt, state := .preContextAdmitted } n := by
      rintro n hn ⟨k, hk, hle⟩
      obtain rfl : 1 = k := Option.some.inj hk
      omega
    exact ⟨fun _ => ⟨receipt, rfl, cell, high, low⟩, fun hpast => absurd hpast (hnot 2 le_rfl),
      fun hpast => absurd hpast (hnot 3 (by omega)), h.post_worker⟩
  | @bound evidence at_state =>
    refine ⟨fun _ => h.pre ⟨1, by rw [at_state]; rfl, le_rfl⟩, fun _ => rfl, ?_, fun _ => rfl⟩
    rintro ⟨k, hk, hle⟩
    obtain rfl : 2 = k := Option.some.inj hk
    omega
  | @postAdmitted request decision receipt ledger at_state worker cell high low admitted =>
    have hat : ∀ n ≤ 2, impl.past n := fun n hn => ⟨2, by rw [at_state]; rfl, hn⟩
    exact ⟨fun _ => h.pre (hat 1 (by omega)), fun _ => worker,
      fun _ => ⟨receipt, rfl, cell, high, low⟩, fun _ => worker⟩
  | issued at_state post issuer bound active =>
    refine h.kept (fun n hn _ => ⟨3, ?_, hn⟩) rfl rfl rfl rfl rfl rfl
    rw [at_state]
    rfl
  | consumed at_state found active own bound =>
    refine h.kept (fun n hn _ => ⟨4, ?_, by omega⟩) rfl rfl rfl rfl rfl rfl
    rw [at_state]
    rfl
  | continued | cancelling | ended | began | stored | taken =>
    exact h.kept (hquiet rfl) rfl rfl rfl rfl rfl rfl
  | cancelled _ _ _ failed | exited _ _ kept _ _ failed | quarantined _ _ _ kept _ _ _ failed
  | closed _ _ failed => exact h.kept (hquiet failed) rfl rfl rfl rfl rfl rfl
  | cleaned | uncleaned => exact holding_cleanedUp impl _ rfl
  | closedBy found failed => exact h.kept (hquiet (if_neg failed)) rfl rfl rfl rfl rfl rfl
  | kept ok => exact h

/-! ## Runs -/

/-- The invariant of a session's life. -/
structure LifeInv (trace : SessionTrace) (w : SessionWorld) : Prop where
  fresh : w.handles = 0 → w.session = none ∧ milestones trace = []
  path : OnPath trace w.session
  holding : ∀ impl, w.session = some impl → Holding impl

theorem processAction_quiet (action : ProcessAction) (status : Option ExclusiveGpuLeaseStatus) :
    (action.outcome status).milestone = none := by
  cases action with
  | acquireLease high low answer => cases status <;> rfl
  | _ => rfl

/-- A step that is no success and neither makes nor changes a session. -/
theorem LifeInv.quiet (h : LifeInv trace w) (a : SessionAction) (hquiet : o.milestone = none)
    (hsession : w'.session = w.session ∨ w'.session = none)
    (hhandles : w'.handles = 0 → w.handles = 0) : LifeInv (trace ++ [(a, o)]) w' := by
  have hsame : ∀ impl, w'.session = some impl → w.session = some impl := by
    intro impl himpl
    rcases hsession with hkept | hnone
    · exact hkept ▸ himpl
    · rw [hnone] at himpl
      cases himpl
  constructor
  · intro hzero
    obtain ⟨hnone, hempty⟩ := h.fresh (hhandles hzero)
    refine ⟨?_, by rw [milestones_snoc, hempty, hquiet]; rfl⟩
    rcases hsession with hkept | hgone
    · rw [hkept, hnone]
    · exact hgone
  · exact h.path.quiet hquiet fun impl himpl => .inr ⟨impl, hsame impl himpl, rfl⟩
  · exact fun impl himpl => h.holding impl (hsame impl himpl)

theorem holding_fresh (cell : AdmissionCellIdentity) (high : Int32) (low : UInt32) (handle : ℕ)
    (issuerId : UInt64) : Holding (.fresh cell high low handle issuerId) := by
  have hnot : ∀ n, 1 ≤ n → ¬(SessionImpl.fresh cell high low handle issuerId).past n := by
    rintro n hn ⟨k, hk, hle⟩
    obtain rfl : 0 = k := Option.some.inj hk
    omega
  constructor
  · exact fun hpast => absurd hpast (hnot 1 le_rfl)
  · exact fun hpast => absurd hpast (hnot 2 (by omega))
  · exact fun hpast => absurd hpast (hnot 3 (by omega))
  · intro hpost
    cases hpost

theorem LifeInv.step {a : SessionAction} (h : LifeInv trace w) (step : WorldStep w a w' o) :
    LifeInv (trace ++ [(a, o)]) w' := by
  cases step with
  | process step => exact h.quiet _ (processAction_quiet _ _) (.inl rfl) id
  | refused | abandoned => exact h.quiet _ rfl (.inl rfl) id
  | acquired fresh absent =>
    refine ⟨fun hzero => (by cases hzero), ⟨0, ?_, ?_⟩, ?_⟩
    · rw [milestones_snoc, (h.fresh fresh).2]
      rfl
    · rintro _ ⟨⟩ k hk
      exact Option.some.inj hk
    · rintro _ ⟨⟩
      exact holding_fresh _ _ _ _ _
  | detached operation =>
    exact h.quiet _ (withoutSession_milestone operation) (.inl rfl) id
  | operated session step =>
    refine ⟨?_, OnPath.operated (session ▸ h.path) step _, ?_⟩
    · intro hzero
      rw [(h.fresh hzero).1] at session
      cases session
    · rintro _ ⟨⟩
      exact (h.holding _ session).operated step
  | moved owner alive => exact h.quiet _ rfl (.inl rfl) (fun hzero => (by cases hzero))
  | destroyed session alive => exact h.quiet _ rfl (.inr rfl) id

theorem lifeInv_run (run : Run SessionWorld.exec {} trace w) : LifeInv trace w :=
  run.history (P := LifeInv)
    ⟨fun _ => ⟨rfl, rfl⟩, ⟨0, rfl, fun _ h => by cases h⟩, fun _ h => by cases h⟩
    fun _ _ _ _ _ h hexec => h.step (worldStep_of_exec hexec)

/-! ## Histories -/

/-- No session has answered yet. -/
def Unanswered (trace : SessionTrace) : Prop :=
  ∀ entry ∈ trace, ∀ answer, entry.2 ≠ .answered answer

theorem Unanswered.snoc (h : Unanswered trace) (a : SessionAction)
    (ho : ∀ answer, o ≠ .answered answer) : Unanswered (trace ++ [(a, o)]) := by
  intro entry hmem
  rcases List.mem_append.1 hmem with hold | hnew
  · exact h entry hold
  · cases List.mem_singleton.1 hnew
    exact ho

theorem processAction_unanswered (action : ProcessAction) (status : Option ExclusiveGpuLeaseStatus)
    (answer : SessionAnswer) : action.outcome status ≠ .answered answer := by
  cases action with
  | acquireLease high low os =>
    cases status with
    | none | some => exact fun h => (by cases h)
  | _ => exact fun h => (by cases h)

section

variable (run : Run SessionWorld.exec {} trace w)
include run

/-- Before there are handles there is no session, and nothing was answered. -/
theorem unanswered_of_fresh : w.handles = 0 → w.session = none ∧ Unanswered trace := by
  refine run.history (P := fun trace w => w.handles = 0 → w.session = none ∧ Unanswered trace)
    (fun _ => ⟨rfl, fun _ hmem => (by cases hmem)⟩) ?_
  intro trace v a v' o h hexec
  cases worldStep_of_exec hexec with
  | process step =>
    exact fun hzero => ⟨(h hzero).1, (h hzero).2.snoc _ (processAction_unanswered _ _)⟩
  | refused | detached | abandoned =>
    exact fun hzero => ⟨(h hzero).1, (h hzero).2.snoc _ fun _ ho => (by cases ho)⟩
  | acquired | moved => exact fun hzero => (by cases hzero)
  | operated session step =>
    intro hzero
    rw [(h hzero).1] at session
    cases session
  | destroyed session alive => exact fun hzero => absurd hzero alive

variable {P : SessionTrace → SessionImpl → Prop}
  (hfresh : ∀ trace cell high low handle issuerId, Unanswered trace →
    P trace (.fresh cell high low handle issuerId))
  (hquiet : ∀ trace impl a o, (∀ answer, o ≠ .answered answer) → P trace impl →
    P (trace ++ [(a, o)]) impl)
include hfresh hquiet

/-- What holds of a session at its acquisition, and is kept by its operations and by
all that it does not answer itself, holds as long as it lives. -/
theorem session_history_of_run
    (hoperated : ∀ trace p impl operation p' impl' answer handle, P trace impl →
      impl.run p operation = some (p', impl', answer) →
      P (trace ++ [(.call handle operation, .answered answer)]) impl') :
    ∀ impl, w.session = some impl → P trace impl := by
  induction run with
  | nil => exact fun _ hnone => (by cases hnone)
  | snoc run hexec ih =>
    cases worldStep_of_exec hexec with
    | process step =>
      exact fun impl hsome => hquiet _ _ _ _ (processAction_unanswered _ _) (ih impl hsome)
    | refused | detached | moved | abandoned =>
      exact fun impl hsome => hquiet _ _ _ _ (fun _ ho => by cases ho) (ih impl hsome)
    | acquired fresh absent =>
      rintro _ ⟨⟩
      exact hfresh _ _ _ _ _ _ ((unanswered_of_fresh run fresh).2.snoc _ fun _ ho => (by cases ho))
    | operated session step =>
      obtain ⟨-, p, impl, impl', hsession, hrun, hworld⟩ := run_of_exec hexec
      intro other hother
      rw [hworld] at hother
      obtain rfl := Option.some.inj hother
      exact hoperated _ _ _ _ _ _ _ _ (ih impl hsession) hrun
    | destroyed session alive => exact fun _ hnone => (by cases hnone)

/-- See `session_history_of_run`, with the operations as steps of the table. -/
theorem session_history
    (hoperated : ∀ trace p impl operation p' impl' answer handle, P trace impl →
      SessionStep p impl operation p' impl' answer →
      P (trace ++ [(.call handle operation, .answered answer)]) impl') :
    ∀ impl, w.session = some impl → P trace impl :=
  session_history_of_run run hfresh hquiet fun _ _ _ _ _ _ _ _ h hrun =>
    hoperated _ _ _ _ _ _ _ _ h (sessionStep_of_run hrun)

end

/-! ## The end of a session -/

/-- A session on its way to quarantine: it has failed, it is quarantined, or it is in
a cleanup that has no receipt to take its deadline from. -/
def SessionImpl.Doomed (impl : SessionImpl) : Prop :=
  impl.state = .failedClosed ∨ impl.state = .quarantined ∨
    impl.state = .cleanupStarted ∧ impl.postReceipt = none

theorem SessionImpl.Doomed.height (h : impl.Doomed) : impl.state.height = none := by
  rcases h with hstate | hstate | ⟨hstate, -⟩
  · rw [hstate]
    rfl
  · rw [hstate]
    rfl
  · rw [hstate]
    rfl

/-- A doomed session stays doomed: the cleanup needs the Stage-B receipt, and a failed
session enters a cleanup only without a worker, so without a receipt. -/
theorem SessionImpl.Doomed.operated (h : impl.Doomed) (holding : Holding impl)
    (step : SessionStep p impl operation p' impl' answer) : impl'.Doomed := by
  -- the states on the path are behind it
  have hoff : ∀ {state : GpuAdmissionSessionState} {k : ℕ}, state.height = some k →
      impl.state ≠ state := by
    intro state k hk hstate
    have hnone := h.height
    rw [hstate, hk] at hnone
    cases hnone
  cases step with
  | preAdmitted at_state | bound at_state | postAdmitted at_state | issued at_state
  | consumed at_state => exact absurd at_state (hoff rfl)
  | continued at_state | cancelled _ at_state | cancelling at_state =>
    rcases at_state with hstate | hstate
    · exact absurd hstate (hoff rfl)
    · exact absurd hstate (hoff rfl)
  | exited teardown pending kept at_state =>
    rcases at_state with hstate | hstate | hstate | hstate
    · exact absurd hstate (hoff rfl)
    · exact absurd hstate (hoff rfl)
    · exact absurd hstate (hoff rfl)
    · exact absurd hstate (hoff rfl)
  | ended | kept | stored | taken => exact h
  | began nonzero at_state =>
    rcases at_state with hstate | ⟨-, hworker⟩
    · exact absurd hstate (hoff rfl)
    · refine .inr (.inr ⟨rfl, ?_⟩)
      show impl.postReceipt = none
      cases hpost : impl.postReceipt with
      | none => rfl
      | some receipt =>
        have hbound := holding.post_worker (by rw [hpost]; rfl)
        rw [hworker] at hbound
        cases hbound
  | cleaned terms =>
    obtain ⟨receipt, hpost, -⟩ := terms.receipt
    rcases h with hstate | hstate | ⟨-, hnone⟩
    · rw [terms.at_state] at hstate
      cases hstate
    · rw [terms.at_state] at hstate
      cases hstate
    · rw [hpost] at hnone
      cases hnone
  | uncleaned | quarantined => exact .inr (.inl rfl)
  | closed | closedBy => exact .inl rfl

/-- No operation brings a session back to the path. -/
theorem SessionStep.off_path (step : SessionStep p impl operation p' impl' answer)
    (hoff : impl.state.height = none) : impl'.state.height = none := by
  rcases step.progress with ⟨k, -, hk, -⟩ | ⟨-, hheight⟩
  · rw [hoff] at hk
    cases hk
  · exact hheight.elim id fun hsame => hsame.trans hoff

/-- A property of the session that the operations keep holds as long as the session
lives. -/
theorem SessionWorld.kept_run {P : SessionImpl → Prop}
    (hkept : ∀ p impl operation p' impl' answer, P impl →
      SessionStep p impl operation p' impl' answer → P impl')
    (halive : w.handles ≠ 0) (h : ∀ impl, w.session = some impl → P impl)
    (run : Run SessionWorld.exec w trace w') : ∀ impl, w'.session = some impl → P impl := by
  refine (run.invariant (P := fun w => w.handles ≠ 0 ∧ ∀ impl, w.session = some impl → P impl)
    ⟨halive, h⟩ ?_).2
  rintro v a v' o ⟨halive, h⟩ hexec
  cases worldStep_of_exec hexec with
  | process | refused | detached | abandoned => exact ⟨halive, h⟩
  | acquired fresh absent => exact absurd fresh halive
  | operated session step =>
    refine ⟨halive, ?_⟩
    rintro _ ⟨⟩
    exact hkept _ _ _ _ _ _ (h _ session) step
  | moved owner alive => exact ⟨Nat.succ_ne_zero _, h⟩
  | destroyed session alive => exact ⟨halive, fun _ hnone => (by cases hnone)⟩

/-- **A session that has ended stays ended.** After `FailedClosed`, `Quarantined` or
`Cleaned` no call brings a session back to a state in which work is admitted or runs,
and after `FailedClosed` or `Quarantined` none brings it to `Cleaned`. -/
theorem closed_for_good {trace later : SessionTrace} {w w' : SessionWorld}
    {impl impl' : SessionImpl} (run : Run SessionWorld.exec {} trace w)
    (hsession : w.session = some impl)
    (hclosed : impl.state ∈ [.failedClosed, .quarantined, .cleaned])
    (hlater : Run SessionWorld.exec w later w') (hsession' : w'.session = some impl') :
    impl'.state ∉ [.leaseHeld, .preContextAdmitted, .workerContained, .postContextAdmitted,
      .tokenIssued, .tokenConsumed, .watchdogActive] ∧
    (impl.state ∈ [.failedClosed, .quarantined] → impl'.state ≠ .cleaned) := by
  have hlife := lifeInv_run run
  have halive : w.handles ≠ 0 := by
    intro hzero
    rw [(hlife.fresh hzero).1] at hsession
    cases hsession
  have hsame : ∀ other, w.session = some other → other = impl := by
    intro other hother
    rw [hsession] at hother
    exact (Option.some.inj hother).symm
  constructor
  · have hoff : impl.state.height = none := by
      simp only [List.mem_cons, List.not_mem_nil, or_false] at hclosed
      rcases hclosed with hstate | hstate | hstate <;> (rw [hstate]; rfl)
    have hoff' := SessionWorld.kept_run (P := fun impl => impl.state.height = none)
      (fun _ _ _ _ _ _ hnone step => step.off_path hnone)
      halive (fun other hother => hsame other hother ▸ hoff) hlater impl' hsession'
    intro hmem
    simp only [List.mem_cons, List.not_mem_nil, or_false] at hmem
    rcases hmem with hstate | hstate | hstate | hstate | hstate | hstate | hstate <;>
      (rw [hstate] at hoff'; cases hoff')
  · intro hfailed
    have hdoomed : impl.Doomed := by
      simp only [List.mem_cons, List.not_mem_nil, or_false] at hfailed
      exact hfailed.imp_right .inl
    have hdoomed' := SessionWorld.kept_run (P := fun impl => impl.Doomed ∧ Holding impl)
      (fun _ _ _ _ _ _ hkept step =>
        ⟨hkept.1.operated hkept.2 step, hkept.2.operated step⟩)
      halive
      (fun other hother => hsame other hother ▸ ⟨hdoomed, hlife.holding impl hsession⟩)
      hlater impl' hsession'
    intro hcleaned
    rcases hdoomed'.1 with hstate | hstate | ⟨hstate, -⟩ <;>
      (rw [hcleaned] at hstate; cases hstate)

/-- A session that fails before a worker is bound. -/
def Fixture.failedSession : List SessionAction :=
  [.acquire cell 7 11 (.granted 1), .call 0 .failClosed]

/-- The cleanup of it, with another caller between its two halves. -/
def Fixture.failedCleanup : List SessionAction :=
  [.call 0 (.beginCleanup 5), .call 0 (.endOfRun {}), .call 0 (.cleanupOwned {} 6)]

theorem closed_for_good_on_fixture :
    ∃ trace later w w' impl impl', Run SessionWorld.exec {} trace w ∧ w.session = some impl ∧
      impl.state = .failedClosed ∧ Run SessionWorld.exec w later w' ∧ later.length = 3 ∧
      w'.session = some impl' ∧ impl'.state ≠ .watchdogActive ∧ impl'.state ≠ .cleaned := by
  let ended : List (SessionAction × SessionOutcome) × SessionWorld → Bool := fun result =>
    decide (result.1.length = 3) && result.2.session.isSome
  obtain ⟨trace, w, run, hcheck⟩ := Run.exists_of_runActions Fixture.failedSession
    (fun result => result.2.session.any (·.state == .failedClosed) &&
      (runActions SessionWorld.exec result.2 Fixture.failedCleanup).any ended)
    (show (runActions SessionWorld.exec {} Fixture.failedSession).any _ = true by decide)
  rw [Bool.and_eq_true, Option.any_eq_true] at hcheck
  obtain ⟨⟨impl, hsession, hstate⟩, hcleanup⟩ := hcheck
  rw [beq_iff_eq] at hstate
  obtain ⟨later, w', hlater, hended⟩ := Run.exists_of_runActions _ ended hcleanup
  rw [Bool.and_eq_true, decide_eq_true_eq, Option.isSome_iff_exists] at hended
  obtain ⟨hlength, impl', hsession'⟩ := hended
  obtain ⟨hoff, hcleaned⟩ := closed_for_good run hsession (by rw [hstate]; decide) hlater hsession'
  refine ⟨trace, later, w, w', impl, impl', run, hsession, hstate, hlater, hlength, hsession', ?_,
    hcleaned (by rw [hstate]; decide)⟩
  intro hactive
  rw [hactive] at hoff
  exact hoff (by decide)

end PrismInfer.Governor
