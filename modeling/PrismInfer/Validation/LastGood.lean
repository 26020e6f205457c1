import PrismInfer.Governor.CapSafety
import PrismInfer.Validation.EvidenceCallbacks

/-!
# Which sample is recorded as last good

After a run, `selectLastGood` takes the last good sample from what the providers captured,
by the name of the case. The providers store a sample before the session has seen it, so
what is captured is not what is accepted. Here the two are followed along a run:

* `accepted_verdict`: what a callback accepts is the sample that its provider stored, and it
  is one that `admit_post_context` admits or `evaluate_watchdog` continues on.
* `lastGood_accepted_iff`: the sample that is recorded was accepted at the recorded stage
  exactly when the last sample stored for the selected stage was.
-/

namespace PrismInfer.Validation

open PrismInfer.Lib PrismInfer.Governor PrismInfer.Runtime

/-! ## The history of a run -/

/-- The callbacks of a run and what came of them. -/
abbrev LiveTrace := List (LiveAction × CallbackOutcome)

/-- The sample that a callback stored for a stage. -/
def CallbackOutcome.capturedAt (outcome : CallbackOutcome) (stage : LastGoodStage) :
    Option GuardSample :=
  outcome.captured.bind fun sample => if sample.1 = stage then some sample.2 else none

/-- The last sample that was stored for a stage. -/
def lastCaptured (stage : LastGoodStage) (trace : LiveTrace) :
    Option GuardSample :=
  (trace.filterMap fun entry => entry.2.capturedAt stage).getLast?

/-- What the session accepted: the pre-context request, and then samples of callbacks. -/
def acceptedSamples (pre : PreContextAdmissionRequest)
    (trace : LiveTrace) : List (LastGoodStage × GuardSample) :=
  (.preContext, preGuard pre) :: trace.filterMap fun entry => entry.2.accepted

variable (caseName : ClearanceCase)

/-- The stage that the selection takes after a trace. -/
def selectedStage (trace : LiveTrace) : LastGoodStage :=
  if caseName = .postContextTelemetryLoss then .preContext
  else if caseName = .watchdogCancel ∧ (lastCaptured .postContext trace).isSome then .postContext
  else if (lastCaptured .watchdog trace).isSome then .watchdog
  else if (lastCaptured .postContext trace).isSome then .postContext
  else .preContext

theorem lastCaptured_snoc (stage : LastGoodStage) (trace : LiveTrace)
    (action : LiveAction) (outcome : CallbackOutcome) :
    lastCaptured stage (trace ++ [(action, outcome)]) =
      (outcome.capturedAt stage).or (lastCaptured stage trace) := by
  unfold lastCaptured
  rw [List.filterMap_append, List.getLast?_append]
  cases h : outcome.capturedAt stage <;> simp [List.filterMap, h]

variable {stage : LastGoodStage} {trace : LiveTrace}
  {guards : GuardSample} {options : SupervisorOptions} {action : LiveAction}
  {outcome : CallbackOutcome} {pre : PreContextAdmissionRequest}

/-- The last stored sample is one that some callback stored. -/
theorem exists_of_lastCaptured (h : lastCaptured stage trace = some guards) :
    ∃ entry ∈ trace, entry.2.capturedAt stage = some guards :=
  List.mem_filterMap.1 (List.mem_of_getLast? h)

/-! ## The captured samples along a run -/

section Capture

variable (captured : LiveEvidenceCapture)

@[simp] theorem storePost_post (sample : Option PostContextAdmissionRequest) :
    (captured.storePost sample).post = sample.or captured.post := by
  cases sample <;> rfl

@[simp] theorem storePost_watchdog (sample : Option PostContextAdmissionRequest) :
    (captured.storePost sample).watchdog = captured.watchdog := by
  cases sample <;> rfl

@[simp] theorem storeWatchdog_post (sample : Option SupervisorWatchdogSample) :
    (captured.storeWatchdog sample).post = captured.post := by
  cases sample <;> rfl

@[simp] theorem storeWatchdog_watchdog (sample : Option SupervisorWatchdogSample) :
    (captured.storeWatchdog sample).watchdog = sample.or captured.watchdog := by
  cases sample <;> rfl

@[simp] theorem storeProcess_post (sample : Option ProcessDeviceMemorySample) :
    (captured.storeProcess sample).post = captured.post := by
  cases sample <;> rfl

@[simp] theorem storeProcess_watchdog (sample : Option ProcessDeviceMemorySample) :
    (captured.storeProcess sample).watchdog = captured.watchdog := by
  cases sample <;> rfl

end Capture

/-- What one callback does to the captured samples. -/
structure Captures (s s' : LiveRun) (outcome : CallbackOutcome) : Prop where
  pre : s'.pre = s.pre
  post : s'.captured.post.map postGuard =
    (outcome.capturedAt .postContext).or (s.captured.post.map postGuard)
  watchdog : s'.captured.watchdog.map watchdogGuard =
    (outcome.capturedAt .watchdog).or (s.captured.watchdog.map watchdogGuard)
  never_pre : outcome.capturedAt .preContext = none

variable {s : LiveRun}

/-- A callback that asks no provider. -/
theorem captures_nothing (impl : SessionImpl) (answer : Bool) :
    Captures s { s with impl := impl } { answer := answer } :=
  ⟨rfl, rfl, rfl, rfl⟩

theorem captures_ready (options : SupervisorOptions) (s : LiveRun)
    (context : NativeWorkerContextEvidence) (call : EvidenceCall) (clock : CallbackClock) :
    Captures s (s.ready options context call clock).1 (s.ready options context call clock).2 := by
  unfold LiveRun.ready
  cases s.impl.worker with
  | none => exact ⟨rfl, rfl, rfl, rfl⟩
  | some worker =>
    dsimp only
    cases (call.bounded s.policy.heartbeatTimeoutMs).guards with
    | none | some => constructor <;> simp [CallbackOutcome.capturedAt]

theorem captures_beat (options : SupervisorOptions) (s : LiveRun) (now : UInt64)
    (heartbeat : NativeWorkerHeartbeatEvidence) (call : EvidenceCall) (clock : CallbackClock) :
    Captures s (s.beat options now heartbeat call clock).1
      (s.beat options now heartbeat call clock).2 := by
  unfold LiveRun.beat
  split
  · dsimp only
    cases (call.bounded s.policy.heartbeatTimeoutMs).guards with
    | none | some => constructor <;> simp [CallbackOutcome.capturedAt]
  · exact ⟨rfl, rfl, rfl, rfl⟩

variable {s' : LiveRun}

theorem captures_exec (h : s.exec options action = some (s', outcome)) : Captures s s' outcome := by
  cases action <;> obtain ⟨rfl, rfl⟩ := Prod.mk.inj (Option.some.inj h)
  case bind => exact captures_nothing _ _
  case ready => exact captures_ready _ _ _ _ _
  case consumed => exact captures_nothing _ _
  case beat => exact captures_beat _ _ _ _ _ _
  case cancelRequested => exact captures_nothing _ _
  case cancelAck => exact captures_nothing _ _

/-- The state knows of the trace what was stored last. -/
structure Tracks (pre : PreContextAdmissionRequest)
    (trace : LiveTrace) (s : LiveRun) : Prop where
  pre : s.pre = pre
  post : s.captured.post.map postGuard = lastCaptured .postContext trace
  watchdog : s.captured.watchdog.map watchdogGuard = lastCaptured .watchdog trace
  never_pre : lastCaptured .preContext trace = none

theorem tracks_step (h : Tracks pre trace s) (step : s.exec options action = some (s', outcome)) :
    Tracks pre (trace ++ [(action, outcome)]) s' := by
  have hcaptures := captures_exec step
  constructor
  · exact hcaptures.pre.trans h.pre
  · rw [lastCaptured_snoc, hcaptures.post, h.post]
  · rw [lastCaptured_snoc, hcaptures.watchdog, h.watchdog]
  · rw [lastCaptured_snoc, hcaptures.never_pre, h.never_pre]
    rfl

theorem tracks_run {s₀ : LiveRun} (hempty : s₀.captured = {})
    (run : Run (LiveRun.exec options) s₀ trace s) : Tracks s₀.pre trace s := by
  refine run.history ?_ fun _ _ _ _ _ h step => tracks_step h step
  constructor
  · rfl
  · rw [hempty]
    rfl
  · rw [hempty]
    rfl
  · rfl

/-! ## What is selected -/

/-- The selection, by the guards of the last stored samples. -/
theorem selectLastGood_eq (h : Tracks pre trace s) :
    (selectLastGood caseName s.pre s.captured).stage = selectedStage caseName trace ∧
      ((selectedStage caseName trace = .preContext ∧
          (selectLastGood caseName s.pre s.captured).guards = preGuard pre) ∨
        lastCaptured (selectedStage caseName trace) trace =
          some (selectLastGood caseName s.pre s.captured).guards) := by
  have hpost := h.post
  have hwatchdog := h.watchdog
  unfold selectLastGood selectedStage
  rw [← hpost, ← hwatchdog, h.pre]
  by_cases hloss : caseName = .postContextTelemetryLoss
  · simp [hloss]
  · simp only [hloss, if_false]
    -- the four combinations of captured samples, as `main` asks for them
    cases hp : s.captured.post with
    | none =>
      cases hw : s.captured.watchdog with
      | none => simp
      | some watchdog => simp [← hwatchdog, hw]
    | some post =>
      cases hw : s.captured.watchdog with
      | none => by_cases hcancel : caseName = .watchdogCancel <;> simp [hcancel, ← hpost, hp]
      | some watchdog =>
        by_cases hcancel : caseName = .watchdogCancel
        · simp [hcancel, ← hpost, hp]
        · simp [hcancel, ← hwatchdog, hw]

/-- The worker is started with nothing captured. -/
theorem captured_start {process : AdmissionProcess} {cell : AdmissionCellIdentity}
    {answer : OsAnswer} {telemetry : Telemetry} {space : Option UInt64} {clock : UInt64}
    {s₀ : LiveRun} (h : LiveRun.start options process cell answer telemetry space clock = some s₀) :
    s₀.captured = {} := by
  unfold LiveRun.start at h
  split at h
  · cases h
  dsimp only at h
  split at h
  · cases h
  split at h
  · cases h
  · cases h
    rfl

/-! ## What the session accepts -/

/-- The session of a state accepts a sample at a stage of a callback. -/
def LiveRun.Accepts (s : LiveRun) : LastGoodStage × GuardSample → Prop
  | (.preContext, _) => False
  | (.postContext, guards) => ∃ request, postGuard request = guards ∧
      (s.impl.admitPostContext s.ledger request).1.admitted = true
  | (.watchdog, guards) => ∃ sample, watchdogGuard sample = guards ∧
      (s.impl.evaluateWatchdog sample).1.continueWork = true

section Verdict

variable {policy : CallbackPolicy} {impl : SessionImpl} {ledger : ReceiptLedger}
  {processId : UInt32} {context : NativeWorkerContextEvidence} {clock : CallbackClock}
  {call : EvidenceCall} {now : UInt64} {heartbeat : NativeWorkerHeartbeatEvidence}

/-- What the session gets, the provider has stored. -/
theorem guards_of_live {α : Type} {make : Telemetry → α} {made : α}
    {independent : ProcessDeviceMemorySample} (h : call.live make = some (made, independent)) :
    ∃ guards, call.guards = some guards ∧ make guards = made := by
  cases call with
  | returned => cases h; exact ⟨_, rfl, rfl⟩
  | failed => cases h

/-- An admitted request has the guards of the one that the provider made. -/
theorem readyWithEvidence_admitted {request : PostContextAdmissionRequest}
    {live : Option (PostContextAdmissionRequest × ProcessDeviceMemorySample)}
    (h : (readyWithEvidence policy impl ledger processId context clock live).admitted =
      some request) :
    (∃ made, live = some made ∧ postGuard made.1 = postGuard request) ∧
      (impl.admitPostContext ledger request).1.admitted = true := by
  unfold readyWithEvidence at h
  split at h
  · cases h
  next made hmade =>
  dsimp only at h
  split at h
  · cases h
  next hadmitted =>
  obtain rfl : made = request := by
    split at h <;> exact Option.some.inj h
  refine ⟨?_, by simpa using hadmitted⟩
  -- the checks and the binding before it leave the guards alone
  rcases live with _ | ⟨made', independent⟩
  · cases hmade
  · refine ⟨_, rfl, ?_⟩
    simp only [readyRequest] at hmade
    repeat' split at hmade
    all_goals cases hmade
    all_goals rfl

/-- See `readyWithEvidence_admitted`. -/
theorem beatWithEvidence_continued {receipt : PostContextAdmissionReceipt}
    {sample : SupervisorWatchdogSample}
    {live : Option (SupervisorWatchdogSample × ProcessDeviceMemorySample)}
    (h : (beatWithEvidence policy impl processId receipt now heartbeat clock live).continued =
      some sample) :
    (∃ made, live = some made ∧ watchdogGuard made.1 = watchdogGuard sample) ∧
      (impl.evaluateWatchdog sample).1.continueWork = true := by
  unfold beatWithEvidence at h
  split at h
  · cases h
  next made hmade =>
  dsimp only at h
  split at h
  swap
  · cases h
  next hcontinues =>
  obtain rfl := Option.some.inj h
  refine ⟨?_, hcontinues⟩
  rcases live with _ | ⟨made', independent⟩
  · cases hmade
  · refine ⟨_, rfl, ?_⟩
    simp only [beatSample] at hmade
    repeat' split at hmade
    all_goals cases hmade
    all_goals rfl

/-- What a callback accepts, the session accepts in the state before it, and it is the
sample that the provider stored. -/
theorem accepted_verdict {sample : LastGoodStage × GuardSample}
    (step : s.exec options action = some (s', outcome)) (h : outcome.accepted = some sample) :
    s.Accepts sample ∧ outcome.captured = some sample := by
  cases action <;> obtain ⟨rfl, rfl⟩ := Prod.mk.inj (Option.some.inj step)
  case ready context call clock =>
    split at h
    · cases h
    dsimp only at h ⊢
    obtain ⟨request, hrequest, rfl⟩ := Option.map_eq_some_iff.1 h
    obtain ⟨⟨⟨made, independent⟩, hlive, hsame⟩, hadmitted⟩ := readyWithEvidence_admitted hrequest
    obtain ⟨guards, hstored, rfl⟩ := guards_of_live hlive
    rw [hstored, ← hsame]
    exact ⟨⟨request, hsame.symm, hadmitted⟩, rfl⟩
  case beat now heartbeat call clock =>
    split at h
    swap
    · cases h
    dsimp only at h ⊢
    obtain ⟨accepted, haccepted, rfl⟩ := Option.map_eq_some_iff.1 h
    obtain ⟨⟨⟨made, independent⟩, hlive, hsame⟩, hcontinues⟩ :=
      beatWithEvidence_continued haccepted
    obtain ⟨guards, hstored, rfl⟩ := guards_of_live hlive
    rw [hstored, ← hsame]
    exact ⟨⟨accepted, hsame.symm, hcontinues⟩, rfl⟩
  all_goals cases h

end Verdict

/-! ## The recorded sample -/

/-- The sample that is recorded as last good is one that the session accepted at the
recorded stage. -/
def LastGoodAccepted (trace : LiveTrace) (s : LiveRun) : Prop :=
  let good := selectLastGood caseName s.pre s.captured
  (good.stage, good.guards) ∈ acceptedSamples s.pre trace

/-- The last sample stored for the selected stage, if there is one, was accepted. -/
def SelectedAccepted (pre : PreContextAdmissionRequest) (trace : LiveTrace) : Prop :=
  ∀ guards, lastCaptured (selectedStage caseName trace) trace = some guards →
    (selectedStage caseName trace, guards) ∈ acceptedSamples pre trace

/-- Every sample stored for the selected stage was accepted by the callback itself. -/
def EveryStoredAccepted (trace : LiveTrace) : Prop :=
  ∀ entry ∈ trace, ∀ guards, entry.2.capturedAt (selectedStage caseName trace) = some guards →
    entry.2.accepted = some (selectedStage caseName trace, guards)

instance (caseName : ClearanceCase) (trace : LiveTrace) (s : LiveRun) :
    Decidable (LastGoodAccepted caseName trace s) :=
  inferInstanceAs (Decidable (_ ∈ acceptedSamples s.pre trace))

instance (caseName : ClearanceCase) (trace : LiveTrace) :
    Decidable (EveryStoredAccepted caseName trace) :=
  inferInstanceAs (Decidable (∀ entry ∈ trace,
    ∀ guards ∈ entry.2.capturedAt (selectedStage caseName trace),
      entry.2.accepted = some (selectedStage caseName trace, guards)))

theorem lastGoodAccepted_iff_of_tracks (h : Tracks pre trace s) :
    LastGoodAccepted caseName trace s ↔ SelectedAccepted caseName pre trace := by
  obtain ⟨hstage, hguards⟩ := selectLastGood_eq caseName h
  unfold LastGoodAccepted SelectedAccepted
  dsimp only
  rw [hstage, h.pre] at *
  rcases hguards with ⟨hpre, hguards⟩ | hlast
  · -- nothing is stored for the pre-context stage, and its request was admitted
    rw [hpre, hguards, h.never_pre]
    exact ⟨fun _ guards hsome => absurd hsome (by simp), fun _ => List.mem_cons_self⟩
  · rw [hlast]
    constructor
    · rintro haccepted guards ⟨⟩
      exact haccepted
    · intro haccepted
      exact haccepted _ rfl

theorem selectedAccepted_of_every {caseName : ClearanceCase}
    (h : EveryStoredAccepted caseName trace) : SelectedAccepted caseName pre trace := by
  intro guards hlast
  obtain ⟨entry, hmem, hcaptured⟩ := exists_of_lastCaptured hlast
  exact List.mem_cons_of_mem _ (List.mem_filterMap.2 ⟨entry, hmem, h entry hmem guards hcaptured⟩)

/-- For every case and every sequence of callbacks: the recorded sample was accepted at the
recorded stage exactly when the last sample stored for the selected stage was; and it was
whenever the callbacks accept all that is stored for that stage. -/
theorem lastGood_accepted_iff (options : SupervisorOptions) (process : AdmissionProcess)
    (cell : AdmissionCellIdentity) (answer : OsAnswer) (telemetry : Telemetry)
    (space : Option UInt64) (clock : UInt64) (s₀ s : LiveRun)
    (trace : LiveTrace)
    (hstart : LiveRun.start options process cell answer telemetry space clock = some s₀)
    (run : Run (LiveRun.exec options) s₀ trace s) :
    (LastGoodAccepted options.caseName trace s ↔
        SelectedAccepted options.caseName s₀.pre trace) ∧
      (EveryStoredAccepted options.caseName trace →
        LastGoodAccepted options.caseName trace s) := by
  have hiff := lastGoodAccepted_iff_of_tracks options.caseName
    (tracks_run (captured_start hstart) run)
  exact ⟨hiff, fun hevery => hiff.2 (selectedAccepted_of_every hevery)⟩

namespace Fixture

/-- The cell, the adapter and the guards of the unit tests, sampled at a time. -/
def telemetryAt (time : UInt64) (throttling : Bool) : Telemetry :=
  { wddm :=
      { available := true
        capturedMonotonicMilliseconds := time
        adapterLuidHigh := 7
        adapterLuidLow := 11
        localBudgetBytes := 15 * kGiB
        localCurrentUsageBytes := 2 * kGiB }
    thermal :=
      { Governor.Fixture.preRequest.thermal with
        capturedMonotonicMilliseconds := time
        thermalThrottling := throttling }
    host := { Governor.Fixture.preRequest.host with capturedMonotonicMilliseconds := time } }

def processAt (time : UInt64) : ProcessDeviceMemorySample :=
  { available := true
    source := .wddmProcess
    processId := 42
    capturedMonotonicMilliseconds := time
    adapterLuidHigh := 7
    adapterLuidLow := 11
    currentBytes := 512 * kMiB }

def clearanceOptions : SupervisorOptions :=
  { payloadBytes := 64 * kMiB }

def clearanceStart : Option LiveRun :=
  LiveRun.start clearanceOptions {} Governor.Fixture.cell (.granted 1) (telemetryAt 10000 false)
    (some (100 * kGiB)) 10100

def bindWorker : LiveAction :=
  .bind
    { rootProcessId := 42
      jobIdentity := "job"
      executableIdentity := "worker"
      maximumActiveProcesses := 1
      jobMemoryLimitBytes := kGiB
      jobCpuTimeLimitMilliseconds := 10000 }

def contextReady (call : EvidenceCall) : LiveAction :=
  .ready ⟨true, 7, 11, 12 * kGiB, 16 * kGiB⟩ call ⟨10250, 10300⟩

def heartbeatAt (time : UInt64) (throttling : Bool) : LiveAction :=
  .beat time ⟨true, 64 * kMiB, 12 * kGiB, 16 * kGiB⟩
    (.returned (telemetryAt time throttling) (processAt time)) ⟨time, time⟩

/-- The worker is bound, its context admitted and its token consumed, and a first heartbeat
lets work continue. -/
def admittedActions : List LiveAction :=
  [bindWorker, contextReady (.returned (telemetryAt 10200 false) (processAt 10200)),
    .consumed 1 10350, heartbeatAt 10400 false]

/-- The next heartbeat finds the device throttling. -/
def throttledActions : List LiveAction :=
  admittedActions ++ [heartbeatAt 10500 true]

/-- The providers store their samples and the time is up. -/
def lateActions : List LiveAction :=
  [bindWorker, contextReady (.failed (some (telemetryAt 10200 false, some (processAt 10200))))]

/-- Some run with these actions from the start passes a check. -/
theorem exists_run (actions : List LiveAction)
    (check : LiveTrace → LiveRun → Bool)
    (h : clearanceStart.any (fun s₀ => (runActions (LiveRun.exec clearanceOptions) s₀
      actions).any fun result => check result.1 result.2) = true) :
    ∃ s₀ trace s, clearanceStart = some s₀ ∧ Run (LiveRun.exec clearanceOptions) s₀ trace s ∧
      check trace s = true := by
  cases hstart : clearanceStart with
  | none =>
    rw [hstart] at h
    cases h
  | some s₀ =>
    rw [hstart] at h
    obtain ⟨trace, s, run, hcheck⟩ := Run.exists_of_runActions actions
      (fun result => check result.1 result.2) h
    exact ⟨s₀, trace, s, rfl, run, hcheck⟩

end Fixture

/-- In the case `success`, a watchdog sample that the session has answered with a
cancellation is recorded as last good, and so is a post-context sample whose call timed
out, which the session has never seen. -/
theorem rejected_samples_recorded :
    (∃ s₀ trace s, Fixture.clearanceStart = some s₀ ∧
      Run (LiveRun.exec Fixture.clearanceOptions) s₀ trace s ∧
      (selectLastGood .success s.pre s.captured).stage = .watchdog ∧
      s.impl.state = .cancelRequested ∧ ¬ LastGoodAccepted .success trace s) ∧
    ∃ s₀ trace s, Fixture.clearanceStart = some s₀ ∧
      Run (LiveRun.exec Fixture.clearanceOptions) s₀ trace s ∧
      (selectLastGood .success s.pre s.captured).stage = .postContext ∧
      s.impl.state = .failedClosed ∧ ¬ LastGoodAccepted .success trace s := by
  constructor
  · obtain ⟨s₀, trace, s, hstart, run, hcheck⟩ := Fixture.exists_run Fixture.throttledActions
      (fun trace s => (selectLastGood .success s.pre s.captured).stage = .watchdog ∧
        s.impl.state = .cancelRequested ∧ ¬ LastGoodAccepted .success trace s)
      (by decide)
    exact ⟨s₀, trace, s, hstart, run, of_decide_eq_true hcheck⟩
  · obtain ⟨s₀, trace, s, hstart, run, hcheck⟩ := Fixture.exists_run Fixture.lateActions
      (fun trace s => (selectLastGood .success s.pre s.captured).stage = .postContext ∧
        s.impl.state = .failedClosed ∧ ¬ LastGoodAccepted .success trace s)
      (by decide)
    exact ⟨s₀, trace, s, hstart, run, of_decide_eq_true hcheck⟩

/-- A run up to an accepted heartbeat records that heartbeat's sample. -/
theorem lastGood_accepted_iff_on_heartbeat :
    ∃ s₀ trace s, Fixture.clearanceStart = some s₀ ∧
      Run (LiveRun.exec Fixture.clearanceOptions) s₀ trace s ∧
      (selectLastGood .success s.pre s.captured).stage = .watchdog ∧
      LastGoodAccepted .success trace s := by
  obtain ⟨s₀, trace, s, hstart, run, hcheck⟩ := Fixture.exists_run Fixture.admittedActions
    (fun trace s => (selectLastGood .success s.pre s.captured).stage = .watchdog ∧
      EveryStoredAccepted .success trace)
    (by decide)
  obtain ⟨hstage, hevery⟩ := of_decide_eq_true hcheck
  exact ⟨s₀, trace, s, hstart, run, hstage,
    (lastGood_accepted_iff Fixture.clearanceOptions _ _ _ _ _ _ s₀ s trace hstart run).2 hevery⟩

end PrismInfer.Validation
