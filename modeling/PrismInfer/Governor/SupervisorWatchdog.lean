import PrismInfer.Governor.SupervisorAdmission

/-!
# The supervisor watchdog (supervisor_watchdog.cpp)

While a worker runs, the supervisor evaluates a live sample against the Stage-B
receipt of the run and either lets the work continue or names the reason to
cancel it. The watchdog has its own copies of some admission checks, and they
are not all the same: it does not ask for a positive evaluation time when it
checks an age, and its temperature range is open where Stage A and Stage B
include both ends.
-/

namespace PrismInfer.Governor

/-- `WatchdogReason`. -/
inductive WatchdogReason
  | none
  | workerUnavailable
  | contextFatal
  | deadlineReached
  | heartbeatInvalidOrStale
  | gpuTelemetryInvalidOrStale
  | adapterIdentityMismatch
  | ownedGpuEvidenceInvalid
  | liveCapacityOverflow
  | effectiveCapBreached
  | thermalTelemetryInvalidOrStale
  | thermalStop
  | hostReserveBreached
  deriving DecidableEq

/-- `SupervisorWatchdogSample`. The host policy and the host request of the
source's record are never read: the watchdog replays those of the receipt. -/
structure SupervisorWatchdogSample where
  (evaluatedMonotonicMilliseconds runDeadlineMonotonicMilliseconds
    workerHeartbeatMonotonicMilliseconds : UInt64 := 0)
  workerAlive : Bool := false
  contextFatalError : Bool := false
  gpu : PreContextGpuSample := {}
  ownedGpu : OwnedGpuMemoryEvidence := {}
  thermal : GpuThermalSample := {}
  host : HostTelemetrySample := {}

/-- `SupervisorWatchdogDecision`. -/
structure SupervisorWatchdogDecision where
  continueWork : Bool := false
  submissionsBlocked : Bool := true
  reason : WatchdogReason := .gpuTelemetryInvalidOrStale
  currentLiveCapacityBytes : UInt64 := 0
  effectiveCapBytes : UInt64 := 0
  hostDecision : HostAdmissionDecision := {}
  deriving DecidableEq

/-! ## The checks -/

/-- `fresh` (supervisor_watchdog.cpp:11–15). -/
def fresh (captured evaluated maximumAge : UInt64) : Bool :=
  captured != 0 && evaluated ≥ captured && evaluated - captured ≤ maximumAge

/-- `valid_temperature` of supervisor_watchdog.cpp: both ends excluded. -/
def watchdogValidTemperature (value : Int) : Bool :=
  value > -100 && value < 200

/-- `ThermalBounds`. -/
structure ThermalBounds where
  warning : Int := 78
  stop : Int := 82

/-- `thermal_bounds` (supervisor_watchdog.cpp:26–49). -/
def thermalBounds (sample : GpuThermalSample) : Option ThermalBounds :=
  if !watchdogValidTemperature sample.currentCelsius ||
      sample.reportedTargetCelsius.any (fun target => !watchdogValidTemperature target) ||
      sample.reportedSlowdownCelsius.any (fun slowdown => !watchdogValidTemperature slowdown)
  then none
  else
    let bounds := tightenedBounds sample
    if bounds.1 > 0 ∧ bounds.2 > 0 ∧ bounds.1 < bounds.2 then some ⟨bounds.1, bounds.2⟩
    else none

/-- `reconciled_owned_current` (supervisor_watchdog.cpp:51–68). -/
def reconciledOwnedCurrent (owned : OwnedGpuMemoryEvidence) : Option UInt64 :=
  reconcileOwnedCurrent owned

/-- `cancel` (supervisor_watchdog.cpp:70–74). -/
def cancel (reason : WatchdogReason) : SupervisorWatchdogDecision :=
  { reason := reason }

/-- The deadline check (supervisor_watchdog.cpp:84–91). -/
def deadlineReached (admission : PostContextAdmissionReceipt)
    (sample : SupervisorWatchdogSample) : Bool :=
  sample.evaluatedMonotonicMilliseconds == 0 ||
  sample.runDeadlineMonotonicMilliseconds == 0 ||
  sample.runDeadlineMonotonicMilliseconds != admission.runDeadlineMonotonicMilliseconds ||
  sample.evaluatedMonotonicMilliseconds ≥ sample.runDeadlineMonotonicMilliseconds

/-- The adapter-telemetry check (supervisor_watchdog.cpp:96–104). -/
def watchdogGpuInvalid (sample : SupervisorWatchdogSample) (maximumAge : UInt64) : Bool :=
  !sample.gpu.available || !sample.gpu.adapterIdentityAvailable ||
  !fresh sample.gpu.capturedMonotonicMilliseconds sample.evaluatedMonotonicMilliseconds
    maximumAge ||
  sample.gpu.physicalOrReportableLocalBytes == 0 || sample.gpu.dxgiLocalBudgetBytes == 0 ||
  sample.gpu.dxgiLocalCurrentUsageBytes > sample.gpu.dxgiLocalBudgetBytes

/-- The adapter-identity check (supervisor_watchdog.cpp:105–108). -/
def adapterIdentityMismatch (admission : PostContextAdmissionReceipt)
    (sample : SupervisorWatchdogSample) : Bool :=
  sample.gpu.adapterLuidHigh != admission.adapterLuidHigh ||
  sample.gpu.adapterLuidLow != admission.adapterLuidLow

/-- The owned-memory check (supervisor_watchdog.cpp:109–139). -/
def watchdogOwnedInvalid (admission : PostContextAdmissionReceipt)
    (sample : SupervisorWatchdogSample) (maximumAge : UInt64) : Bool :=
  let owned := sample.ownedGpu
  let ownedTotal := reconciledOwnedCurrent owned
  !owned.available || !owned.reconciled || !owned.processDeviceCorroborationAvailable ||
  (owned.processDeviceSource != "nvml-process" &&
    owned.processDeviceSource != "wddm-process") ||
  owned.processId == 0 ||
  owned.processDeviceCapturedMonotonicMilliseconds != owned.capturedMonotonicMilliseconds ||
  owned.processDeviceCurrentBytes != owned.ownedCurrentBytes ||
  !owned.adapterIdentityAvailable || ownedTotal.isNone ||
  !fresh owned.capturedMonotonicMilliseconds sample.evaluatedMonotonicMilliseconds
    maximumAge ||
  ownedTotal.getD 0 != owned.ownedCurrentBytes ||
  owned.unknownUnreconciledBytes != 0 ||
  owned.cudaContextRuntimeCurrentBytes == 0 ||
  owned.adapterLuidHigh != admission.adapterLuidHigh ||
  owned.adapterLuidLow != admission.adapterLuidLow ||
  owned.hardCapBytes != admission.effectiveCapBytes ||
  owned.ownedCurrentBytes > owned.ownedPeakBytes ||
  owned.ownedPeakBytes > admission.effectiveCapBytes ||
  owned.cudaMemInfoTotalBytes == 0 ||
  owned.cudaMemInfoFreeBytes > owned.cudaMemInfoTotalBytes ||
  sample.gpu.dxgiLocalCurrentUsageBytes < owned.ownedCurrentBytes

/-- `owned_plus_free` (supervisor_watchdog.cpp:140–142). -/
def SupervisorWatchdogSample.ownedPlusFree (sample : SupervisorWatchdogSample) :
    Option UInt64 :=
  checkedAddU64 sample.ownedGpu.ownedCurrentBytes sample.ownedGpu.cudaMemInfoFreeBytes

/-- `dxgi_owned_capacity` (supervisor_watchdog.cpp:144–147). -/
def SupervisorWatchdogSample.dxgiOwnedCapacity (sample : SupervisorWatchdogSample) :
    Option UInt64 :=
  checkedAddU64 sample.ownedGpu.ownedCurrentBytes
    (sample.gpu.dxgiLocalBudgetBytes - sample.gpu.dxgiLocalCurrentUsageBytes)

/-- `current_live_capacity_bytes` (supervisor_watchdog.cpp:156–159), read after
both capacities were found not to overflow. -/
def SupervisorWatchdogSample.liveCapacity (sample : SupervisorWatchdogSample) : UInt64 :=
  min (min (min sample.gpu.physicalOrReportableLocalBytes sample.gpu.dxgiLocalBudgetBytes)
    (sample.ownedPlusFree.getD 0)) (sample.dxgiOwnedCapacity.getD 0)

/-- `effective_cap_bytes` (supervisor_watchdog.cpp:160–168): the receipt's cap,
or what the live capacity leaves beside the receipt's reserve. -/
def PostContextAdmissionReceipt.liveCap (admission : PostContextAdmissionReceipt)
    (sample : SupervisorWatchdogSample) : UInt64 :=
  min admission.effectiveCapBytes
    (saturatingSub (min admission.policyCeilingBytes sample.liveCapacity)
      admission.gpuReserveBytes)

/-- `evaluate_supervisor_watchdog` (supervisor_watchdog.cpp:78–209). -/
def evaluateSupervisorWatchdog (admission : PostContextAdmissionReceipt)
    (sample : SupervisorWatchdogSample) : SupervisorWatchdogDecision :=
  let maximumAge := admission.timing.maximumGuardAgeMilliseconds
  if !sample.workerAlive then cancel .workerUnavailable
  else if sample.contextFatalError then cancel .contextFatal
  else if deadlineReached admission sample then cancel .deadlineReached
  else if !fresh sample.workerHeartbeatMonotonicMilliseconds
      sample.evaluatedMonotonicMilliseconds maximumAge then
    cancel .heartbeatInvalidOrStale
  else if watchdogGpuInvalid sample maximumAge then cancel .gpuTelemetryInvalidOrStale
  else if adapterIdentityMismatch admission sample then cancel .adapterIdentityMismatch
  else if watchdogOwnedInvalid admission sample maximumAge then
    cancel .ownedGpuEvidenceInvalid
  else if sample.ownedPlusFree.isNone then cancel .liveCapacityOverflow
  else if sample.dxgiOwnedCapacity.isNone then cancel .liveCapacityOverflow
  else if sample.ownedPlusFree.getD 0 > sample.ownedGpu.cudaMemInfoTotalBytes then
    cancel .ownedGpuEvidenceInvalid
  else
  let decision : SupervisorWatchdogDecision :=
    { currentLiveCapacityBytes := sample.liveCapacity
      effectiveCapBytes := admission.liveCap sample }
  if sample.ownedGpu.ownedCurrentBytes > decision.effectiveCapBytes ∨
      admission.predictedGpuPeakBytes > decision.effectiveCapBytes then
    { decision with reason := .effectiveCapBreached }
  else if !sample.thermal.available ∨ !fresh sample.thermal.capturedMonotonicMilliseconds
      sample.evaluatedMonotonicMilliseconds maximumAge then
    { decision with reason := .thermalTelemetryInvalidOrStale }
  else
  let bounds := thermalBounds sample.thermal
  if bounds.isNone then
    { decision with reason := .thermalTelemetryInvalidOrStale }
  else
  let bounds := bounds.getD {}
  if bounds.warning > admission.gpuWarningCelsius ∨ bounds.stop > admission.gpuStopCelsius then
    { decision with reason := .thermalTelemetryInvalidOrStale }
  else if sample.thermal.currentCelsius ≥ admission.gpuStopCelsius ∨
      sample.thermal.thermalThrottling ∨ sample.thermal.powerBrakeSlowdown then
    { decision with reason := .thermalStop }
  else
  let hostRequest := admission.hostRequest.replayedAt sample.evaluatedMonotonicMilliseconds
    maximumAge
  let decision :=
    { decision with
      hostDecision := evaluateHostAdmission sample.host admission.hostPolicy hostRequest }
  if !decision.hostDecision.admitted then
    { decision with reason := .hostReserveBreached }
  else
    { decision with continueWork := true, submissionsBlocked := false, reason := .none }

/-! ## When work continues -/

/-- Every check of the watchdog, as passed by a sample. -/
structure WatchdogPassed (admission : PostContextAdmissionReceipt)
    (sample : SupervisorWatchdogSample) : Prop where
  worker_alive : sample.workerAlive = true
  no_fatal_error : sample.contextFatalError = false
  before_deadline : deadlineReached admission sample = false
  heartbeat_fresh : fresh sample.workerHeartbeatMonotonicMilliseconds
    sample.evaluatedMonotonicMilliseconds admission.timing.maximumGuardAgeMilliseconds = true
  gpu_valid : watchdogGpuInvalid sample admission.timing.maximumGuardAgeMilliseconds = false
  adapter_matched : adapterIdentityMismatch admission sample = false
  owned_valid :
    watchdogOwnedInvalid admission sample admission.timing.maximumGuardAgeMilliseconds = false
  owned_plus_free : ¬ sample.ownedPlusFree.isNone = true
  dxgi_owned_capacity : ¬ sample.dxgiOwnedCapacity.isNone = true
  cuda_consistent : sample.ownedPlusFree.getD 0 ≤ sample.ownedGpu.cudaMemInfoTotalBytes
  owned_le_cap : sample.ownedGpu.ownedCurrentBytes ≤ admission.liveCap sample
  peak_le_cap : admission.predictedGpuPeakBytes ≤ admission.liveCap sample
  thermal_available : sample.thermal.available = true
  thermal_fresh : fresh sample.thermal.capturedMonotonicMilliseconds
    sample.evaluatedMonotonicMilliseconds admission.timing.maximumGuardAgeMilliseconds = true
  thermal_bounded : ∃ bounds, thermalBounds sample.thermal = some bounds ∧
    bounds.warning ≤ admission.gpuWarningCelsius ∧ bounds.stop ≤ admission.gpuStopCelsius
  below_stop : sample.thermal.currentCelsius < admission.gpuStopCelsius
  not_throttling : sample.thermal.thermalThrottling = false
  no_power_brake : sample.thermal.powerBrakeSlowdown = false
  host_admitted : (evaluateHostAdmission sample.host admission.hostPolicy
    (admission.hostRequest.replayedAt sample.evaluatedMonotonicMilliseconds
      admission.timing.maximumGuardAgeMilliseconds)).admitted = true

/-- The decision on a sample that passes every check. -/
def PostContextAdmissionReceipt.continuing (admission : PostContextAdmissionReceipt)
    (sample : SupervisorWatchdogSample) : SupervisorWatchdogDecision :=
  { continueWork := true
    submissionsBlocked := false
    reason := .none
    currentLiveCapacityBytes := sample.liveCapacity
    effectiveCapBytes := admission.liveCap sample
    hostDecision := evaluateHostAdmission sample.host admission.hostPolicy
      (admission.hostRequest.replayedAt sample.evaluatedMonotonicMilliseconds
        admission.timing.maximumGuardAgeMilliseconds) }

variable {admission : PostContextAdmissionReceipt} {sample : SupervisorWatchdogSample}

theorem watchdogPassed_of_continueWork
    (h : (evaluateSupervisorWatchdog admission sample).continueWork = true) :
    WatchdogPassed admission sample := by
  generalize hd : evaluateSupervisorWatchdog admission sample = decision at h
  unfold evaluateSupervisorWatchdog at hd
  have passed {c : Prop} [Decidable c] {rejected rest : SupervisorWatchdogDecision} :=
    @guard_passed _ c _ rejected rest decision (·.continueWork) h
  obtain ⟨halive, hd⟩ := passed rfl hd
  obtain ⟨hfatal, hd⟩ := passed rfl hd
  obtain ⟨hdeadline, hd⟩ := passed rfl hd
  obtain ⟨hheartbeat, hd⟩ := passed rfl hd
  obtain ⟨hgpu, hd⟩ := passed rfl hd
  obtain ⟨hadapter, hd⟩ := passed rfl hd
  obtain ⟨howned, hd⟩ := passed rfl hd
  obtain ⟨hfree, hd⟩ := passed rfl hd
  obtain ⟨hdxgi, hd⟩ := passed rfl hd
  obtain ⟨htotal, hd⟩ := passed rfl hd
  obtain ⟨hcap, hd⟩ := passed rfl hd
  obtain ⟨hthermal, hd⟩ := passed rfl hd
  obtain ⟨hbounds, hd⟩ := passed rfl hd
  obtain ⟨htight, hd⟩ := passed rfl hd
  obtain ⟨hstop, hd⟩ := passed rfl hd
  obtain ⟨hhost, -⟩ := passed rfl hd
  rw [not_or, gt_iff_lt, gt_iff_lt, UInt64.not_lt, UInt64.not_lt] at hcap
  rw [not_or, gt_iff_lt, gt_iff_lt, not_lt, not_lt] at htight
  simp only [not_or, not_le, ge_iff_le, Bool.not_eq_true] at hstop
  simp only [not_or, Bool.not_eq_true, Bool.not_eq_false'] at hthermal
  exact
    { worker_alive := by simpa using halive
      no_fatal_error := by simpa using hfatal
      before_deadline := by simpa using hdeadline
      heartbeat_fresh := by simpa using hheartbeat
      gpu_valid := by simpa using hgpu
      adapter_matched := by simpa using hadapter
      owned_valid := by simpa using howned
      owned_plus_free := hfree
      dxgi_owned_capacity := hdxgi
      cuda_consistent := UInt64.not_lt.1 htotal
      owned_le_cap := hcap.1
      peak_le_cap := hcap.2
      thermal_available := hthermal.1
      thermal_fresh := hthermal.2
      thermal_bounded := ⟨_, eq_some_getD_of_not_isNone {} hbounds, htight⟩
      below_stop := hstop.1
      not_throttling := hstop.2.1
      no_power_brake := hstop.2.2
      host_admitted := by simpa using hhost }

theorem evaluateSupervisorWatchdog_of_passed (h : WatchdogPassed admission sample) :
    evaluateSupervisorWatchdog admission sample = admission.continuing sample := by
  obtain ⟨bounds, hbounds, hwarning, hstop⟩ := h.thermal_bounded
  unfold evaluateSupervisorWatchdog
  refine (if_neg (by simp [h.worker_alive])).trans ?_
  refine (if_neg (by simp [h.no_fatal_error])).trans ?_
  refine (if_neg (by simp [h.before_deadline])).trans ?_
  refine (if_neg (by simp [h.heartbeat_fresh])).trans ?_
  refine (if_neg (by simp [h.gpu_valid])).trans ?_
  refine (if_neg (by simp [h.adapter_matched])).trans ?_
  refine (if_neg (by simp [h.owned_valid])).trans ?_
  refine (if_neg h.owned_plus_free).trans ?_
  refine (if_neg h.dxgi_owned_capacity).trans ?_
  refine (if_neg (UInt64.not_lt.2 h.cuda_consistent)).trans ?_
  refine (if_neg (not_or.2 ⟨UInt64.not_lt.2 h.owned_le_cap,
    UInt64.not_lt.2 h.peak_le_cap⟩)).trans ?_
  refine (if_neg (by simp [h.thermal_available, h.thermal_fresh])).trans ?_
  refine (if_neg (by simp [hbounds])).trans ?_
  refine (if_neg (by simp [hbounds, hwarning, hstop])).trans ?_
  refine (if_neg (by simp [h.below_stop, h.not_throttling, h.no_power_brake])).trans ?_
  exact if_neg (by simp [h.host_admitted])

/-- The watchdog lets work continue exactly when the sample passes every check. -/
theorem continueWork_iff : (evaluateSupervisorWatchdog admission sample).continueWork = true ↔
      WatchdogPassed admission sample := by
  refine ⟨watchdogPassed_of_continueWork, fun h => ?_⟩
  rw [evaluateSupervisorWatchdog_of_passed h]
  rfl

end PrismInfer.Governor
