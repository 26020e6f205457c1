import PrismInfer.Governor.AdmissionTypes

/-!
# Two-stage GPU admission (supervisor_admission.cpp)

Stage A (`evaluatePreContextAdmission`) decides before the worker creates its
CUDA context and hands out a `PreContextAdmissionReceipt`. Stage B
(`evaluatePostContextAdmission`) decides again on the live context against that
receipt and hands out a `PostContextAdmissionReceipt`, whose id comes from a
process-wide sequence and whose one-shot token cell is shared by all copies of
the receipt.

Each stage has one inversion lemma (`preAdmitted_of_admitted`,
`postAdmitted_of_admitted`) that says what an admission has passed; later
modules use these and never unfold a stage.
-/

namespace PrismInfer.Governor

/-! ## Checks shared by the stages -/

/-- `kMaximumSupervisorSampleMilliseconds` and the bounds after it
(supervisor_admission.cpp:234–240). -/
def kMaximumSupervisorSampleMilliseconds : UInt64 := 100
def kMaximumHeartbeatMilliseconds : UInt64 := 250
def kMaximumGuardAgeMilliseconds : UInt64 := 500
def kMaximumCancelAckMilliseconds : UInt64 := 500
def kMaximumWorkerExitMilliseconds : UInt64 := 2000
def kMaximumCleanupMilliseconds : UInt64 := 5000
def kMaximumDispatchBoundMilliseconds : UInt64 := 500

/-- `valid_bounded_period`. -/
def validBoundedPeriod (value maximum : UInt64) : Bool :=
  value > 0 && value ≤ maximum

/-- `same_timing_policy`: every field is compared. -/
def sameTimingPolicy (left right : SupervisorTimingPolicy) : Bool :=
  left.supervisorSamplePeriodMilliseconds == right.supervisorSamplePeriodMilliseconds &&
  left.workerHeartbeatPeriodMilliseconds == right.workerHeartbeatPeriodMilliseconds &&
  left.maximumGuardAgeMilliseconds == right.maximumGuardAgeMilliseconds &&
  left.cooperativeCancelAckMilliseconds == right.cooperativeCancelAckMilliseconds &&
  left.workerExitMilliseconds == right.workerExitMilliseconds &&
  left.cleanupMilliseconds == right.cleanupMilliseconds &&
  left.declaredDispatchBoundMilliseconds == right.declaredDispatchBoundMilliseconds &&
  left.automaticSameContextRetryCount == right.automaticSameContextRetryCount

/-- `sample_is_fresh`. -/
def sampleIsFresh (captured evaluated maximumAge : UInt64) : Bool :=
  captured > 0 && evaluated > 0 && evaluated ≥ captured && evaluated - captured ≤ maximumAge

/-- `valid_temperature` of supervisor_admission.cpp: both ends included. -/
def validTemperature (value : Int) : Bool :=
  value ≥ -100 && value ≤ 200

/-- The timing check of Stage A (supervisor_admission.cpp:443–464). -/
def timingPolicyInvalid (timing : SupervisorTimingPolicy) : Bool :=
  !validBoundedPeriod timing.supervisorSamplePeriodMilliseconds
    kMaximumSupervisorSampleMilliseconds ||
  !validBoundedPeriod timing.workerHeartbeatPeriodMilliseconds
    kMaximumHeartbeatMilliseconds ||
  !validBoundedPeriod timing.maximumGuardAgeMilliseconds kMaximumGuardAgeMilliseconds ||
  !validBoundedPeriod timing.cooperativeCancelAckMilliseconds
    kMaximumCancelAckMilliseconds ||
  !validBoundedPeriod timing.workerExitMilliseconds kMaximumWorkerExitMilliseconds ||
  !validBoundedPeriod timing.cleanupMilliseconds kMaximumCleanupMilliseconds ||
  !validBoundedPeriod timing.declaredDispatchBoundMilliseconds
    kMaximumDispatchBoundMilliseconds ||
  timing.maximumGuardAgeMilliseconds < timing.supervisorSamplePeriodMilliseconds ||
  timing.maximumGuardAgeMilliseconds < timing.workerHeartbeatPeriodMilliseconds ||
  timing.workerExitMilliseconds < timing.cooperativeCancelAckMilliseconds ||
  timing.cleanupMilliseconds < timing.workerExitMilliseconds ||
  timing.automaticSameContextRetryCount != 0

/-- `predicted_gpu_peak`: the checked sum of the six categories, read after
`prediction_is_complete` has shown that each has a value. -/
def predictedGpuPeak (prediction : PredictedGpuFootprint) : Option UInt64 := do
  let total ← checkedAddU64 (prediction.contextRuntime.bytes.getD 0)
    (prediction.backend.bytes.getD 0)
  let total ← checkedAddU64 total (prediction.model.bytes.getD 0)
  let total ← checkedAddU64 total (prediction.state.bytes.getD 0)
  let total ← checkedAddU64 total (prediction.workspace.bytes.getD 0)
  checkedAddU64 total (prediction.fragmentation.bytes.getD 0)

/-- `prediction_category_is_valid`. -/
def predictionCategoryIsValid (category : PredictedBytes) : Bool :=
  if category.bytes.isNone || category.provenance = .unavailable then false
  else if category.provenance = .exactZeroNotApplicable then category.bytes.getD 0 == 0
  else category.provenance = .approvedArtifactCensus ||
    category.provenance = .pinnedRuntimeEstimate

/-- `prediction_is_complete`. -/
def predictionIsComplete (prediction : PredictedGpuFootprint) : Bool :=
  predictionCategoryIsValid prediction.contextRuntime &&
  predictionCategoryIsValid prediction.backend &&
  predictionCategoryIsValid prediction.model &&
  predictionCategoryIsValid prediction.state &&
  predictionCategoryIsValid prediction.workspace &&
  predictionCategoryIsValid prediction.fragmentation &&
  prediction.contextRuntime.bytes.getD 0 > 0

/-- `ThermalDecision`. -/
structure ThermalDecision where
  warningCelsius : Int := 78
  stopCelsius : Int := 82
  safeForAdmission : Bool := false
  deriving DecidableEq

/-- The two bounds a thermal sample implies: 78 and 82 degrees, tightened by the
reported target and slowdown temperatures. Both `evaluate_thermal`
(supervisor_admission.cpp:364–374) and the watchdog's `thermal_bounds`
(supervisor_watchdog.cpp:35–44) compute these. -/
def tightenedBounds (thermal : GpuThermalSample) : Int × Int :=
  let warning : Int := 78
  let stop : Int := 82
  let (warning, stop) := match thermal.reportedTargetCelsius with
    | some target => (min warning (target - 8), min stop (target - 5))
    | none => (warning, stop)
  match thermal.reportedSlowdownCelsius with
  | some slowdown => (warning, min stop (slowdown - 5))
  | none => (warning, stop)

/-- `evaluate_thermal` (supervisor_admission.cpp:351–384). -/
def evaluateThermal (thermal : GpuThermalSample) (evaluated maximumAge : UInt64) :
    Option ThermalDecision :=
  if !thermal.available ||
      !sampleIsFresh thermal.capturedMonotonicMilliseconds evaluated maximumAge ||
      !validTemperature thermal.currentCelsius ||
      thermal.reportedTargetCelsius.any (fun target => !validTemperature target) ||
      thermal.reportedSlowdownCelsius.any (fun slowdown => !validTemperature slowdown) then
    none
  else
    let bounds := tightenedBounds thermal
    if bounds.1 ≤ 0 ∨ bounds.2 ≤ 0 ∨ bounds.1 ≥ bounds.2 then
      some ⟨bounds.1, bounds.2, false⟩
    else
      some ⟨bounds.1, bounds.2, !thermal.thermalThrottling && !thermal.powerBrakeSlowdown &&
        thermal.currentCelsius < bounds.1⟩

/-- The eight ledger categories of owned memory, in the source's order. -/
def OwnedGpuMemoryEvidence.currentCategories (owned : OwnedGpuMemoryEvidence) : List UInt64 :=
  [owned.backendBufferCurrentBytes, owned.backendPoolCurrentBytes,
    owned.kernelWorkspaceCurrentBytes, owned.activationCurrentBytes,
    owned.kvCurrentBytes, owned.graphCurrentBytes,
    owned.profilerWorkspaceCurrentBytes, owned.cudaContextRuntimeCurrentBytes]

/-- `reconcile_owned_current` (supervisor_admission.cpp:386–402) and the
watchdog's `reconciled_owned_current` (supervisor_watchdog.cpp:51–68), which has
the same body: the loop adds the categories with `checked_add_u64`. -/
def reconcileOwnedCurrent (owned : OwnedGpuMemoryEvidence) : Option UInt64 :=
  owned.currentCategories.foldlM checkedAddU64 0

/-- The adapter-telemetry check of Stage A (supervisor_admission.cpp:483–490);
Stage B adds the comparison with the receipt's adapter. -/
def gpuTelemetryInvalid (gpu : PreContextGpuSample) (evaluated maximumAge : UInt64) : Bool :=
  !gpu.available || !gpu.adapterIdentityAvailable ||
  !sampleIsFresh gpu.capturedMonotonicMilliseconds evaluated maximumAge ||
  gpu.physicalOrReportableLocalBytes == 0 || gpu.dxgiLocalBudgetBytes == 0 ||
  gpu.dxgiLocalCurrentUsageBytes > gpu.dxgiLocalBudgetBytes

/-! ## Stage A -/

/-- The receipt that Stage A builds from its finished decision
(supervisor_admission.cpp:578–585). -/
def PreContextAdmissionDecision.receiptFor (decision : PreContextAdmissionDecision)
    (request : PreContextAdmissionRequest) (hostRequest : HostAdmissionRequest)
    (deadline : UInt64) : PreContextAdmissionReceipt :=
  { policyCeilingBytes := decision.policyCeilingBytes
    requestedTierBytes := decision.requestedTierBytes
    timing := decision.timing
    adapterLuidHigh := decision.adapterLuidHigh
    adapterLuidLow := decision.adapterLuidLow
    predictedGpuPeakBytes := decision.predictedGpuPeakBytes
    preContextGpuReserveBytes := decision.preContextGpuReserveBytes
    preContextEffectiveCapBytes := decision.preContextEffectiveCapBytes
    runStartedMonotonicMilliseconds := request.evaluationMonotonicMilliseconds
    runDeadlineMonotonicMilliseconds := deadline
    hostPolicy := request.hostPolicy
    hostRequest := hostRequest
    gpuWarningCelsius := decision.gpuWarningCelsius
    gpuStopCelsius := decision.gpuStopCelsius
    cell := request.cell }

/-- `evaluate_pre_context_admission` (supervisor_admission.cpp:406–587). -/
def evaluatePreContextAdmission (request : PreContextAdmissionRequest) :
    PreContextAdmissionDecision :=
  let decision : PreContextAdmissionDecision :=
    { policyCeilingBytes := request.policyCeilingBytes
      requestedTierBytes := request.requestedTierBytes
      timing := request.timing }
  if !admissionCellIdentityValid request.cell then
    decision.reject "pre_context_cell_identity_invalid"
  else if !(validateGpuHardCap request.policyCeilingBytes).accepted then
    decision.reject "pre_context_policy_ceiling_invalid"
  else if request.requestedTierBytes = 0 ∨
      request.requestedTierBytes > request.policyCeilingBytes then
    decision.reject "pre_context_requested_tier_invalid"
  else if (checkedNarrowU32 request.contextTokens).isNone ∨ request.contextTokens = 0 then
    decision.reject "pre_context_context_tokens_invalid"
  else if (checkedNarrowU32 request.runDeadlineMilliseconds).isNone ∨
      request.runDeadlineMilliseconds = 0 then
    decision.reject "pre_context_run_deadline_invalid"
  else
  let absoluteRunDeadline := checkedAddU64 request.evaluationMonotonicMilliseconds
    request.runDeadlineMilliseconds
  if request.evaluationMonotonicMilliseconds = 0 ∨ absoluteRunDeadline.isNone ∨
      absoluteRunDeadline.getD 0 ≤ request.evaluationMonotonicMilliseconds then
    decision.reject "pre_context_run_deadline_overflowed"
  else
  let timing := request.timing
  if timingPolicyInvalid timing then
    decision.reject "pre_context_timing_policy_invalid"
  else if !request.exclusiveGpuLeaseHeld then
    decision.reject "pre_context_gpu_lease_not_held"
  else if request.competingGpuWorkDetected then
    decision.reject "pre_context_competing_gpu_work_detected"
  else if !predictionIsComplete request.predictedGpu then
    decision.reject "pre_context_gpu_prediction_incomplete"
  else
  let predictedPeak := predictedGpuPeak request.predictedGpu
  if predictedPeak.isNone then
    decision.reject "pre_context_gpu_prediction_overflowed"
  else
  let decision := { decision with predictedGpuPeakBytes := predictedPeak.getD 0 }
  if gpuTelemetryInvalid request.gpu request.evaluationMonotonicMilliseconds
      timing.maximumGuardAgeMilliseconds then
    decision.reject "pre_context_gpu_telemetry_invalid_or_stale"
  else
  let liveCapacity := min request.gpu.physicalOrReportableLocalBytes
    request.gpu.dxgiLocalBudgetBytes
  let headroom := request.gpu.dxgiLocalBudgetBytes - request.gpu.dxgiLocalCurrentUsageBytes
  let decision :=
    { decision with
      preContextLiveCapacityBytes := liveCapacity
      adapterLuidHigh := request.gpu.adapterLuidHigh
      adapterLuidLow := request.gpu.adapterLuidLow
      dxgiLocalHeadroomBytes := headroom }
  let fractionalReserve := checkedBasisPointsU64 liveCapacity 1000 .up
  if fractionalReserve.isNone then
    decision.reject "pre_context_gpu_reserve_overflowed"
  else
  let reserve := max kGiB (fractionalReserve.getD 0)
  let boundedLive := min request.policyCeilingBytes liveCapacity
  let reserveAdjusted := saturatingSub boundedLive reserve
  let dxgiReserveAdjusted := saturatingSub headroom reserve
  let effectiveCap := min (min request.requestedTierBytes reserveAdjusted) dxgiReserveAdjusted
  let decision :=
    { decision with
      preContextGpuReserveBytes := reserve
      preContextEffectiveCapBytes := effectiveCap }
  if decision.predictedGpuPeakBytes > decision.preContextEffectiveCapBytes then
    decision.reject "pre_context_gpu_peak_exceeds_effective_cap"
  else
  let thermal := evaluateThermal request.thermal request.evaluationMonotonicMilliseconds
    timing.maximumGuardAgeMilliseconds
  if thermal.isNone then
    decision.reject
      ("pre_context_gpu_thermal_telemetry_invalid_or_stale" ++
        if !request.thermal.available ∧ request.thermal.unavailableReason ≠ .none then
          ":" ++ gpuThermalUnavailableReasonName request.thermal.unavailableReason
        else "")
  else
  let thermal := thermal.getD {}
  let decision :=
    { decision with
      gpuWarningCelsius := thermal.warningCelsius
      gpuStopCelsius := thermal.stopCelsius }
  if decision.gpuWarningCelsius ≤ 0 ∨ decision.gpuStopCelsius ≤ 0 ∨
      decision.gpuWarningCelsius ≥ decision.gpuStopCelsius then
    decision.reject "pre_context_gpu_thermal_bounds_invalid"
  else if !thermal.safeForAdmission then
    decision.reject "pre_context_gpu_thermal_state_unsafe"
  else if !request.storage.available then
    decision.reject "pre_context_storage_telemetry_unavailable"
  else if request.storage.freeBytes < request.storage.reserveBytes then
    decision.reject "pre_context_storage_reserve_unavailable"
  else
  let decision :=
    { decision with
      storagePayloadBytes := request.storage.freeBytes - request.storage.reserveBytes }
  if request.storage.requiredIncrementalBytes > decision.storagePayloadBytes then
    decision.reject "pre_context_storage_payload_exceeded"
  else
  let hostRequest := request.hostRequest.replayedAt request.evaluationMonotonicMilliseconds
    timing.maximumGuardAgeMilliseconds
  let decision :=
    { decision with
      hostDecision := evaluateHostAdmission request.host request.hostPolicy hostRequest }
  if !decision.hostDecision.admitted then
    decision.reject "pre_context_host_admission_rejected"
  else
    { decision with
      admitted := true
      reason := "admitted"
      receipt := some
        (decision.receiptFor request hostRequest (absoluteRunDeadline.getD 0)) }

/-! ## Stage B -/

/-- The comparison of a Stage-B request with its Stage-A receipt
(supervisor_admission.cpp:610–623). -/
def preAdmissionMismatched (request : PostContextAdmissionRequest)
    (pre : PreContextAdmissionReceipt) : Bool :=
  request.policyCeilingBytes != pre.policyCeilingBytes ||
  request.requestedTierBytes != pre.requestedTierBytes ||
  !sameTimingPolicy request.timing pre.timing ||
  !sameHostPolicy request.hostPolicy pre.hostPolicy ||
  !sameHostWorkload request.hostRequest pre.hostRequest ||
  request.evaluationMonotonicMilliseconds < pre.runStartedMonotonicMilliseconds ||
  request.evaluationMonotonicMilliseconds ≥ pre.runDeadlineMonotonicMilliseconds ||
  pre.preContextGpuReserveBytes < kGiB ||
  pre.preContextEffectiveCapBytes == 0 ||
  pre.preContextEffectiveCapBytes > pre.requestedTierBytes ||
  pre.requestedTierBytes > pre.policyCeilingBytes ||
  pre.predictedGpuPeakBytes > pre.preContextEffectiveCapBytes

/-- The adapter-telemetry check of Stage B (supervisor_admission.cpp:628–637). -/
def postContextGpuInvalid (request : PostContextAdmissionRequest)
    (pre : PreContextAdmissionReceipt) : Bool :=
  request.gpu.adapterLuidHigh != pre.adapterLuidHigh ||
  request.gpu.adapterLuidLow != pre.adapterLuidLow ||
  gpuTelemetryInvalid request.gpu request.evaluationMonotonicMilliseconds
    request.timing.maximumGuardAgeMilliseconds

/-- The owned-memory check of Stage B (supervisor_admission.cpp:644–672). Before
the token is issued the worker may hold its CUDA context and nothing else. -/
def ownedEvidenceInvalid (request : PostContextAdmissionRequest)
    (pre : PreContextAdmissionReceipt) : Bool :=
  let owned := request.ownedGpu
  let reconciled := reconcileOwnedCurrent owned
  !owned.available || !owned.reconciled || !owned.processDeviceCorroborationAvailable ||
  (owned.processDeviceSource != "nvml-process" &&
    owned.processDeviceSource != "wddm-process") ||
  owned.processId == 0 ||
  owned.processDeviceCapturedMonotonicMilliseconds != owned.capturedMonotonicMilliseconds ||
  owned.processDeviceCurrentBytes != owned.ownedCurrentBytes ||
  !owned.adapterIdentityAvailable ||
  !sampleIsFresh owned.capturedMonotonicMilliseconds
    request.evaluationMonotonicMilliseconds request.timing.maximumGuardAgeMilliseconds ||
  owned.adapterLuidHigh != request.gpu.adapterLuidHigh ||
  owned.adapterLuidLow != request.gpu.adapterLuidLow ||
  owned.unknownUnreconciledBytes != 0 || reconciled.isNone ||
  reconciled.getD 0 != owned.ownedCurrentBytes ||
  owned.cudaContextRuntimeCurrentBytes == 0 ||
  owned.backendBufferCurrentBytes != 0 || owned.backendPoolCurrentBytes != 0 ||
  owned.kernelWorkspaceCurrentBytes != 0 || owned.activationCurrentBytes != 0 ||
  owned.kvCurrentBytes != 0 || owned.graphCurrentBytes != 0 ||
  owned.profilerWorkspaceCurrentBytes != 0 ||
  owned.ownedCurrentBytes > owned.ownedPeakBytes ||
  owned.hardCapBytes != pre.preContextEffectiveCapBytes ||
  owned.ownedPeakBytes > owned.hardCapBytes ||
  owned.cudaMemInfoTotalBytes == 0 ||
  owned.cudaMemInfoFreeBytes > owned.cudaMemInfoTotalBytes ||
  request.gpu.dxgiLocalCurrentUsageBytes < owned.ownedCurrentBytes

/-- `decision.reason = …; return decision` of Stage B: the ledger is untouched. -/
def PostContextAdmissionDecision.reject (decision : PostContextAdmissionDecision)
    (ledger : ReceiptLedger) (reason : String) :
    PostContextAdmissionDecision × ReceiptLedger :=
  ({ decision with reason := reason }, ledger)

/-- The receipt that Stage B builds from its finished decision
(supervisor_admission.cpp:754–763), with a fresh one-shot cell. -/
def PostContextAdmissionDecision.receiptFor (decision : PostContextAdmissionDecision)
    (request : PostContextAdmissionRequest) (pre : PreContextAdmissionReceipt)
    (receiptId : UInt64) (tokenConsumed : Nat) : PostContextAdmissionReceipt :=
  { receiptId := receiptId
    policyCeilingBytes := request.policyCeilingBytes
    requestedTierBytes := request.requestedTierBytes
    timing := request.timing
    adapterLuidHigh := request.gpu.adapterLuidHigh
    adapterLuidLow := request.gpu.adapterLuidLow
    predictedGpuPeakBytes := pre.predictedGpuPeakBytes
    gpuReserveBytes := decision.gpuReserveBytes
    effectiveCapBytes := decision.postContextEffectiveCapBytes
    evaluationMonotonicMilliseconds := request.evaluationMonotonicMilliseconds
    runStartedMonotonicMilliseconds := pre.runStartedMonotonicMilliseconds
    runDeadlineMonotonicMilliseconds := pre.runDeadlineMonotonicMilliseconds
    hostPolicy := pre.hostPolicy
    hostRequest := pre.hostRequest
    gpuWarningCelsius := pre.gpuWarningCelsius
    gpuStopCelsius := pre.gpuStopCelsius
    cell := request.cell
    tokenConsumed := some tokenConsumed }

/-- What Stage B does to the ledger when it hands out a receipt. -/
def ReceiptLedger.issued (ledger : ReceiptLedger) : ReceiptLedger :=
  { sequence := ledger.sequence + 1, consumed := ledger.consumed ++ [false] }

/-- The tail of Stage B once a Stage-A receipt is present
(supervisor_admission.cpp:605–765). -/
def evaluatePostContextAgainst (ledger : ReceiptLedger) (request : PostContextAdmissionRequest)
    (pre : PreContextAdmissionReceipt) : PostContextAdmissionDecision × ReceiptLedger :=
  let decision : PostContextAdmissionDecision := {}
  if pre.cell ≠ request.cell then
    decision.reject ledger "post_context_pre_admission_cell_mismatched"
  else if preAdmissionMismatched request pre then
    decision.reject ledger "post_context_pre_admission_invalid_or_mismatched"
  else if postContextGpuInvalid request pre then
    decision.reject ledger "post_context_gpu_telemetry_invalid_or_stale"
  else
  let owned := request.ownedGpu
  let reconciled := reconcileOwnedCurrent owned
  if ownedEvidenceInvalid request pre then
    decision.reject ledger "post_context_owned_gpu_evidence_invalid"
  else
  let decision := { decision with reconciledOwnedCurrentBytes := reconciled.getD 0 }
  let cudaOwnedCapacity := checkedAddU64 owned.ownedCurrentBytes owned.cudaMemInfoFreeBytes
  let dxgiHeadroom := request.gpu.dxgiLocalBudgetBytes - request.gpu.dxgiLocalCurrentUsageBytes
  let dxgiOwnedCapacity := checkedAddU64 owned.ownedCurrentBytes dxgiHeadroom
  if cudaOwnedCapacity.isNone ∨ dxgiOwnedCapacity.isNone ∨
      cudaOwnedCapacity.getD 0 > owned.cudaMemInfoTotalBytes then
    decision.reject ledger "post_context_live_capacity_overflowed_or_contradictory"
  else
  let liveCapacity :=
    min (min (min request.gpu.physicalOrReportableLocalBytes request.gpu.dxgiLocalBudgetBytes)
      (cudaOwnedCapacity.getD 0)) (dxgiOwnedCapacity.getD 0)
  let decision :=
    { decision with
      cudaOwnedCapacityBytes := cudaOwnedCapacity.getD 0
      dxgiOwnedCapacityBytes := dxgiOwnedCapacity.getD 0
      postContextLiveCapacityBytes := liveCapacity }
  let fractionalReserve := checkedBasisPointsU64 liveCapacity 1000 .up
  if fractionalReserve.isNone then
    decision.reject ledger "post_context_gpu_reserve_overflowed"
  else
  let reserve := max (max pre.preContextGpuReserveBytes kGiB) (fractionalReserve.getD 0)
  let boundedLive := min request.policyCeilingBytes liveCapacity
  let reserveAdjusted := saturatingSub boundedLive reserve
  let effectiveCap :=
    min (min pre.preContextEffectiveCapBytes request.requestedTierBytes) reserveAdjusted
  let decision :=
    { decision with
      gpuReserveBytes := reserve
      postContextEffectiveCapBytes := effectiveCap }
  if owned.ownedCurrentBytes > effectiveCap ∨ pre.predictedGpuPeakBytes > effectiveCap then
    decision.reject ledger "post_context_gpu_peak_exceeds_effective_cap"
  else
  let thermal := evaluateThermal request.thermal request.evaluationMonotonicMilliseconds
    request.timing.maximumGuardAgeMilliseconds
  if thermal.isNone then
    decision.reject ledger "post_context_gpu_thermal_telemetry_invalid_or_stale"
  else
  let thermal := thermal.getD {}
  if thermal.warningCelsius ≤ 0 ∨ thermal.stopCelsius ≤ 0 ∨
      thermal.warningCelsius ≥ thermal.stopCelsius ∨
      thermal.warningCelsius > pre.gpuWarningCelsius ∨
      thermal.stopCelsius > pre.gpuStopCelsius ∨ !thermal.safeForAdmission then
    decision.reject ledger "post_context_gpu_thermal_state_unsafe"
  else
  let hostRequest := request.hostRequest.replayedAt request.evaluationMonotonicMilliseconds
    request.timing.maximumGuardAgeMilliseconds
  let decision :=
    { decision with
      hostDecision := evaluateHostAdmission request.host request.hostPolicy hostRequest }
  if !decision.hostDecision.admitted then
    decision.reject ledger "post_context_host_admission_rejected"
  else
  let receiptId := nextPostContextReceiptId ledger.sequence
  if receiptId.isNone then
    decision.reject ledger "post_context_receipt_sequence_exhausted"
  else
    ({ decision with
        admitted := true
        reason := "admitted"
        receipt := some (decision.receiptFor request pre (receiptId.getD 0)
          ledger.consumed.length) },
      ledger.issued)

/-- `evaluate_post_context_admission` (supervisor_admission.cpp:589–765). -/
def evaluatePostContextAdmission (ledger : ReceiptLedger)
    (request : PostContextAdmissionRequest) : PostContextAdmissionDecision × ReceiptLedger :=
  let decision : PostContextAdmissionDecision := {}
  if !admissionCellIdentityValid request.cell then
    decision.reject ledger "post_context_cell_identity_invalid"
  else if !(validateGpuHardCap request.policyCeilingBytes).accepted then
    decision.reject ledger "post_context_policy_ceiling_invalid"
  else match request.preContextReceipt with
  | none => decision.reject ledger "post_context_pre_admission_receipt_missing"
  | some pre => evaluatePostContextAgainst ledger request pre

/-! ## What an admission has passed -/

/-- One link of a chain of early returns: if the whole chain ended in a decision
that is `ok` and this link would have returned one that is not, then its
condition was false and the rest of the chain gave the decision. -/
theorem guard_passed {δ : Type*} {c : Prop} [Decidable c] {rejected rest decision : δ}
    (ok : δ → Bool) (hok : ok decision = true) (hrejected : ok rejected = false)
    (h : (if c then rejected else rest) = decision) : ¬ c ∧ rest = decision := by
  by_cases hc : c
  · rw [if_pos hc] at h
    rw [← h, hrejected] at hok
    exact absurd hok Bool.false_ne_true
  · rw [if_neg hc] at h
    exact ⟨hc, h⟩

theorem eq_some_getD_of_not_isNone {α : Type*} {o : Option α} (d : α) (h : ¬ o.isNone = true) :
    o = some (o.getD d) := by
  cases o with
  | none => exact absurd rfl h
  | some a => rfl

theorem some_of_safeForAdmission {o : Option ThermalDecision} (h : ¬ o.isNone = true)
    (hsafe : ¬ (!(o.getD {}).safeForAdmission) = true) :
    o = some ⟨(o.getD {}).warningCelsius, (o.getD {}).stopCelsius, true⟩ := by
  cases o with
  | none => exact absurd rfl h
  | some thermal =>
    have : thermal.safeForAdmission = true := by simpa using hsafe
    show some thermal = some ⟨thermal.warningCelsius, thermal.stopCelsius, true⟩
    rw [← this]

/-- Everything Stage A checked of a request it admitted, and what it computed. -/
structure PreAdmitted (request : PreContextAdmissionRequest)
    (decision : PreContextAdmissionDecision) : Prop where
  cell_valid : admissionCellIdentityValid request.cell = true
  ceiling_accepted : (validateGpuHardCap request.policyCeilingBytes).accepted = true
  tier_valid : ¬ (request.requestedTierBytes = 0 ∨
    request.requestedTierBytes > request.policyCeilingBytes)
  context_tokens_valid : ¬ ((checkedNarrowU32 request.contextTokens).isNone ∨
    request.contextTokens = 0)
  run_deadline_valid : ¬ ((checkedNarrowU32 request.runDeadlineMilliseconds).isNone ∨
    request.runDeadlineMilliseconds = 0)
  evaluated_ne_zero : request.evaluationMonotonicMilliseconds ≠ 0
  timing_valid : timingPolicyInvalid request.timing = false
  lease_held : request.exclusiveGpuLeaseHeld = true
  no_competing_work : request.competingGpuWorkDetected = false
  prediction_complete : predictionIsComplete request.predictedGpu = true
  predicted_peak : predictedGpuPeak request.predictedGpu = some decision.predictedGpuPeakBytes
  telemetry_valid : gpuTelemetryInvalid request.gpu request.evaluationMonotonicMilliseconds
    request.timing.maximumGuardAgeMilliseconds = false
  live_capacity : decision.preContextLiveCapacityBytes =
    min request.gpu.physicalOrReportableLocalBytes request.gpu.dxgiLocalBudgetBytes
  reserve : ∃ fractional,
    checkedBasisPointsU64 decision.preContextLiveCapacityBytes 1000 .up = some fractional ∧
    decision.preContextGpuReserveBytes = max kGiB fractional
  effective_cap : decision.preContextEffectiveCapBytes =
    min (min request.requestedTierBytes
      (saturatingSub (min request.policyCeilingBytes decision.preContextLiveCapacityBytes)
        decision.preContextGpuReserveBytes))
      (saturatingSub
        (request.gpu.dxgiLocalBudgetBytes - request.gpu.dxgiLocalCurrentUsageBytes)
        decision.preContextGpuReserveBytes)
  peak_le_cap : ¬ decision.predictedGpuPeakBytes > decision.preContextEffectiveCapBytes
  bounds_valid : ¬ (decision.gpuWarningCelsius ≤ 0 ∨ decision.gpuStopCelsius ≤ 0 ∨
    decision.gpuWarningCelsius ≥ decision.gpuStopCelsius)
  thermal : evaluateThermal request.thermal request.evaluationMonotonicMilliseconds
    request.timing.maximumGuardAgeMilliseconds =
      some ⟨decision.gpuWarningCelsius, decision.gpuStopCelsius, true⟩
  storage_available : request.storage.available = true
  storage_reserve : ¬ request.storage.freeBytes < request.storage.reserveBytes
  storage_payload : ¬ request.storage.requiredIncrementalBytes > decision.storagePayloadBytes
  host_admitted : (evaluateHostAdmission request.host request.hostPolicy
    (request.hostRequest.replayedAt request.evaluationMonotonicMilliseconds
      request.timing.maximumGuardAgeMilliseconds)).admitted = true
  echoed : decision.policyCeilingBytes = request.policyCeilingBytes ∧
    decision.requestedTierBytes = request.requestedTierBytes ∧
    decision.timing = request.timing ∧
    decision.adapterLuidHigh = request.gpu.adapterLuidHigh ∧
    decision.adapterLuidLow = request.gpu.adapterLuidLow
  receipt : ∃ deadline, checkedAddU64 request.evaluationMonotonicMilliseconds
      request.runDeadlineMilliseconds = some deadline ∧
    request.evaluationMonotonicMilliseconds < deadline ∧
    decision.receipt = some (decision.receiptFor request
      (request.hostRequest.replayedAt request.evaluationMonotonicMilliseconds
        request.timing.maximumGuardAgeMilliseconds) deadline)

/-- Stage A admits only what passes every one of its checks. -/
theorem preAdmitted_of_admitted {request : PreContextAdmissionRequest}
    (h : (evaluatePreContextAdmission request).admitted = true) :
    PreAdmitted request (evaluatePreContextAdmission request) := by
  generalize hd : evaluatePreContextAdmission request = decision at h ⊢
  unfold evaluatePreContextAdmission at hd
  have passed {c : Prop} [Decidable c] {rejected rest : PreContextAdmissionDecision} :=
    @guard_passed _ c _ rejected rest decision (·.admitted) h
  obtain ⟨hcell, hd⟩ := passed rfl hd
  obtain ⟨hceiling, hd⟩ := passed rfl hd
  obtain ⟨htier, hd⟩ := passed rfl hd
  obtain ⟨htokens, hd⟩ := passed rfl hd
  obtain ⟨hrun, hd⟩ := passed rfl hd
  obtain ⟨hdeadline, hd⟩ := passed rfl hd
  obtain ⟨htiming, hd⟩ := passed rfl hd
  obtain ⟨hlease, hd⟩ := passed rfl hd
  obtain ⟨hcompeting, hd⟩ := passed rfl hd
  obtain ⟨hcomplete, hd⟩ := passed rfl hd
  obtain ⟨hpeak, hd⟩ := passed rfl hd
  obtain ⟨htelemetry, hd⟩ := passed rfl hd
  obtain ⟨hreserve, hd⟩ := passed rfl hd
  obtain ⟨hcap, hd⟩ := passed rfl hd
  obtain ⟨hthermal, hd⟩ := passed rfl hd
  obtain ⟨hbounds, hd⟩ := passed rfl hd
  obtain ⟨hsafe, hd⟩ := passed rfl hd
  obtain ⟨hstorage, hd⟩ := passed rfl hd
  obtain ⟨hstorageReserve, hd⟩ := passed rfl hd
  obtain ⟨hstoragePayload, hd⟩ := passed rfl hd
  obtain ⟨hhost, hd⟩ := passed rfl hd
  subst hd
  rw [not_or, not_or, UInt64.not_le] at hdeadline
  exact
    { cell_valid := by simpa using hcell
      ceiling_accepted := by simpa using hceiling
      tier_valid := htier
      context_tokens_valid := htokens
      run_deadline_valid := hrun
      evaluated_ne_zero := hdeadline.1
      timing_valid := by simpa using htiming
      lease_held := by simpa using hlease
      no_competing_work := by simpa using hcompeting
      prediction_complete := by simpa using hcomplete
      predicted_peak := eq_some_getD_of_not_isNone 0 hpeak
      telemetry_valid := by simpa using htelemetry
      live_capacity := rfl
      reserve := ⟨_, eq_some_getD_of_not_isNone 0 hreserve, rfl⟩
      effective_cap := rfl
      peak_le_cap := hcap
      bounds_valid := hbounds
      thermal := some_of_safeForAdmission hthermal hsafe
      storage_available := by simpa using hstorage
      storage_reserve := hstorageReserve
      storage_payload := hstoragePayload
      host_admitted := by simpa using hhost
      echoed := ⟨rfl, rfl, rfl, rfl, rfl⟩
      receipt :=
        ⟨_, eq_some_getD_of_not_isNone 0 hdeadline.2.1, hdeadline.2.2, rfl⟩ }

/-- Everything Stage B checked of a request it admitted against `pre`, and what
it computed. -/
structure PostAdmitted (ledger : ReceiptLedger) (request : PostContextAdmissionRequest)
    (pre : PreContextAdmissionReceipt) (decision : PostContextAdmissionDecision) : Prop where
  pre_receipt : request.preContextReceipt = some pre
  cell_valid : admissionCellIdentityValid request.cell = true
  ceiling_accepted : (validateGpuHardCap request.policyCeilingBytes).accepted = true
  cell_matched : pre.cell = request.cell
  pre_matched : preAdmissionMismatched request pre = false
  telemetry_valid : postContextGpuInvalid request pre = false
  owned_valid : ownedEvidenceInvalid request pre = false
  cuda_capacity : checkedAddU64 request.ownedGpu.ownedCurrentBytes
    request.ownedGpu.cudaMemInfoFreeBytes = some decision.cudaOwnedCapacityBytes
  dxgi_capacity : checkedAddU64 request.ownedGpu.ownedCurrentBytes
    (request.gpu.dxgiLocalBudgetBytes - request.gpu.dxgiLocalCurrentUsageBytes) =
      some decision.dxgiOwnedCapacityBytes
  cuda_consistent : decision.cudaOwnedCapacityBytes ≤ request.ownedGpu.cudaMemInfoTotalBytes
  live_capacity : decision.postContextLiveCapacityBytes =
    min (min (min request.gpu.physicalOrReportableLocalBytes request.gpu.dxgiLocalBudgetBytes)
      decision.cudaOwnedCapacityBytes) decision.dxgiOwnedCapacityBytes
  reserve : ∃ fractional,
    checkedBasisPointsU64 decision.postContextLiveCapacityBytes 1000 .up = some fractional ∧
    decision.gpuReserveBytes = max (max pre.preContextGpuReserveBytes kGiB) fractional
  effective_cap : decision.postContextEffectiveCapBytes =
    min (min pre.preContextEffectiveCapBytes request.requestedTierBytes)
      (saturatingSub (min request.policyCeilingBytes decision.postContextLiveCapacityBytes)
        decision.gpuReserveBytes)
  owned_le_cap :
    request.ownedGpu.ownedCurrentBytes ≤ decision.postContextEffectiveCapBytes
  peak_le_cap : pre.predictedGpuPeakBytes ≤ decision.postContextEffectiveCapBytes
  thermal : ∃ warning stop,
    evaluateThermal request.thermal request.evaluationMonotonicMilliseconds
      request.timing.maximumGuardAgeMilliseconds = some ⟨warning, stop, true⟩ ∧
    0 < warning ∧ warning < stop ∧
    warning ≤ pre.gpuWarningCelsius ∧ stop ≤ pre.gpuStopCelsius
  host_admitted : (evaluateHostAdmission request.host request.hostPolicy
    (request.hostRequest.replayedAt request.evaluationMonotonicMilliseconds
      request.timing.maximumGuardAgeMilliseconds)).admitted = true
  receipt : ∃ receiptId, nextPostContextReceiptId ledger.sequence = some receiptId ∧
    decision.receipt =
      some (decision.receiptFor request pre receiptId ledger.consumed.length)

/-- The checks of Stage B after the Stage-A receipt was found. -/
theorem postAdmitted_of_against {ledger : ReceiptLedger} {request : PostContextAdmissionRequest}
    {pre : PreContextAdmissionReceipt} (hpre : request.preContextReceipt = some pre)
    (hcell : admissionCellIdentityValid request.cell = true)
    (hceiling : (validateGpuHardCap request.policyCeilingBytes).accepted = true)
    {result : PostContextAdmissionDecision × ReceiptLedger}
    (hr : evaluatePostContextAgainst ledger request pre = result) (h : result.1.admitted = true) :
    PostAdmitted ledger request pre result.1 ∧ result.2 = ledger.issued := by
  unfold evaluatePostContextAgainst at hr
  have passed {c : Prop} [Decidable c] {rejected rest : PostContextAdmissionDecision × _} :=
    @guard_passed _ c _ rejected rest result (·.1.admitted) h
  obtain ⟨hsame, hr⟩ := passed rfl hr
  obtain ⟨hmatched, hr⟩ := passed rfl hr
  obtain ⟨htelemetry, hr⟩ := passed rfl hr
  obtain ⟨howned, hr⟩ := passed rfl hr
  obtain ⟨hcapacity, hr⟩ := passed rfl hr
  obtain ⟨hreserve, hr⟩ := passed rfl hr
  obtain ⟨hcap, hr⟩ := passed rfl hr
  obtain ⟨hthermal, hr⟩ := passed rfl hr
  obtain ⟨hstate, hr⟩ := passed rfl hr
  obtain ⟨hhost, hr⟩ := passed rfl hr
  obtain ⟨hid, hr⟩ := passed rfl hr
  subst hr
  rw [not_or, not_or, gt_iff_lt, UInt64.not_lt] at hcapacity
  rw [not_or, gt_iff_lt, gt_iff_lt, UInt64.not_lt, UInt64.not_lt] at hcap
  simp only [not_or, not_le, not_lt, ge_iff_le, gt_iff_lt] at hstate
  obtain ⟨hwarning, -, hlt, hwarningPre, hstopPre, hsafe⟩ := hstate
  exact
    ⟨{  pre_receipt := hpre
        cell_valid := hcell
        ceiling_accepted := hceiling
        cell_matched := not_not.1 hsame
        pre_matched := by simpa using hmatched
        telemetry_valid := by simpa using htelemetry
        owned_valid := by simpa using howned
        cuda_capacity := eq_some_getD_of_not_isNone 0 hcapacity.1
        dxgi_capacity := eq_some_getD_of_not_isNone 0 hcapacity.2.1
        cuda_consistent := hcapacity.2.2
        live_capacity := rfl
        reserve := ⟨_, eq_some_getD_of_not_isNone 0 hreserve, rfl⟩
        effective_cap := rfl
        owned_le_cap := hcap.1
        peak_le_cap := hcap.2
        thermal := ⟨_, _, some_of_safeForAdmission hthermal hsafe, hwarning, hlt,
          hwarningPre, hstopPre⟩
        host_admitted := by simpa using hhost
        receipt := ⟨_, eq_some_getD_of_not_isNone 0 hid, rfl⟩ }, rfl⟩

/-- Stage B admits only what passes every one of its checks, and then advances
the receipt ledger by one. -/
theorem postAdmitted_of_admitted {ledger : ReceiptLedger} {request : PostContextAdmissionRequest}
    (h : (evaluatePostContextAdmission ledger request).1.admitted = true) :
    (∃ pre, PostAdmitted ledger request pre (evaluatePostContextAdmission ledger request).1) ∧
      (evaluatePostContextAdmission ledger request).2 = ledger.issued := by
  generalize hr : evaluatePostContextAdmission ledger request = result at h ⊢
  unfold evaluatePostContextAdmission at hr
  obtain ⟨hcell, hr⟩ := guard_passed (·.1.admitted) h rfl hr
  obtain ⟨hceiling, hr⟩ := guard_passed (·.1.admitted) h rfl hr
  cases hpre : request.preContextReceipt with
  | none =>
    rw [hpre] at hr
    subst hr
    exact absurd h Bool.false_ne_true
  | some pre =>
    rw [hpre] at hr
    obtain ⟨hadmitted, hledger⟩ := postAdmitted_of_against hpre (by simpa using hcell)
      (by simpa using hceiling) hr h
    exact ⟨⟨pre, hadmitted⟩, hledger⟩

/-- What both sides of an early return have, the chain has. -/
theorem guard_both {δ : Type*} {c : Prop} [Decidable c] {rejected rest : δ} (P : δ → Prop)
    (hrejected : P rejected) (hrest : P rest) : P (if c then rejected else rest) := by
  by_cases hc : c
  · rw [if_pos hc]
    exact hrejected
  · rw [if_neg hc]
    exact hrest

/-- A Stage-B call that does not admit hands out no receipt and leaves the ledger
as it was. -/
def RejectedCleanly (ledger : ReceiptLedger)
    (result : PostContextAdmissionDecision × ReceiptLedger) : Prop :=
  result.1.admitted = true ∨ result.1.receipt = none ∧ result.2 = ledger

variable (ledger : ReceiptLedger) (request : PostContextAdmissionRequest)

theorem rejectedCleanly_against (pre : PreContextAdmissionReceipt) :
    RejectedCleanly ledger (evaluatePostContextAgainst ledger request pre) := by
  unfold evaluatePostContextAgainst
  -- every check returns early
  repeat refine guard_both (RejectedCleanly ledger) (.inr ⟨rfl, rfl⟩) ?_
  exact .inl rfl

theorem rejectedCleanly : RejectedCleanly ledger (evaluatePostContextAdmission ledger request) := by
  unfold evaluatePostContextAdmission
  repeat refine guard_both (RejectedCleanly ledger) (.inr ⟨rfl, rfl⟩) ?_
  cases request.preContextReceipt with
  | none => exact .inr ⟨rfl, rfl⟩
  | some pre => exact rejectedCleanly_against ledger request pre

/-- What Stage B does to the ledger: nothing, or it numbers a receipt by the
sequence and gives it a flag of its own. -/
theorem stageB_ledger : let result := evaluatePostContextAdmission ledger request
    (result.1.receipt = none ∧ result.2 = ledger) ∨
      ∃ receipt, result.1.receipt = some receipt ∧ result.2 = ledger.issued ∧
        receipt.receiptId = ledger.sequence ∧
        receipt.tokenConsumed = some ledger.consumed.length ∧
        ¬ (ledger.sequence = 0 ∨ ledger.sequence = uint64Max) := by
  intro result
  rcases rejectedCleanly ledger request with hadmitted | hrejected
  · right
    obtain ⟨⟨pre, hpassed⟩, hledger⟩ := postAdmitted_of_admitted hadmitted
    obtain ⟨receiptId, hid, hreceipt⟩ := hpassed.receipt
    unfold nextPostContextReceiptId at hid
    split at hid
    · cases hid
    · rename_i hsequence
      exact ⟨_, hreceipt, hledger, (Option.some.inj hid).symm, rfl, hsequence⟩
  · exact .inl hrejected

end PrismInfer.Governor
