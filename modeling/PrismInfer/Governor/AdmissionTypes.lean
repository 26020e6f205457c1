import PrismInfer.Governor.HostAdmission

/-!
# Admission data (supervisor_admission.h, admission_cell_identity.h, gpu_cap_policy.h)

The records that the two admission stages and the watchdog exchange: policies,
telemetry samples, requests, receipts and decisions, with the defaults of the
source. Machine words stay machine words (`UInt64` wraps); temperatures are
`Int`, since the code confines them to `[-100, 200]` before it computes with
them. Fields that no modelled function reads are left out.

Receipts have private constructors in the source: only Stage A builds a
`PreContextAdmissionReceipt` and only Stage B a `PostContextAdmissionReceipt`.
-/

namespace PrismInfer.Governor

/-! ## Identities, policies and samples -/

/-- `AdmissionDigest`. -/
abbrev AdmissionDigest := Vector UInt8 32

/-- `AdmissionCellIdentity` (admission_cell_identity.h). -/
structure AdmissionCellIdentity where
  runSequence : UInt64 := 0
  (runContractHash thresholdRegistryHash hardwareIdentityHash runtimeIdentityHash
    artifactIdentityHash serviceProfileHash : AdmissionDigest := Vector.replicate 32 0)
  deriving DecidableEq

/-- The `nonzero` lambda of `admission_cell_identity_valid`. -/
def AdmissionDigest.nonzero (digest : AdmissionDigest) : Bool :=
  digest.toList.any fun byte => byte != 0

/-- `admission_cell_identity_valid`. -/
def admissionCellIdentityValid (cell : AdmissionCellIdentity) : Bool :=
  cell.runSequence != 0 &&
  AdmissionDigest.nonzero cell.runContractHash &&
  AdmissionDigest.nonzero cell.thresholdRegistryHash &&
  AdmissionDigest.nonzero cell.hardwareIdentityHash &&
  AdmissionDigest.nonzero cell.runtimeIdentityHash &&
  AdmissionDigest.nonzero cell.artifactIdentityHash &&
  AdmissionDigest.nonzero cell.serviceProfileHash

/-- `kMaxGpuHardCapBytes` (gpu_cap_policy.h): 16 GiB. -/
def kMaxGpuHardCapBytes : UInt64 := 17179869184

/-- `GpuCapPolicyResult`. -/
structure GpuCapPolicyResult where
  accepted : Bool := true
  failureReason : String := ""

/-- `validate_gpu_hard_cap` (gpu_cap_policy.cpp). -/
def validateGpuHardCap (hardCapBytes : UInt64) : GpuCapPolicyResult :=
  if hardCapBytes = 0 then ⟨false, "hard_cap_must_be_positive"⟩
  else if hardCapBytes > kMaxGpuHardCapBytes then ⟨false, "hard_cap_exceeds_max_gpu_cap"⟩
  else {}

/-- `SupervisorTimingPolicy`. -/
structure SupervisorTimingPolicy where
  supervisorSamplePeriodMilliseconds : UInt64 := 100
  workerHeartbeatPeriodMilliseconds : UInt64 := 250
  maximumGuardAgeMilliseconds : UInt64 := 500
  cooperativeCancelAckMilliseconds : UInt64 := 500
  workerExitMilliseconds : UInt64 := 2000
  cleanupMilliseconds : UInt64 := 5000
  declaredDispatchBoundMilliseconds : UInt64 := 500
  automaticSameContextRetryCount : UInt32 := 0
  deriving DecidableEq

/-- `PredictionProvenance`. -/
inductive PredictionProvenance
  | unavailable
  | approvedArtifactCensus
  | pinnedRuntimeEstimate
  | exactZeroNotApplicable
  deriving DecidableEq

/-- `PredictedBytes`. -/
structure PredictedBytes where
  bytes : Option UInt64 := none
  provenance : PredictionProvenance := .unavailable

/-- `PredictedGpuFootprint`. -/
structure PredictedGpuFootprint where
  (contextRuntime backend model state workspace fragmentation : PredictedBytes := {})

/-- `PreContextGpuSample`. -/
structure PreContextGpuSample where
  available : Bool := false
  adapterIdentityAvailable : Bool := false
  adapterLuidHigh : Int32 := 0
  adapterLuidLow : UInt32 := 0
  (capturedMonotonicMilliseconds physicalOrReportableLocalBytes dxgiLocalBudgetBytes
    dxgiLocalCurrentUsageBytes : UInt64 := 0)
  deriving DecidableEq

/-- `GpuThermalUnavailableReason`. -/
inductive GpuThermalUnavailableReason
  | none
  | nvmlInitializationFailed
  | gpuUuidInvalid
  | deviceHandleFailed
  | temperatureQueryFailed
  | tlimitFieldQueryFailed
  | targetTlimitFieldFailed
  | slowdownTlimitFieldFailed
  | targetTlimitTypeInvalid
  | slowdownTlimitTypeInvalid
  | fieldQueryClockInvalid
  | fieldTimestampInvalidOrStale
  | clockEventQueryFailed
  | temperatureValueInvalid
  | monotonicClockInvalid
  | tlimitConversionInvalid
  | nvmlShutdownFailed
  | cudaProbeDisabled
  deriving DecidableEq

/-- `gpu_thermal_unavailable_reason_name` (gpu_thermal.cpp:14–55). -/
def gpuThermalUnavailableReasonName : GpuThermalUnavailableReason → String
  | .none => "none"
  | .nvmlInitializationFailed => "nvml_initialization_failed"
  | .gpuUuidInvalid => "gpu_uuid_invalid"
  | .deviceHandleFailed => "nvml_device_handle_failed"
  | .temperatureQueryFailed => "nvml_temperature_query_failed"
  | .tlimitFieldQueryFailed => "nvml_tlimit_field_query_failed"
  | .targetTlimitFieldFailed => "nvml_target_tlimit_field_failed"
  | .slowdownTlimitFieldFailed => "nvml_slowdown_tlimit_field_failed"
  | .targetTlimitTypeInvalid => "nvml_target_tlimit_type_invalid"
  | .slowdownTlimitTypeInvalid => "nvml_slowdown_tlimit_type_invalid"
  | .fieldQueryClockInvalid => "nvml_field_query_clock_invalid"
  | .fieldTimestampInvalidOrStale => "nvml_field_timestamp_invalid_or_stale"
  | .clockEventQueryFailed => "nvml_clock_event_query_failed"
  | .temperatureValueInvalid => "nvml_temperature_value_invalid"
  | .monotonicClockInvalid => "monotonic_clock_invalid"
  | .tlimitConversionInvalid => "nvml_tlimit_conversion_invalid"
  | .nvmlShutdownFailed => "nvml_shutdown_failed"
  | .cudaProbeDisabled => "cuda_probe_disabled"

/-- `GpuThermalSample`. -/
structure GpuThermalSample where
  available : Bool := false
  unavailableReason : GpuThermalUnavailableReason := .none
  capturedMonotonicMilliseconds : UInt64 := 0
  currentCelsius : Int := 0
  reportedTargetCelsius : Option Int := none
  reportedSlowdownCelsius : Option Int := none
  thermalThrottling : Bool := false
  powerBrakeSlowdown : Bool := false
  deriving DecidableEq

/-- `StorageHeadroomSample`. -/
structure StorageHeadroomSample where
  available : Bool := false
  (freeBytes reserveBytes requiredIncrementalBytes : UInt64 := 0)

/-- The fields of `OwnedGpuMemoryEvidence` (windows_evidence.h) that admission
and the watchdog read. -/
structure OwnedGpuMemoryEvidence where
  available : Bool := false
  capturedMonotonicMilliseconds : UInt64 := 0
  reconciled : Bool := false
  processDeviceCorroborationAvailable : Bool := false
  processDeviceSource : String := ""
  processId : UInt32 := 0
  processDeviceCapturedMonotonicMilliseconds : UInt64 := 0
  processDeviceCurrentBytes : UInt64 := 0
  adapterIdentityAvailable : Bool := false
  adapterLuidHigh : Int32 := 0
  adapterLuidLow : UInt32 := 0
  (hardCapBytes ownedCurrentBytes ownedPeakBytes backendBufferCurrentBytes backendPoolCurrentBytes
    kernelWorkspaceCurrentBytes activationCurrentBytes kvCurrentBytes graphCurrentBytes
    profilerWorkspaceCurrentBytes cudaContextRuntimeCurrentBytes cudaMemInfoFreeBytes
    cudaMemInfoTotalBytes unknownUnreconciledBytes : UInt64 := 0)

/-! ## Requests, receipts and decisions -/

/-- `PreContextAdmissionReceipt`; only Stage A builds one. -/
structure PreContextAdmissionReceipt where
  policyCeilingBytes : UInt64
  requestedTierBytes : UInt64
  timing : SupervisorTimingPolicy
  adapterLuidHigh : Int32
  adapterLuidLow : UInt32
  (predictedGpuPeakBytes preContextGpuReserveBytes preContextEffectiveCapBytes
    runStartedMonotonicMilliseconds runDeadlineMonotonicMilliseconds : UInt64)
  hostPolicy : HostReservePolicy
  hostRequest : HostAdmissionRequest
  gpuWarningCelsius : Int
  gpuStopCelsius : Int
  cell : AdmissionCellIdentity
  deriving DecidableEq

/-- `PreContextAdmissionRequest`. -/
structure PreContextAdmissionRequest where
  policyCeilingBytes : UInt64 := 17179869184
  (requestedTierBytes contextTokens runDeadlineMilliseconds evaluationMonotonicMilliseconds
    : UInt64 := 0)
  exclusiveGpuLeaseHeld : Bool := false
  competingGpuWorkDetected : Bool := false
  timing : SupervisorTimingPolicy := {}
  predictedGpu : PredictedGpuFootprint := {}
  gpu : PreContextGpuSample := {}
  thermal : GpuThermalSample := {}
  storage : StorageHeadroomSample := {}
  host : HostTelemetrySample := {}
  hostPolicy : HostReservePolicy := {}
  hostRequest : HostAdmissionRequest := {}
  cell : AdmissionCellIdentity := {}

/-- `PreContextAdmissionDecision`. -/
structure PreContextAdmissionDecision where
  admitted : Bool := false
  reason : String := ""
  policyCeilingBytes : UInt64 := 0
  requestedTierBytes : UInt64 := 0
  timing : SupervisorTimingPolicy := {}
  adapterLuidHigh : Int32 := 0
  adapterLuidLow : UInt32 := 0
  (predictedGpuPeakBytes preContextLiveCapacityBytes dxgiLocalHeadroomBytes
    preContextGpuReserveBytes preContextEffectiveCapBytes : UInt64 := 0)
  gpuWarningCelsius : Int := 0
  gpuStopCelsius : Int := 0
  storagePayloadBytes : UInt64 := 0
  hostDecision : HostAdmissionDecision := {}
  receipt : Option PreContextAdmissionReceipt := none
  deriving DecidableEq

/-- `reject` of supervisor_admission.cpp. -/
def PreContextAdmissionDecision.reject (decision : PreContextAdmissionDecision)
    (reason : String) : PreContextAdmissionDecision :=
  { decision with reason := reason }

/-- `PostContextAdmissionRequest`. -/
structure PostContextAdmissionRequest where
  preContextReceipt : Option PreContextAdmissionReceipt := none
  policyCeilingBytes : UInt64 := 17179869184
  requestedTierBytes : UInt64 := 0
  evaluationMonotonicMilliseconds : UInt64 := 0
  timing : SupervisorTimingPolicy := {}
  gpu : PreContextGpuSample := {}
  thermal : GpuThermalSample := {}
  ownedGpu : OwnedGpuMemoryEvidence := {}
  host : HostTelemetrySample := {}
  hostPolicy : HostReservePolicy := {}
  hostRequest : HostAdmissionRequest := {}
  cell : AdmissionCellIdentity := {}

/-- `PostContextAdmissionReceipt`; only Stage B builds one. `tokenConsumed` is
the `shared_ptr<atomic<bool>>` that all copies of a receipt share: the address
of its cell in the `ReceiptLedger`, `none` once the receipt is moved from. -/
structure PostContextAdmissionReceipt where
  (receiptId policyCeilingBytes requestedTierBytes : UInt64)
  timing : SupervisorTimingPolicy
  adapterLuidHigh : Int32
  adapterLuidLow : UInt32
  (predictedGpuPeakBytes gpuReserveBytes effectiveCapBytes evaluationMonotonicMilliseconds
    runStartedMonotonicMilliseconds runDeadlineMonotonicMilliseconds : UInt64)
  hostPolicy : HostReservePolicy
  hostRequest : HostAdmissionRequest
  gpuWarningCelsius : Int
  gpuStopCelsius : Int
  cell : AdmissionCellIdentity
  tokenConsumed : Option Nat
  deriving DecidableEq

/-- `PostContextAdmissionDecision`. -/
structure PostContextAdmissionDecision where
  admitted : Bool := false
  reason : String := ""
  (reconciledOwnedCurrentBytes cudaOwnedCapacityBytes dxgiOwnedCapacityBytes
    postContextLiveCapacityBytes gpuReserveBytes postContextEffectiveCapBytes : UInt64 := 0)
  hostDecision : HostAdmissionDecision := {}
  receipt : Option PostContextAdmissionReceipt := none
  deriving DecidableEq

/-- The process-wide state behind Stage-B receipts: the id sequence
(`g_post_context_receipt_sequence`, starting at 1) and the one-shot cells the
receipts share, by address. -/
structure ReceiptLedger where
  sequence : UInt64 := 1
  consumed : List Bool := []

/-- `next_post_context_receipt_id`: the compare-exchange loop hands out the
current number, or nothing once the sequence is exhausted. -/
def nextPostContextReceiptId (sequence : UInt64) : Option UInt64 :=
  if sequence = 0 ∨ sequence = uint64Max then none else some sequence

end PrismInfer.Governor
