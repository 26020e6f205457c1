import PrismInfer.Governor.GpuAdmissionSession
import PrismInfer.Runtime.NativeWorker
import PrismInfer.Validation.C2ClearanceReceipt

/-!
# The clearance supervisor

`main` of tools/prism-c2-supervisor/main.cpp from the return of `run_contained_worker`
on: it samples once more, builds the receipt, hashes it, finalizes the cleanup, hashes it
again and writes it. A `SupervisedRun` is what it has in hand there: the options, the
samples, what the evidence providers captured, the result of the worker and the answer of
`finalize_cleanup`. The file system does what it is asked to, and the file is new.

A temperature is an `int` in the source, of 32 bits. The source of a process sample is one
of the three texts that `sample_process_device_memory` sets (windows_evidence.cpp:246 and
289, or none).
-/

namespace PrismInfer.Validation

open PrismInfer.Lib PrismInfer.Governor PrismInfer.Runtime

/-! ## What the supervisor has -/

/-- The cases that `parse_options` accepts. -/
inductive ClearanceCase
  | success
  | postContextTelemetryLoss
  | heartbeatLoss
  | watchdogCancel
  deriving DecidableEq

def ClearanceCase.name : ClearanceCase → String
  | .success => "success"
  | .postContextTelemetryLoss => "post-context-telemetry-loss"
  | .heartbeatLoss => "heartbeat-loss"
  | .watchdogCancel => "watchdog-cancel"

/-- `Options`, without the paths. -/
structure SupervisorOptions where
  caseName : ClearanceCase := .success
  (workflowRunId authorizationId gpuUuid : String := "")
  adapterIndex : UInt32 := 0
  payloadBytes : UInt64 := 0

/-- The fields of `WddmMemorySample` that the supervisor reads. -/
structure WddmMemorySample where
  available : Bool := false
  capturedMonotonicMilliseconds : UInt64 := 0
  adapterLuidHigh : Int32 := 0
  adapterLuidLow : UInt32 := 0
  localBudgetBytes : UInt64 := 0
  localCurrentUsageBytes : UInt64 := 0

/-- The sources of a process sample. -/
inductive ProcessDeviceSource
  | unset
  | wddmProcess
  | nvmlProcess
  deriving DecidableEq

def ProcessDeviceSource.text : ProcessDeviceSource → String
  | .unset => ""
  | .wddmProcess => "wddm-process"
  | .nvmlProcess => "nvml-process"

/-- `ProcessDeviceMemorySample`. -/
structure ProcessDeviceMemorySample where
  available : Bool := false
  unavailableReason : String := ""
  source : ProcessDeviceSource := .unset
  processId : UInt32 := 0
  capturedMonotonicMilliseconds : UInt64 := 0
  adapterLuidHigh : Int32 := 0
  adapterLuidLow : UInt32 := 0
  currentBytes : UInt64 := 0

/-- `require_c2_wddm_process_sample` (c2_case_policy.cpp:34–44). -/
def requireC2WddmProcessSample (sample : ProcessDeviceMemorySample) :
    ProcessDeviceMemorySample :=
  if !sample.available ∨ sample.source ≠ .wddmProcess then
    { sample with
      available := false
      unavailableReason := "c2_requires_wddm_process_source:" ++
        if sample.source = .unset then "unavailable" else sample.source.text }
  else sample

/-- `LiveEvidenceCapture`. -/
structure LiveEvidenceCapture where
  post : Option PostContextAdmissionRequest := none
  watchdog : Option SupervisorWatchdogSample := none
  firstProcess : Option ProcessDeviceMemorySample := none
  process : Option ProcessDeviceMemorySample := none
  processPeakBytes : UInt64 := 0

/-- What the supervisor has when the worker has been run. -/
structure SupervisedRun where
  options : SupervisorOptions := {}
  (reviewedSha sourceTreeSha workerSha256 : String := "")
  preWddm : WddmMemorySample := {}
  pre : PreContextAdmissionRequest := {}
  captured : LiveEvidenceCapture := {}
  result : NativeWorkerResult := {}
  finalWddm : WddmMemorySample := {}
  finalHost : HostTelemetrySample := {}
  finalThermal : GpuThermalSample := {}
  outputRemoved : Bool := true
  cleanup : GpuAdmissionSessionState := .quarantined

/-! ## The last good sample -/

inductive LastGoodStage
  | preContext
  | postContext
  | watchdog
  deriving DecidableEq

def LastGoodStage.text : LastGoodStage → String
  | .preContext => "pre-context"
  | .postContext => "post-context"
  | .watchdog => "watchdog"

/-- The samples of the guards. -/
structure GuardSample where
  gpu : PreContextGpuSample := {}
  host : HostTelemetrySample := {}
  thermal : GpuThermalSample := {}
  deriving DecidableEq

def preGuard (request : PreContextAdmissionRequest) : GuardSample :=
  ⟨request.gpu, request.host, request.thermal⟩

def postGuard (request : PostContextAdmissionRequest) : GuardSample :=
  ⟨request.gpu, request.host, request.thermal⟩

def watchdogGuard (sample : SupervisorWatchdogSample) : GuardSample :=
  ⟨sample.gpu, sample.host, sample.thermal⟩

/-- The arguments of `bind_last_good`. -/
structure LastGood where
  stage : LastGoodStage
  guards : GuardSample
  process : Option ProcessDeviceMemorySample

/-- Which sample is bound (main.cpp:521–536): the case decides, and what was captured. -/
def selectLastGood (caseName : ClearanceCase) (pre : PreContextAdmissionRequest)
    (captured : LiveEvidenceCapture) : LastGood :=
  if caseName = .postContextTelemetryLoss then ⟨.preContext, preGuard pre, none⟩
  else
  match captured.post, captured.watchdog with
  | some post, some watchdog =>
    if caseName = .watchdogCancel then ⟨.postContext, postGuard post, captured.firstProcess⟩
    else ⟨.watchdog, watchdogGuard watchdog, captured.process⟩
  | some post, none => ⟨.postContext, postGuard post, captured.firstProcess⟩
  | none, some watchdog => ⟨.watchdog, watchdogGuard watchdog, captured.process⟩
  | none, none => ⟨.preContext, preGuard pre, none⟩

/-- A temperature as an `int`. -/
def celsius (value : ℤ) : Int32 :=
  Int32.ofInt value

/-- `bind_last_good` (main.cpp:484–520). -/
def bindLastGood (receipt : C2ClearanceReceipt) (peak : UInt64) (good : LastGood) :
    C2ClearanceReceipt :=
  let gpu := good.guards.gpu
  let host := good.guards.host
  let thermal := good.guards.thermal
  let receipt := { receipt with
    lastGoodStage := good.stage.text
    lastWddmAvailable := gpu.available
    lastHostAvailable := host.available
    lastThermalAvailable := thermal.available
    lastSampleMonotonicMilliseconds := gpu.capturedMonotonicMilliseconds
    lastSampleWddmLocalBudgetBytes := gpu.dxgiLocalBudgetBytes
    lastSampleWddmLocalUsageBytes := gpu.dxgiLocalCurrentUsageBytes
    lastHostSampleMonotonicMilliseconds := host.capturedMonotonicMilliseconds
    lastHostMemoryAvailableBytes := host.systemMemoryAvailableBytes
    lastHostCommitAvailableBytes := host.systemCommitAvailableBytes
    lastThermalSampleMonotonicMilliseconds := thermal.capturedMonotonicMilliseconds
    lastGpuTemperatureCelsius := celsius thermal.currentCelsius
    lastGpuSlowdownCelsius := celsius (thermal.reportedSlowdownCelsius.getD 0)
    lastGpuThermalThrottling := thermal.thermalThrottling
    lastGpuPowerBrakeSlowdown := thermal.powerBrakeSlowdown }
  match good.process with
  | some process =>
    { receipt with
      lastProcessWddmAvailable := process.available
      processWddmSource := process.source.text
      processWddmSampleMonotonicMilliseconds := process.capturedMonotonicMilliseconds
      processWddmCurrentBytes := process.currentBytes
      processWddmPeakBytes := peak }
  | none => { receipt with processWddmSource := "not-applicable-pre-context" }

/-! ## The trigger -/

/-- The values of `trigger_material` (main.cpp:538–571) that are always there. -/
def guardParts (stage : LastGoodStage) (guards : GuardSample) : List (String × String) :=
  let gpu := guards.gpu
  let host := guards.host
  let thermal := guards.thermal
  [("stage", stage.text),
    ("wddm_available", bit gpu.available),
    ("wddm_ms", toString gpu.capturedMonotonicMilliseconds.toNat),
    ("wddm_budget", toString gpu.dxgiLocalBudgetBytes.toNat),
    ("wddm_usage", toString gpu.dxgiLocalCurrentUsageBytes.toNat),
    ("host_available", bit host.available),
    ("host_ms", toString host.capturedMonotonicMilliseconds.toNat),
    ("host_memory", toString host.systemMemoryAvailableBytes.toNat),
    ("host_commit", toString host.systemCommitAvailableBytes.toNat),
    ("thermal_available", bit thermal.available),
    ("thermal_reason", gpuThermalUnavailableReasonName thermal.unavailableReason),
    ("thermal_ms", toString thermal.capturedMonotonicMilliseconds.toNat),
    ("temperature", toString (celsius thermal.currentCelsius).toInt),
    ("slowdown", toString (celsius (thermal.reportedSlowdownCelsius.getD 0)).toInt),
    ("thermal_throttling", bit thermal.thermalThrottling),
    ("power_brake", bit thermal.powerBrakeSlowdown)]

/-- Those of the last process sample. -/
def processParts : Option ProcessDeviceMemorySample → List (String × String)
  | some process =>
    [("process_available", bit process.available),
      ("process_source", process.source.text),
      ("process_ms", toString process.capturedMonotonicMilliseconds.toNat),
      ("process_current", toString process.currentBytes.toNat)]
  | none => []

/-- `trigger_material`. -/
def triggerMaterial (stage : LastGoodStage) (guards : GuardSample)
    (lastProcess : Option ProcessDeviceMemorySample) : String :=
  String.ofList (labelled "c2-trigger-v1" (guardParts stage guards ++ processParts lastProcess))

/-- The terminal trigger (main.cpp:572–585). -/
def terminalTrigger (caseName : ClearanceCase) (captured : LiveEvidenceCapture) : String :=
  match caseName, captured.watchdog, captured.post with
  | .watchdogCancel, some watchdog, _ =>
    triggerMaterial .watchdog (watchdogGuard watchdog) captured.process
  | .postContextTelemetryLoss, _, some post =>
    triggerMaterial .postContext (postGuard post) captured.process
  | .heartbeatLoss, _, _ => "c2-trigger-v1|stage=heartbeat-timeout|sample=missing"
  | _, _, _ => "c2-trigger-v1|stage=none"

/-! ## The receipt -/

def kWorkerTimeoutMilliseconds : UInt32 := 10000

def kCleanupWddmToleranceBytes : UInt64 := 16 * 1024 * 1024

namespace SupervisedRun

variable (run : SupervisedRun)

/-- `cleanup_wddm_positive_delta`. -/
def cleanupWddmPositiveDelta : UInt64 :=
  if run.finalWddm.localCurrentUsageBytes > run.preWddm.localCurrentUsageBytes then
    run.finalWddm.localCurrentUsageBytes - run.preWddm.localCurrentUsageBytes
  else 0

/-- `device_reconciled`. -/
def deviceReconciled : Bool :=
  run.result.workerExitObserved && run.result.jobTreeEmpty && run.finalWddm.available &&
    run.finalWddm.adapterLuidHigh == run.preWddm.adapterLuidHigh &&
    run.finalWddm.adapterLuidLow == run.preWddm.adapterLuidLow && run.finalHost.available &&
    run.finalThermal.available && run.cleanupWddmPositiveDelta ≤ kCleanupWddmToleranceBytes

/-- `output_removed`: there was nothing to remove, or it was removed. -/
def outputReconciled : Bool :=
  run.result.outputPath == "" || run.outputRemoved

/-- The receipt before the last good sample and the hashes (main.cpp:452–482, 586–614). -/
def draft : C2ClearanceReceipt :=
  { repository := "Gravelaw/prisminfer"
    reviewedSha := run.reviewedSha
    sourceTreeSha := run.sourceTreeSha
    workerSha256 := run.workerSha256
    workerApprovalIdentity := "c2-synthetic-worker-v1"
    workflowRunId := run.options.workflowRunId
    authorizationId := run.options.authorizationId
    gpuUuid := run.options.gpuUuid
    caseName := run.options.caseName.name
    status := if run.result.ok then "candidate-complete" else "rejected"
    failureReason := run.result.failureReason
    cleanupStatus := "pending"
    leaseId := makeLeaseId run.preWddm.adapterLuidHigh run.preWddm.adapterLuidLow
    jobIdentity := run.result.jobIdentity
    adapterLuidHigh := run.preWddm.adapterLuidHigh
    adapterLuidLow := run.preWddm.adapterLuidLow
    adapterIndex := run.options.adapterIndex
    workerTimeoutMilliseconds := kWorkerTimeoutMilliseconds
    postAdmissionPayloadBytes :=
      if run.result.lastHeartbeatEvidence.available then
        run.result.lastHeartbeatEvidence.postAdmissionPayloadBytes
      else 0
    contextCudaFreeBytes := run.result.contextEvidence.cudaMemInfoFreeBytes
    contextCudaTotalBytes := run.result.contextEvidence.cudaMemInfoTotalBytes
    lastHeartbeatCudaFreeBytes := run.result.lastHeartbeatEvidence.cudaMemInfoFreeBytes
    lastHeartbeatCudaTotalBytes := run.result.lastHeartbeatEvidence.cudaMemInfoTotalBytes
    terminalTriggerCanonical := terminalTrigger run.options.caseName run.captured
    preWddmLocalUsageBytes := run.preWddm.localCurrentUsageBytes
    finalWddmLocalUsageBytes := run.finalWddm.localCurrentUsageBytes
    cleanupWddmPositiveDeltaBytes := run.cleanupWddmPositiveDelta
    cleanupWddmToleranceBytes := kCleanupWddmToleranceBytes
    preHostMemoryAvailableBytes := run.pre.host.systemMemoryAvailableBytes
    finalHostMemoryAvailableBytes := run.finalHost.systemMemoryAvailableBytes
    preHostCommitAvailableBytes := run.pre.host.systemCommitAvailableBytes
    finalHostCommitAvailableBytes := run.finalHost.systemCommitAvailableBytes
    preGpuTemperatureCelsius := celsius run.pre.thermal.currentCelsius
    finalGpuTemperatureCelsius := celsius run.finalThermal.currentCelsius
    rootProcessId := run.result.rootProcessId
    heartbeatCount := run.result.heartbeatSequence.toUInt32
    contextReadyObserved := run.result.contextEvidence.available
    tokenConsumedObserved := run.result.tokenConsumedObserved
    workerExitObserved := run.result.workerExitObserved
    jobTreeEmpty := run.result.jobTreeEmpty
    jobAccountingReconciled := run.result.jobAccountingReconciled
    deviceResourcesReconciled := run.deviceReconciled
    artifactHandlesClosed := run.result.artifactHandlesClosed
    temporaryFilesReconciled := run.result.temporaryFilesReconciled && run.outputReconciled }

/-- The receipt that is hashed first. -/
def bound (run : SupervisedRun) : C2ClearanceReceipt :=
  bindLastGood run.draft run.captured.processPeakBytes
    (selectLastGood run.options.caseName run.pre run.captured)

/-- The receipt that is written, or the exit code of a hash that failed
(main.cpp:615–643). -/
def receipt (sha256 : List Char → Option String) (run : SupervisedRun) :
    Except ℕ C2ClearanceReceipt :=
  match computeC2ClearanceEvidenceHashes sha256 run.bound with
  | .error _ => .error 9
  | .ok hashed =>
    match computeC2ClearanceEvidenceHashes sha256 { hashed with
      preCleanupEvidenceSha256 := hashed.evidenceBundleSha256
      cleanupStatus := if run.cleanup = .cleaned then "cleaned" else "quarantined" } with
    | .error _ => .error 10
    | .ok receipt => .ok receipt

end SupervisedRun

/-! ## Writing it -/

/-- `write_c2_clearance_receipt`: the content of the new file. The candidate is validated
before it gets its name. -/
def writeC2ClearanceReceipt (sha256 : List Char → Option String) (r : C2ClearanceReceipt) :
    Except String (List Char) :=
  let serialized := serializeC2ClearanceReceipt r
  if kC2ReceiptMaximumBytes < serialized.length then .error "atomic_file_input_rejected"
  else
    match validateC2ClearanceReceiptFile sha256 serialized with
    | .error error => .error error
    | .ok () => .ok serialized

/-- `c2_case_result_matches_contract` (c2_case_policy.cpp:5–32). -/
def c2CaseResultMatchesContract (caseName : ClearanceCase) (result : NativeWorkerResult)
    (cleanup : GpuAdmissionSessionState) (outputRemoved : Bool) : Bool :=
  if !outputRemoved || !result.artifactHandlesClosed || !result.temporaryFilesReconciled ||
      !result.jobAccountingReconciled then false
  else
  let names (word : String) : Bool := decide (word.toList <:+: result.failureReason.toList)
  match caseName with
  | .success => result.ok && cleanup == .cleaned
  | .watchdogCancel => !result.ok && names "watchdog_rejected" && cleanup == .cleaned
  | .heartbeatLoss => !result.ok && names "heartbeat_timeout" && cleanup == .cleaned
  | .postContextTelemetryLoss =>
    !result.ok && names "admission_rejected" && cleanup == .quarantined

/-- How the supervisor ends: its exit code and the receipt it published. -/
structure SupervisorExit where
  code : ℕ
  published : Option (List Char) := none

/-- `main` from the return of the worker on. -/
def SupervisedRun.finish (sha256 : List Char → Option String) (run : SupervisedRun) :
    SupervisorExit :=
  match run.receipt sha256 with
  | .error code => { code := code }
  | .ok receipt =>
    match writeC2ClearanceReceipt sha256 receipt with
    | .error _ => { code := 11 }
    | .ok content =>
      let result := { run.result with
        temporaryFilesReconciled :=
          run.result.temporaryFilesReconciled && run.outputReconciled }
      if c2CaseResultMatchesContract run.options.caseName result run.cleanup
          run.outputReconciled then
        { code := 0, published := some content }
      else { code := 12, published := some content }

end PrismInfer.Validation
