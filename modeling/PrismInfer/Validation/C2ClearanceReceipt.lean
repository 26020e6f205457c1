import PrismInfer.Benchmark.Sha256
import PrismInfer.Validation.FlatJson

/-!
# The clearance receipt

`C2ClearanceReceipt` with its printer, its validator and the two texts its evidence
hashes are taken over (src/validation/c2_clearance_receipt.cpp). The functions are given the
hash, which answers a digest or fails; that of the repository is `sha256Text`. A file is its
content.

The printer writes one field a line, in one of four ways (`Printed`): some strings are
escaped, the others are written as they are. The validator reads the fields back
(`readReceipt`) and checks them in three steps: what the receipt is and whom it names
(`IdentityValid`), its bounds (`BoundsValid`) and its hashes (`hashesMatch`).
-/

namespace PrismInfer.Validation

open PrismInfer.Lib

/-! ## Data -/

def kC2ReceiptMaximumBytes : ℕ := 32 * 1024

def kC2MaximumPayloadBytes : UInt64 := 64 * 1024 * 1024

/-- `C2ClearanceReceipt`. -/
structure C2ClearanceReceipt where
  (repository reviewedSha sourceTreeSha workerSha256 workerApprovalIdentity workflowRunId
    authorizationId gpuUuid caseName status failureReason cleanupStatus leaseId jobIdentity
    processWddmSource lastGoodStage terminalTriggerCanonical terminalTriggerSha256
    lastGoodSampleSha256 preCleanupEvidenceSha256 evidenceBundleSha256 : String := "")
  adapterLuidHigh : Int32 := 0
  (adapterLuidLow adapterIndex workerTimeoutMilliseconds : UInt32 := 0)
  postAdmissionPayloadBytes : UInt64 := 0
  maximumPayloadBytes : UInt64 := kC2MaximumPayloadBytes
  (contextCudaFreeBytes contextCudaTotalBytes lastHeartbeatCudaFreeBytes lastHeartbeatCudaTotalBytes
    preWddmLocalUsageBytes finalWddmLocalUsageBytes cleanupWddmPositiveDeltaBytes : UInt64 := 0)
  cleanupWddmToleranceBytes : UInt64 := 16 * 1024 * 1024
  (lastSampleMonotonicMilliseconds lastSampleWddmLocalBudgetBytes lastSampleWddmLocalUsageBytes
    processWddmSampleMonotonicMilliseconds processWddmCurrentBytes processWddmPeakBytes
    lastHostSampleMonotonicMilliseconds lastHostMemoryAvailableBytes lastHostCommitAvailableBytes
    lastThermalSampleMonotonicMilliseconds : UInt64 := 0)
  lastGpuTemperatureCelsius : Int32 := 0
  lastGpuSlowdownCelsius : Int32 := 0
  (preHostMemoryAvailableBytes finalHostMemoryAvailableBytes preHostCommitAvailableBytes
    finalHostCommitAvailableBytes : UInt64 := 0)
  preGpuTemperatureCelsius : Int32 := 0
  finalGpuTemperatureCelsius : Int32 := 0
  rootProcessId : UInt32 := 0
  heartbeatCount : UInt32 := 0
  (contextReadyObserved tokenConsumedObserved workerExitObserved jobTreeEmpty
    jobAccountingReconciled deviceResourcesReconciled artifactHandlesClosed temporaryFilesReconciled
    lastGpuThermalThrottling lastGpuPowerBrakeSlowdown lastWddmAvailable lastProcessWddmAvailable
    lastHostAvailable lastThermalAvailable : Bool := false)

/-! ## Checks of texts -/

def isLowerHexDigit (c : Char) : Bool :=
  ('0' ≤ c && c ≤ '9') || ('a' ≤ c && c ≤ 'f')

/-- `lower_hex`. -/
def lowerHex (value : String) (length : ℕ) : Bool :=
  value.toList.length == length && value.toList.all isLowerHexDigit

/-- `bounded_text`. -/
def boundedText (value : String) (maximum : ℕ) (allowEmpty : Bool := false) : Bool :=
  (allowEmpty || !value.toList.isEmpty) && value.toList.length ≤ maximum &&
    value.toList.all fun c => !(c < ' ')

def isIdentifierChar (c : Char) : Bool :=
  ('A' ≤ c && c ≤ 'Z') || ('a' ≤ c && c ≤ 'z') || ('0' ≤ c && c ≤ '9') || c == '_' ||
    c == '.' || c == ':' || c == '-'

/-- `authorization_identifier`. -/
def authorizationIdentifier (value : String) : Bool :=
  !value.toList.isEmpty && value.toList.length ≤ 128 && value.toList.all isIdentifierChar

/-- `canonical_gpu_uuid`: the loop over the positions from 4 on. -/
def canonicalGpuUuid (value : String) : Bool :=
  value.toList.length == 40 && ['G', 'P', 'U', '-'].isPrefixOf value.toList &&
    (value.toList.zipIdx.drop 4).all fun c =>
      if c.2 == 12 || c.2 == 17 || c.2 == 22 || c.2 == 27 then c.1 == '-'
      else isLowerHexDigit c.1

/-! ## Printing -/

/-- How a field is printed. -/
inductive Printed
  | raw (text : String)
  | escaped (text : String)
  | number (value : ℤ)
  | boolean (value : Bool)

def escapedChar : Char → List Char
  | '\\' => ['\\', '\\']
  | '"' => ['\\', '"']
  | '\n' => ['\\', 'n']
  | '\r' => ['\\', 'r']
  | '\t' => ['\\', 't']
  | c => [c]

/-- `escaped`. -/
def escaped (value : List Char) : List Char :=
  value.flatMap escapedChar

def booleanText (value : Bool) : String :=
  if value then "true" else "false"

namespace Printed

def render : Printed → List Char
  | .raw text => '"' :: (text.toList ++ ['"'])
  | .escaped text => '"' :: (Validation.escaped text.toList ++ ['"'])
  | .number value => (toString value).toList
  | .boolean value => (booleanText value).toList

/-- The value that stands for the field. -/
def value : Printed → FlatJsonValue
  | .raw text => ⟨text, .string⟩
  | .escaped text => ⟨text, .string⟩
  | .number value => ⟨toString value, .number⟩
  | .boolean value => ⟨booleanText value, .boolean⟩

end Printed

variable (r : C2ClearanceReceipt)

/-- The lines of a receipt (c2_clearance_receipt.cpp:199–332). -/
def receiptLines : List (String × Printed) :=
  [("schema_version", .raw "prisminfer-c2-clearance-receipt-v1"),
    ("receipt_class", .raw "c2-clearance-candidate"),
    ("repository", .escaped r.repository),
    ("reviewed_sha", .raw r.reviewedSha),
    ("source_tree_sha", .raw r.sourceTreeSha),
    ("worker_sha256", .raw r.workerSha256),
    ("worker_approval_identity", .escaped r.workerApprovalIdentity),
    ("workflow_run_id", .escaped r.workflowRunId),
    ("authorization_id", .escaped r.authorizationId),
    ("gpu_uuid", .raw r.gpuUuid),
    ("case_name", .escaped r.caseName),
    ("status", .escaped r.status),
    ("failure_reason", .escaped r.failureReason),
    ("cleanup_status", .escaped r.cleanupStatus),
    ("review_status", .raw "pending-independent-review"),
    ("claim_scope", .raw "synthetic-c2-candidate-non-promotable"),
    ("promotable", .boolean false),
    ("c2_credit", .boolean false),
    ("lease_id", .escaped r.leaseId),
    ("job_identity", .escaped r.jobIdentity),
    ("process_wddm_source", .escaped r.processWddmSource),
    ("last_good_stage", .raw r.lastGoodStage),
    ("terminal_trigger_canonical", .escaped r.terminalTriggerCanonical),
    ("terminal_trigger_sha256", .raw r.terminalTriggerSha256),
    ("last_good_sample_sha256", .raw r.lastGoodSampleSha256),
    ("pre_cleanup_evidence_sha256", .raw r.preCleanupEvidenceSha256),
    ("evidence_bundle_sha256", .raw r.evidenceBundleSha256),
    ("adapter_luid_high", .number r.adapterLuidHigh.toInt),
    ("adapter_luid_low", .number r.adapterLuidLow.toNat),
    ("adapter_index", .number r.adapterIndex.toNat),
    ("worker_timeout_milliseconds", .number r.workerTimeoutMilliseconds.toNat),
    ("post_admission_payload_bytes", .number r.postAdmissionPayloadBytes.toNat),
    ("maximum_payload_bytes", .number r.maximumPayloadBytes.toNat),
    ("context_cuda_free_bytes", .number r.contextCudaFreeBytes.toNat),
    ("context_cuda_total_bytes", .number r.contextCudaTotalBytes.toNat),
    ("last_heartbeat_cuda_free_bytes", .number r.lastHeartbeatCudaFreeBytes.toNat),
    ("last_heartbeat_cuda_total_bytes", .number r.lastHeartbeatCudaTotalBytes.toNat),
    ("pre_wddm_local_usage_bytes", .number r.preWddmLocalUsageBytes.toNat),
    ("final_wddm_local_usage_bytes", .number r.finalWddmLocalUsageBytes.toNat),
    ("cleanup_wddm_positive_delta_bytes", .number r.cleanupWddmPositiveDeltaBytes.toNat),
    ("cleanup_wddm_tolerance_bytes", .number r.cleanupWddmToleranceBytes.toNat),
    ("last_sample_monotonic_milliseconds", .number r.lastSampleMonotonicMilliseconds.toNat),
    ("last_sample_wddm_local_budget_bytes", .number r.lastSampleWddmLocalBudgetBytes.toNat),
    ("last_sample_wddm_local_usage_bytes", .number r.lastSampleWddmLocalUsageBytes.toNat),
    ("process_wddm_sample_monotonic_milliseconds",
      .number r.processWddmSampleMonotonicMilliseconds.toNat),
    ("process_wddm_current_bytes", .number r.processWddmCurrentBytes.toNat),
    ("process_wddm_peak_bytes", .number r.processWddmPeakBytes.toNat),
    ("last_host_sample_monotonic_milliseconds",
      .number r.lastHostSampleMonotonicMilliseconds.toNat),
    ("last_host_memory_available_bytes", .number r.lastHostMemoryAvailableBytes.toNat),
    ("last_host_commit_available_bytes", .number r.lastHostCommitAvailableBytes.toNat),
    ("last_thermal_sample_monotonic_milliseconds",
      .number r.lastThermalSampleMonotonicMilliseconds.toNat),
    ("last_gpu_temperature_celsius", .number r.lastGpuTemperatureCelsius.toInt),
    ("last_gpu_slowdown_celsius", .number r.lastGpuSlowdownCelsius.toInt),
    ("pre_host_memory_available_bytes", .number r.preHostMemoryAvailableBytes.toNat),
    ("final_host_memory_available_bytes", .number r.finalHostMemoryAvailableBytes.toNat),
    ("pre_host_commit_available_bytes", .number r.preHostCommitAvailableBytes.toNat),
    ("final_host_commit_available_bytes", .number r.finalHostCommitAvailableBytes.toNat),
    ("pre_gpu_temperature_celsius", .number r.preGpuTemperatureCelsius.toInt),
    ("final_gpu_temperature_celsius", .number r.finalGpuTemperatureCelsius.toInt),
    ("root_process_id", .number r.rootProcessId.toNat),
    ("heartbeat_count", .number r.heartbeatCount.toNat),
    ("context_ready_observed", .boolean r.contextReadyObserved),
    ("token_consumed_observed", .boolean r.tokenConsumedObserved),
    ("worker_exit_observed", .boolean r.workerExitObserved),
    ("job_tree_empty", .boolean r.jobTreeEmpty),
    ("job_accounting_reconciled", .boolean r.jobAccountingReconciled),
    ("device_resources_reconciled", .boolean r.deviceResourcesReconciled),
    ("artifact_handles_closed", .boolean r.artifactHandlesClosed),
    ("temporary_files_reconciled", .boolean r.temporaryFilesReconciled),
    ("last_gpu_thermal_throttling", .boolean r.lastGpuThermalThrottling),
    ("last_gpu_power_brake_slowdown", .boolean r.lastGpuPowerBrakeSlowdown),
    ("last_wddm_available", .boolean r.lastWddmAvailable),
    ("last_process_wddm_available", .boolean r.lastProcessWddmAvailable),
    ("last_host_available", .boolean r.lastHostAvailable),
    ("last_thermal_available", .boolean r.lastThermalAvailable)]

/-- The fields of a receipt, under their keys. -/
def receiptFields : FlatJsonFields :=
  (receiptLines r).map fun line => (line.1, line.2.value)

/-- A line without its comma. -/
def printLine (line : String × Printed) : List Char :=
  ' ' :: ' ' :: '"' :: (line.1.toList ++ '"' :: ':' :: line.2.render)

/-- The lines, with a comma after each but the last. -/
def printLines : List (String × Printed) → List Char
  | [] => []
  | [line] => printLine line ++ ['\n']
  | line :: lines => printLine line ++ ',' :: '\n' :: printLines lines

/-- `serialize_c2_clearance_receipt`. -/
def serializeC2ClearanceReceipt : List Char :=
  '\x7b' :: '\n' :: (printLines (receiptLines r) ++ ['\x7d', '\n'])

/-! ## The evidence hashes -/

/-- A value behind its label. -/
def labelledPart (part : String × String) : List Char :=
  '|' :: (part.1.toList ++ '=' :: part.2.toList)

/-- A text of labelled values. -/
def labelled (start : String) (parts : List (String × String)) : List Char :=
  start.toList ++ parts.flatMap labelledPart

/-- How an output stream writes a Boolean. -/
def bit (value : Bool) : String :=
  if value then "1" else "0"

/-- The values in the text of the last good sample (c2_clearance_receipt.cpp:135–161). -/
def lastGoodParts : List (String × String) :=
  [("case", r.caseName),
    ("stage", r.lastGoodStage),
    ("pid", toString r.rootProcessId.toNat),
    ("luid_high", toString r.adapterLuidHigh.toInt),
    ("luid_low", toString r.adapterLuidLow.toNat),
    ("sample_ms", toString r.lastSampleMonotonicMilliseconds.toNat),
    ("wddm_budget", toString r.lastSampleWddmLocalBudgetBytes.toNat),
    ("wddm_usage", toString r.lastSampleWddmLocalUsageBytes.toNat),
    ("process_source", r.processWddmSource),
    ("process_ms", toString r.processWddmSampleMonotonicMilliseconds.toNat),
    ("process_current", toString r.processWddmCurrentBytes.toNat),
    ("process_peak", toString r.processWddmPeakBytes.toNat),
    ("host_ms", toString r.lastHostSampleMonotonicMilliseconds.toNat),
    ("host_memory_available", toString r.lastHostMemoryAvailableBytes.toNat),
    ("host_commit_available", toString r.lastHostCommitAvailableBytes.toNat),
    ("thermal_ms", toString r.lastThermalSampleMonotonicMilliseconds.toNat),
    ("temperature", toString r.lastGpuTemperatureCelsius.toInt),
    ("slowdown", toString r.lastGpuSlowdownCelsius.toInt),
    ("thermal_throttling", bit r.lastGpuThermalThrottling),
    ("power_brake", bit r.lastGpuPowerBrakeSlowdown),
    ("wddm_available", bit r.lastWddmAvailable),
    ("process_available", bit r.lastProcessWddmAvailable),
    ("host_available", bit r.lastHostAvailable),
    ("thermal_available", bit r.lastThermalAvailable),
    ("heartbeat", toString r.heartbeatCount.toNat)]

def lastGoodText : List Char :=
  labelled "c2-last-good-v1" (lastGoodParts r)

/-- The values in the text of the terminal evidence (c2_clearance_receipt.cpp:172–189). -/
def terminalParts : List (String × String) :=
  [("last_good", r.lastGoodSampleSha256),
    ("status", r.status),
    ("failure", r.failureReason),
    ("cleanup", r.cleanupStatus),
    ("pre_cleanup", r.preCleanupEvidenceSha256),
    ("terminal_trigger", r.terminalTriggerSha256),
    ("worker_exit", bit r.workerExitObserved),
    ("job_tree_empty", bit r.jobTreeEmpty),
    ("job_accounting", bit r.jobAccountingReconciled),
    ("device_reconciled", bit r.deviceResourcesReconciled),
    ("handles_closed", bit r.artifactHandlesClosed),
    ("temp_reconciled", bit r.temporaryFilesReconciled),
    ("pre_wddm", toString r.preWddmLocalUsageBytes.toNat),
    ("final_wddm", toString r.finalWddmLocalUsageBytes.toNat),
    ("cleanup_delta", toString r.cleanupWddmPositiveDeltaBytes.toNat),
    ("cleanup_tolerance", toString r.cleanupWddmToleranceBytes.toNat)]

def terminalText : List Char :=
  labelled "c2-terminal-v1" (terminalParts r)

/-- `sha256_text`, with the characters of a text for its bytes. -/
def sha256Text (text : List Char) : Option String :=
  (Benchmark.sha256Text (Benchmark.textBytes text)).map String.ofList

/-- `compute_c2_clearance_evidence_hashes`. -/
def computeC2ClearanceEvidenceHashes (sha256 : List Char → Option String)
    (r : C2ClearanceReceipt) : Except String C2ClearanceReceipt :=
  match sha256 (lastGoodText r) with
  | none => .error "c2_last_good_hash_failed"
  | some lastGood =>
    match sha256 r.terminalTriggerCanonical.toList with
    | none => .error "c2_terminal_trigger_hash_failed"
    | some trigger =>
      let r := { r with lastGoodSampleSha256 := lastGood, terminalTriggerSha256 := trigger }
      match sha256 (terminalText r) with
      | none => .error "c2_terminal_hash_failed"
      | some bundle => .ok { r with evidenceBundleSha256 := bundle }

/-! ## Reading a receipt back -/

variable (json : FlatJsonFields)

/-- `require_string`. -/
def requireString (key : String) : Option String :=
  match json.lookup key with
  | some ⟨text, .string⟩ => some text
  | _ => none

/-- `require_bool_value`. -/
def requireBoolValue (key : String) : Option Bool :=
  match json.lookup key with
  | some ⟨text, .boolean⟩ => some (text == "true")
  | _ => none

/-- `require_bool`. -/
def requireBool (key : String) (expected : Bool) : Bool :=
  json.lookup key == some ⟨booleanText expected, .boolean⟩

/-- `parse_integer` to an unsigned type: `std::from_chars` takes digits only. -/
def parseUnsigned (bits : ℕ) (value : FlatJsonValue) : Option ℕ :=
  if value.kind = .number ∧ IsNumeral value.text.toList ∧
      digitsValue value.text.toList < 2 ^ bits then
    some (digitsValue value.text.toList)
  else none

/-- `parse_integer` to a signed type: digits with an optional minus sign. -/
def parseSigned (bits : ℕ) (value : FlatJsonValue) : Option ℤ :=
  if value.kind = .number ∧ value.text.toList.head? ≠ some '+' ∧
      IsSignedNumeral value.text.toList ∧ -2 ^ (bits - 1) ≤ signedValue value.text.toList ∧
      signedValue value.text.toList < 2 ^ (bits - 1) then
    some (signedValue value.text.toList)
  else none

/-- `require_integer`, for each of its types. -/
def requireUInt32 (key : String) : Option UInt32 :=
  ((json.lookup key).bind (parseUnsigned 32)).map UInt32.ofNat

def requireUInt64 (key : String) : Option UInt64 :=
  ((json.lookup key).bind (parseUnsigned 64)).map UInt64.ofNat

def requireInt32 (key : String) : Option Int32 :=
  ((json.lookup key).bind (parseSigned 32)).map Int32.ofInt

/-- The receipt in the fields. The validator has a variable for each of those that it
checks or hashes; a field that is missing has its default. -/
def readReceipt : C2ClearanceReceipt :=
  { repository := (requireString json "repository").getD ""
    reviewedSha := (requireString json "reviewed_sha").getD ""
    sourceTreeSha := (requireString json "source_tree_sha").getD ""
    workerSha256 := (requireString json "worker_sha256").getD ""
    workerApprovalIdentity := (requireString json "worker_approval_identity").getD ""
    workflowRunId := (requireString json "workflow_run_id").getD ""
    authorizationId := (requireString json "authorization_id").getD ""
    gpuUuid := (requireString json "gpu_uuid").getD ""
    caseName := (requireString json "case_name").getD ""
    status := (requireString json "status").getD ""
    failureReason := (requireString json "failure_reason").getD ""
    cleanupStatus := (requireString json "cleanup_status").getD ""
    leaseId := (requireString json "lease_id").getD ""
    jobIdentity := (requireString json "job_identity").getD ""
    processWddmSource := (requireString json "process_wddm_source").getD ""
    lastGoodStage := (requireString json "last_good_stage").getD ""
    terminalTriggerCanonical := (requireString json "terminal_trigger_canonical").getD ""
    terminalTriggerSha256 := (requireString json "terminal_trigger_sha256").getD ""
    lastGoodSampleSha256 := (requireString json "last_good_sample_sha256").getD ""
    preCleanupEvidenceSha256 := (requireString json "pre_cleanup_evidence_sha256").getD ""
    evidenceBundleSha256 := (requireString json "evidence_bundle_sha256").getD ""
    adapterLuidHigh := (requireInt32 json "adapter_luid_high").getD 0
    adapterLuidLow := (requireUInt32 json "adapter_luid_low").getD 0
    adapterIndex := (requireUInt32 json "adapter_index").getD 0
    workerTimeoutMilliseconds := (requireUInt32 json "worker_timeout_milliseconds").getD 0
    postAdmissionPayloadBytes := (requireUInt64 json "post_admission_payload_bytes").getD 0
    maximumPayloadBytes := (requireUInt64 json "maximum_payload_bytes").getD 0
    contextCudaFreeBytes := (requireUInt64 json "context_cuda_free_bytes").getD 0
    contextCudaTotalBytes := (requireUInt64 json "context_cuda_total_bytes").getD 0
    lastHeartbeatCudaFreeBytes := (requireUInt64 json "last_heartbeat_cuda_free_bytes").getD 0
    lastHeartbeatCudaTotalBytes := (requireUInt64 json "last_heartbeat_cuda_total_bytes").getD 0
    preWddmLocalUsageBytes := (requireUInt64 json "pre_wddm_local_usage_bytes").getD 0
    finalWddmLocalUsageBytes := (requireUInt64 json "final_wddm_local_usage_bytes").getD 0
    cleanupWddmPositiveDeltaBytes := (requireUInt64 json "cleanup_wddm_positive_delta_bytes").getD 0
    cleanupWddmToleranceBytes := (requireUInt64 json "cleanup_wddm_tolerance_bytes").getD 0
    lastSampleMonotonicMilliseconds :=
      (requireUInt64 json "last_sample_monotonic_milliseconds").getD 0
    lastSampleWddmLocalBudgetBytes :=
      (requireUInt64 json "last_sample_wddm_local_budget_bytes").getD 0
    lastSampleWddmLocalUsageBytes :=
      (requireUInt64 json "last_sample_wddm_local_usage_bytes").getD 0
    processWddmSampleMonotonicMilliseconds :=
      (requireUInt64 json "process_wddm_sample_monotonic_milliseconds").getD 0
    processWddmCurrentBytes := (requireUInt64 json "process_wddm_current_bytes").getD 0
    processWddmPeakBytes := (requireUInt64 json "process_wddm_peak_bytes").getD 0
    lastHostSampleMonotonicMilliseconds :=
      (requireUInt64 json "last_host_sample_monotonic_milliseconds").getD 0
    lastHostMemoryAvailableBytes := (requireUInt64 json "last_host_memory_available_bytes").getD 0
    lastHostCommitAvailableBytes := (requireUInt64 json "last_host_commit_available_bytes").getD 0
    lastThermalSampleMonotonicMilliseconds :=
      (requireUInt64 json "last_thermal_sample_monotonic_milliseconds").getD 0
    lastGpuTemperatureCelsius := (requireInt32 json "last_gpu_temperature_celsius").getD 0
    lastGpuSlowdownCelsius := (requireInt32 json "last_gpu_slowdown_celsius").getD 0
    preHostMemoryAvailableBytes := (requireUInt64 json "pre_host_memory_available_bytes").getD 0
    finalHostMemoryAvailableBytes := (requireUInt64 json "final_host_memory_available_bytes").getD 0
    preHostCommitAvailableBytes := (requireUInt64 json "pre_host_commit_available_bytes").getD 0
    finalHostCommitAvailableBytes := (requireUInt64 json "final_host_commit_available_bytes").getD 0
    preGpuTemperatureCelsius := (requireInt32 json "pre_gpu_temperature_celsius").getD 0
    finalGpuTemperatureCelsius := (requireInt32 json "final_gpu_temperature_celsius").getD 0
    rootProcessId := (requireUInt32 json "root_process_id").getD 0
    heartbeatCount := (requireUInt32 json "heartbeat_count").getD 0
    contextReadyObserved := (requireBoolValue json "context_ready_observed").getD false
    tokenConsumedObserved := (requireBoolValue json "token_consumed_observed").getD false
    workerExitObserved := (requireBoolValue json "worker_exit_observed").getD false
    jobTreeEmpty := (requireBoolValue json "job_tree_empty").getD false
    jobAccountingReconciled := (requireBoolValue json "job_accounting_reconciled").getD false
    deviceResourcesReconciled := (requireBoolValue json "device_resources_reconciled").getD false
    artifactHandlesClosed := (requireBoolValue json "artifact_handles_closed").getD false
    temporaryFilesReconciled := (requireBoolValue json "temporary_files_reconciled").getD false
    lastGpuThermalThrottling := (requireBoolValue json "last_gpu_thermal_throttling").getD false
    lastGpuPowerBrakeSlowdown := (requireBoolValue json "last_gpu_power_brake_slowdown").getD false
    lastWddmAvailable := (requireBoolValue json "last_wddm_available").getD false
    lastProcessWddmAvailable := (requireBoolValue json "last_process_wddm_available").getD false
    lastHostAvailable := (requireBoolValue json "last_host_available").getD false
    lastThermalAvailable := (requireBoolValue json "last_thermal_available").getD false }

/-! ## The validator -/

/-- `required`. -/
def requiredFields : List String :=
  ["schema_version", "receipt_class", "repository", "reviewed_sha", "source_tree_sha",
    "worker_sha256", "worker_approval_identity", "workflow_run_id", "authorization_id",
    "gpu_uuid", "case_name", "status", "failure_reason", "cleanup_status", "review_status",
    "claim_scope", "promotable", "c2_credit", "lease_id", "job_identity", "process_wddm_source",
    "last_good_stage", "terminal_trigger_canonical", "terminal_trigger_sha256",
    "last_good_sample_sha256", "pre_cleanup_evidence_sha256", "evidence_bundle_sha256",
    "adapter_luid_high", "adapter_luid_low", "adapter_index", "worker_timeout_milliseconds",
    "post_admission_payload_bytes", "maximum_payload_bytes", "context_cuda_free_bytes",
    "context_cuda_total_bytes", "last_heartbeat_cuda_free_bytes",
    "last_heartbeat_cuda_total_bytes", "pre_wddm_local_usage_bytes",
    "final_wddm_local_usage_bytes", "cleanup_wddm_positive_delta_bytes",
    "cleanup_wddm_tolerance_bytes", "pre_host_memory_available_bytes",
    "last_sample_monotonic_milliseconds", "last_sample_wddm_local_budget_bytes",
    "last_sample_wddm_local_usage_bytes", "process_wddm_sample_monotonic_milliseconds",
    "process_wddm_current_bytes", "process_wddm_peak_bytes",
    "last_host_sample_monotonic_milliseconds", "last_host_memory_available_bytes",
    "last_host_commit_available_bytes", "last_thermal_sample_monotonic_milliseconds",
    "last_gpu_temperature_celsius", "last_gpu_slowdown_celsius",
    "final_host_memory_available_bytes", "pre_host_commit_available_bytes",
    "final_host_commit_available_bytes", "pre_gpu_temperature_celsius",
    "final_gpu_temperature_celsius", "root_process_id", "heartbeat_count",
    "context_ready_observed", "token_consumed_observed", "worker_exit_observed",
    "job_tree_empty", "job_accounting_reconciled", "device_resources_reconciled",
    "artifact_handles_closed", "temporary_files_reconciled", "last_gpu_thermal_throttling",
    "last_gpu_power_brake_slowdown", "last_wddm_available", "last_process_wddm_available",
    "last_host_available", "last_thermal_available"]

/-- The fields of the receipt, in the order of the map: the first that is not required. -/
def unknownField : Option String :=
  ((json.map Prod.fst).mergeSort fun a b => decide (a ≤ b)).find?
    fun key => !requiredFields.contains key

/-- `strings_ok`. -/
def stringsPresent : Bool :=
  ["schema_version", "receipt_class", "repository", "reviewed_sha", "source_tree_sha",
    "worker_sha256", "worker_approval_identity", "workflow_run_id", "authorization_id",
    "gpu_uuid", "case_name", "status", "failure_reason", "cleanup_status", "review_status",
    "claim_scope", "lease_id", "job_identity", "process_wddm_source", "last_good_stage",
    "terminal_trigger_canonical", "terminal_trigger_sha256", "last_good_sample_sha256",
    "pre_cleanup_evidence_sha256", "evidence_bundle_sha256"].all
    fun key => (requireString json key).isSome

/-- The fixed fields (c2_clearance_receipt.cpp:441–444, 462–465). -/
def classified : Bool :=
  requireString json "schema_version" == some "prisminfer-c2-clearance-receipt-v1" &&
    requireString json "receipt_class" == some "c2-clearance-candidate" &&
    requireString json "review_status" == some "pending-independent-review" &&
    requireString json "claim_scope" == some "synthetic-c2-candidate-non-promotable" &&
    requireBool json "promotable" false && requireBool json "c2_credit" false &&
    (requireBoolValue json "last_gpu_thermal_throttling").isSome &&
    (requireBoolValue json "last_gpu_power_brake_slowdown").isSome

/-- The other checks of c2_clearance_receipt.cpp:441–465. -/
@[mk_iff]
structure IdentityValid (r : C2ClearanceReceipt) : Prop where
  repository : boundedText r.repository 128 = true
  reviewedSha : lowerHex r.reviewedSha 40 = true
  sourceTreeSha : lowerHex r.sourceTreeSha 40 = true
  workerSha256 : lowerHex r.workerSha256 64 = true
  workerApprovalIdentity : boundedText r.workerApprovalIdentity 128 = true
  workflowRunId : boundedText r.workflowRunId 128 = true
  authorizationId : authorizationIdentifier r.authorizationId = true
  gpuUuid : canonicalGpuUuid r.gpuUuid = true
  caseName : boundedText r.caseName 64 = true
  status : r.status ∈ ["candidate-complete", "rejected", "aborted"]
  failureReason : boundedText r.failureReason 256 true = true
  cleanupStatus : r.cleanupStatus ∈ ["cleaned", "quarantined"]
  leaseId : boundedText r.leaseId 128 = true
  jobIdentity : boundedText r.jobIdentity 256 = true
  processWddmSource : boundedText r.processWddmSource 64 = true
  lastGoodSampleSha256 : lowerHex r.lastGoodSampleSha256 64 = true
  lastGoodStage : r.lastGoodStage ∈ ["pre-context", "post-context", "watchdog"]
  terminalTriggerCanonical : boundedText r.terminalTriggerCanonical 2048 = true
  terminalTriggerSha256 : lowerHex r.terminalTriggerSha256 64 = true
  preCleanupEvidenceSha256 : lowerHex r.preCleanupEvidenceSha256 64 = true
  evidenceBundleSha256 : lowerHex r.evidenceBundleSha256 64 = true

instance (r : C2ClearanceReceipt) : Decidable (IdentityValid r) :=
  decidable_of_iff' _ (identityValid_iff r)

/-- The integers that the bounds are about. -/
def boundsPresent : Bool :=
  (requireUInt64 json "post_admission_payload_bytes").isSome &&
    (requireUInt64 json "maximum_payload_bytes").isSome &&
    (requireUInt32 json "worker_timeout_milliseconds").isSome &&
    (requireUInt64 json "cleanup_wddm_positive_delta_bytes").isSome &&
    (requireUInt64 json "cleanup_wddm_tolerance_bytes").isSome

/-- The bounds (c2_clearance_receipt.cpp:490–492). -/
@[mk_iff]
structure BoundsValid (r : C2ClearanceReceipt) : Prop where
  maximum : r.maximumPayloadBytes = kC2MaximumPayloadBytes
  payload : r.postAdmissionPayloadBytes ≤ r.maximumPayloadBytes
  tolerance : r.cleanupWddmToleranceBytes = 16 * 1024 * 1024
  delta : r.cleanupWddmPositiveDeltaBytes ≤ r.cleanupWddmToleranceBytes
  timeout_pos : r.workerTimeoutMilliseconds ≠ 0
  timeout_le : r.workerTimeoutMilliseconds ≤ 60000

instance (r : C2ClearanceReceipt) : Decidable (BoundsValid r) :=
  decidable_of_iff' _ (boundsValid_iff r)

/-- `hash_fields_ok`. -/
def hashFieldsPresent : Bool :=
  (["root_process_id", "adapter_luid_low", "heartbeat_count"].all
      fun key => (requireUInt32 json key).isSome) &&
    (["adapter_luid_high", "last_gpu_temperature_celsius", "last_gpu_slowdown_celsius"].all
      fun key => (requireInt32 json key).isSome) &&
    (["last_sample_monotonic_milliseconds", "last_sample_wddm_local_budget_bytes",
      "last_sample_wddm_local_usage_bytes", "process_wddm_sample_monotonic_milliseconds",
      "process_wddm_current_bytes", "process_wddm_peak_bytes",
      "last_host_sample_monotonic_milliseconds", "last_host_memory_available_bytes",
      "last_host_commit_available_bytes", "last_thermal_sample_monotonic_milliseconds",
      "pre_wddm_local_usage_bytes", "final_wddm_local_usage_bytes",
      "cleanup_wddm_positive_delta_bytes", "cleanup_wddm_tolerance_bytes"].all
      fun key => (requireUInt64 json key).isSome) &&
    (["worker_exit_observed", "job_tree_empty", "job_accounting_reconciled",
      "device_resources_reconciled", "artifact_handles_closed", "temporary_files_reconciled",
      "last_gpu_thermal_throttling", "last_gpu_power_brake_slowdown", "last_wddm_available",
      "last_process_wddm_available", "last_host_available", "last_thermal_available"].all
      fun key => (requireBoolValue json key).isSome)

/-- The digests of the receipt are those of its fields. `hashed` has the fields that the
texts are made of; its digests are overwritten. -/
def hashesMatch (sha256 : List Char → Option String) (r : C2ClearanceReceipt) : Bool :=
  sha256 r.terminalTriggerCanonical.toList == some r.terminalTriggerSha256 &&
    match computeC2ClearanceEvidenceHashes sha256 r with
    | .ok hashed =>
      hashed.lastGoodSampleSha256 == r.lastGoodSampleSha256 &&
        hashed.evidenceBundleSha256 == r.evidenceBundleSha256
    | .error _ => false

/-- The checks on the fields of a file. -/
def validateFields (sha256 : List Char → Option String) (json : FlatJsonFields) :
    Except String Unit :=
  let r := readReceipt json
  if json.length ≠ requiredFields.length then .error "c2_receipt_field_set_invalid"
  else
    match unknownField json with
    | some key => .error ("c2_receipt_unknown_field:" ++ key)
    | none =>
      if ¬(stringsPresent json ∧ classified json ∧ IdentityValid r) then
        .error "c2_receipt_identity_or_classification_invalid"
      else if ¬(boundsPresent json ∧ BoundsValid r) then .error "c2_receipt_bounds_invalid"
      else if ¬(hashFieldsPresent json ∧ hashesMatch sha256 r) then
        .error "c2_receipt_evidence_hash_mismatch"
      else .ok ()

/-- `validate_c2_clearance_receipt_file`, on the content of the file. -/
def validateC2ClearanceReceiptFile (sha256 : List Char → Option String) (content : List Char) :
    Except String Unit :=
  if kC2ReceiptMaximumBytes < content.length then .error "manifest_size_exceeds_limit"
  else
    match parseFlatJsonObject content with
    | .error error => .error error
    | .ok json => validateFields sha256 json

end PrismInfer.Validation
