import PrismInfer.Benchmark.EmitBenchmark
import PrismInfer.Benchmark.FlatJsonText
import PrismInfer.Lib.Fallible

/-!
# Kernel benchmark manifests

`read_kernel_benchmark_manifest`, `canonical_kernel_benchmark_manifest_json` and
`write_kernel_benchmark_manifest` (src/benchmark/kernel_benchmark_manifest.cpp), with the
tables of src/benchmark/kernel_benchmark_manifest_schema.cpp. The writer and the reader
list the members separately: `writtenFields` is the writer's list, the tables of
`ReadCall`s are the reader's calls of `read_required` and `read_optional`, in their order.

What `double`s are and what the C++ streams make of them is not part of this repository:
a `DoubleLibrary` has the comparisons, `operator<<` and `operator>>`. All that is assumed
of them is that a printed `double` is one token of the flat JSON parser.
-/

namespace PrismInfer.Benchmark

open PrismInfer.Lib PrismInfer.Validation

/-! ## Data -/

/-- `double` with the operations that the manifest code uses. -/
structure DoubleLibrary where
  Double : Type
  zero : Double
  one : Double
  lt : Double → Double → Bool
  le : Double → Double → Bool
  /-- `out << value`. -/
  print : Double → List Char
  /-- `in >> value` on a stream with this text: the value if the whole text was read and it
  is finite. -/
  read : List Char → Option Double
  isToken_print : ∀ value, IsToken (print value)

theorem isToken_toString (n : ℕ) : IsToken (toString n).toList := by
  obtain ⟨hne, hchars⟩ := isNumberChar_toString n
  have hother : ∀ c, isNumberChar c = false → c ∉ (toString n).toList := by
    intro c hc hmem
    have := hchars c hmem
    rw [hc] at this
    cases this
  refine ⟨fun c hc => endsNumber_of_isNumberChar (hchars c hc), hne, ?_, ?_, ?_⟩
  · intro c hc
    have hmem := List.mem_of_mem_head? hc
    refine ⟨?_, ?_, ?_⟩ <;> rintro rfl <;> exact hother _ (by decide) hmem
  · intro hword
    exact hother 't' (by decide) (hword.subset List.mem_cons_self)
  · intro hword
    exact hother 'f' (by decide) (hword.subset List.mem_cons_self)

/-- The natural numbers as a library of `double`s. -/
def naturals : DoubleLibrary where
  Double := ℕ
  zero := 0
  one := 1
  lt x y := decide (x < y)
  le x y := decide (x ≤ y)
  print n := (toString n).toList
  read text := if IsNumeral text then some (digitsValue text) else none
  isToken_print := isToken_toString

/-- `BenchmarkCell`. -/
structure BenchmarkCell where
  (modelHash quantizationFormat quantArtifactSha256 : String := "")
  contextTokens : UInt64 := 0
  batchSize : UInt32 := 0
  (promptFixtureHash backend os gpuName driverMode : String := "")
  (cudaDriverVersion cudaRuntimeVersion vramTierGib : UInt32 := 0)
  hardCapBytes : UInt64 := 0
  (opType sequencePhase kernelBackend kernelName kernelVersion : String := "")

/-- `KernelBenchmarkManifest`. -/
structure KernelBenchmarkManifest (D : DoubleLibrary) where
  fields : FlatJsonFields := []
  cell : BenchmarkCell := {}
  (manifestVersion validationCellId tdrStatus applicationControlStatus baselineBackend
    baselineManifestHash correctnessFixtureHash qualityFixtureHash : String := "")
  compressionStatus : String := "none"
  (compressionProfileId algorithmFamily qualityGateId qualityResultPath : String := "")
  capCertificationStatus : String := "research-only"
  (supervisorStatus admissionStatus runOutcome requestedExecutionPath actualExecutionPath
    failureReason : String := "")
  rawTrialCount : UInt64 := 0
  rawTrialSha256 : String := ""
  failureRecordSha256 : String := ""
  fullDequantMaterialized : Bool := false
  (workspacePeakBytes deviceResidentBytes hostCommitPeakBytes unknownOwnedBytes kvPayloadBytes
    kvMetadataBytes kvResidualOrSketchBytes : UInt64 := 0)
  (speedupRatio ttftMs prefillMs decodeTokensPerSecond requestTailMs effectiveBitsPerValue
    metadataBitsPerValue compressionDecodeOverheadMs attentionLogitErrorP95 attentionLogitErrorP99
    attentionTopkOverlap : D.Double := D.zero)
  claimStatus : String := ""

/-! ## Writing -/

section Printed

/-- A string member. -/
def text (value : String) : FlatJsonValue :=
  ⟨value, .string⟩

/-- An integer member, as `operator<<` prints it. -/
def number (value : ℕ) : FlatJsonValue :=
  ⟨toString value, .number⟩

def flag (value : Bool) : FlatJsonValue :=
  ⟨if value then "true" else "false", .boolean⟩

def double {D : DoubleLibrary} (value : D.Double) : FlatJsonValue :=
  ⟨String.ofList (D.print value), .number⟩

end Printed

variable {D : DoubleLibrary}

variable (m : KernelBenchmarkManifest D)

/-- The members that `serialize` prints for a manifest without fields, in their order
(kernel_benchmark_manifest.cpp:108–163). -/
def writtenFields : FlatJsonFields :=
  [("manifest_version", text m.manifestVersion),
    ("validation_cell_id", text m.validationCellId),
    ("model_hash", text m.cell.modelHash),
    ("quantization_format", text m.cell.quantizationFormat),
    ("quant_artifact_sha256", text m.cell.quantArtifactSha256),
    ("context_tokens", number m.cell.contextTokens.toNat),
    ("batch_size", number m.cell.batchSize.toNat),
    ("prompt_fixture_hash", text m.cell.promptFixtureHash),
    ("backend", text m.cell.backend),
    ("os", text m.cell.os),
    ("gpu_name", text m.cell.gpuName),
    ("driver_mode", text m.cell.driverMode),
    ("cuda_driver_version", number m.cell.cudaDriverVersion.toNat),
    ("cuda_runtime_version", number m.cell.cudaRuntimeVersion.toNat),
    ("vram_tier_gib", number m.cell.vramTierGib.toNat),
    ("hard_cap_bytes", number m.cell.hardCapBytes.toNat),
    ("op_type", text m.cell.opType),
    ("sequence_phase", text m.cell.sequencePhase),
    ("kernel_backend", text m.cell.kernelBackend),
    ("kernel_name", text m.cell.kernelName),
    ("kernel_version", text m.cell.kernelVersion),
    ("baseline_backend", text m.baselineBackend),
    ("baseline_manifest_hash", text m.baselineManifestHash),
    ("correctness_fixture_hash", text m.correctnessFixtureHash),
    ("quality_fixture_hash", text m.qualityFixtureHash),
    ("full_dequant_materialized", flag m.fullDequantMaterialized),
    ("workspace_peak_bytes", number m.workspacePeakBytes.toNat),
    ("device_resident_bytes", number m.deviceResidentBytes.toNat),
    ("host_commit_peak_bytes", number m.hostCommitPeakBytes.toNat),
    ("unknown_owned_bytes", number m.unknownOwnedBytes.toNat),
    ("ttft_ms", double m.ttftMs),
    ("prefill_ms", double m.prefillMs),
    ("decode_tokens_per_second", double m.decodeTokensPerSecond),
    ("request_tail_ms", double m.requestTailMs),
    ("speedup_ratio", double m.speedupRatio),
    ("compression_status", text m.compressionStatus),
    ("quality_gate_id", text m.qualityGateId),
    ("cap_certification_status", text m.capCertificationStatus),
    ("run_outcome", text m.runOutcome),
    ("supervisor_status", text m.supervisorStatus),
    ("admission_status", text m.admissionStatus),
    ("requested_execution_path", text m.requestedExecutionPath),
    ("actual_execution_path", text m.actualExecutionPath),
    ("failure_reason", text m.failureReason),
    ("raw_trial_count", number m.rawTrialCount.toNat),
    ("raw_trial_sha256", text m.rawTrialSha256),
    ("failure_record_sha256", text m.failureRecordSha256),
    ("claim_status", text m.claimStatus)]

/-- `serialize`. -/
def serialize : List Char :=
  if m.fields ≠ [] then renderObject (fieldMap m.fields) else renderObject (writtenFields m)

/-! ## Parsers of values -/

variable (value : FlatJsonValue)

/-- `parse_u64`. -/
def parseU64 : Option UInt64 :=
  if value.text.toList.any (['.', '-', '+', 'e', 'E'].contains ·) then none
  else (parseUnsigned 64 value).map UInt64.ofNat

/-- `parse_u32`. -/
def parseU32 : Option UInt32 :=
  match parseU64 value with
  | none => none
  | some parsed => if parsed > 4294967295 then none else some parsed.toUInt32

/-- `parse_double`. -/
def parseDouble (D : DoubleLibrary) (value : FlatJsonValue) : Option D.Double :=
  if value.kind ≠ .number then none else D.read value.text.toList

/-- `parse_bool`. -/
def parseBool : Option Bool :=
  if value.kind ≠ .boolean then none else some (value.text = "true")

/-- `parse_string`. -/
def parseString : Option String :=
  if value.kind ≠ .string then none else some value.text

/-- `parse_non_empty_string`. -/
def parseNonEmptyString : Option String :=
  (parseString value).filter (· ≠ "")

/-- `valid_optional_sha256`. -/
def validOptionalSha256 (value : String) : Bool :=
  value = "" || value.toList.length = 64 && value.toList.all fun c =>
    ('0' ≤ c && c ≤ '9') || ('a' ≤ c && c ≤ 'f') || ('A' ≤ c && c ≤ 'F')

/-! ## Reading members -/

/-- A member of the manifest. -/
structure Slot (D : DoubleLibrary) (α : Type) where
  get : KernelBenchmarkManifest D → α
  set : KernelBenchmarkManifest D → α → KernelBenchmarkManifest D

/-- A call of `read_required` or `read_optional`: the key, the member and the parser. -/
inductive ReadCall (D : DoubleLibrary)
  | nonEmptyString (key : String) (slot : Slot D String)
  | string (key : String) (slot : Slot D String)
  | u64 (key : String) (slot : Slot D UInt64)
  | u32 (key : String) (slot : Slot D UInt32)
  | bool (key : String) (slot : Slot D Bool)
  | double (key : String) (slot : Slot D D.Double)

namespace ReadCall

def key : ReadCall D → String
  | .nonEmptyString key _ | .string key _ | .u64 key _ | .u32 key _ | .bool key _
  | .double key _ => key

/-- The manifest with the member parsed from a value. -/
def parse (m : KernelBenchmarkManifest D) :
    ReadCall D → Option (KernelBenchmarkManifest D)
  | .nonEmptyString _ slot => (parseNonEmptyString value).map (slot.set m)
  | .string _ slot => (parseString value).map (slot.set m)
  | .u64 _ slot => (parseU64 value).map (slot.set m)
  | .u32 _ slot => (parseU32 value).map (slot.set m)
  | .bool _ slot => (parseBool value).map (slot.set m)
  | .double _ slot => (parseDouble D value).map (slot.set m)

/-- `read_required`. -/
def readRequired (fields : FlatJsonFields) (m : KernelBenchmarkManifest D) (call : ReadCall D) :
    Except String (KernelBenchmarkManifest D) :=
  match fields.lookup call.key with
  | none => .error ("missing_required_field:" ++ call.key)
  | some value =>
    match call.parse value m with
    | none => .error ("invalid_field:" ++ call.key)
    | some m => .ok m

/-- `read_optional`. -/
def readOptional (fields : FlatJsonFields) (m : KernelBenchmarkManifest D) (call : ReadCall D) :
    Except String (KernelBenchmarkManifest D) :=
  match fields.lookup call.key with
  | none => .ok m
  | some value =>
    match call.parse value m with
    | none => .error ("invalid_field:" ++ call.key)
    | some m => .ok m

end ReadCall

/-- The calls up to `cap_certification_status` and those of the run that follow them
(kernel_benchmark_manifest.cpp:301–400). -/
def requiredCalls (D : DoubleLibrary) : List (ReadCall D) :=
  [.nonEmptyString "validation_cell_id"
      ⟨(·.validationCellId), fun m x => { m with validationCellId := x }⟩,
    .nonEmptyString "model_hash" ⟨(·.cell.modelHash), fun m x => { m with cell.modelHash := x }⟩,
    .nonEmptyString "quantization_format"
      ⟨(·.cell.quantizationFormat), fun m x => { m with cell.quantizationFormat := x }⟩,
    .nonEmptyString "quant_artifact_sha256"
      ⟨(·.cell.quantArtifactSha256), fun m x => { m with cell.quantArtifactSha256 := x }⟩,
    .u64 "context_tokens" ⟨(·.cell.contextTokens), fun m x => { m with cell.contextTokens := x }⟩,
    .u32 "batch_size" ⟨(·.cell.batchSize), fun m x => { m with cell.batchSize := x }⟩,
    .nonEmptyString "prompt_fixture_hash"
      ⟨(·.cell.promptFixtureHash), fun m x => { m with cell.promptFixtureHash := x }⟩,
    .nonEmptyString "backend" ⟨(·.cell.backend), fun m x => { m with cell.backend := x }⟩,
    .nonEmptyString "os" ⟨(·.cell.os), fun m x => { m with cell.os := x }⟩,
    .nonEmptyString "gpu_name" ⟨(·.cell.gpuName), fun m x => { m with cell.gpuName := x }⟩,
    .nonEmptyString "driver_mode" ⟨(·.cell.driverMode), fun m x => { m with cell.driverMode := x }⟩,
    .u32 "cuda_driver_version"
      ⟨(·.cell.cudaDriverVersion), fun m x => { m with cell.cudaDriverVersion := x }⟩,
    .u32 "cuda_runtime_version"
      ⟨(·.cell.cudaRuntimeVersion), fun m x => { m with cell.cudaRuntimeVersion := x }⟩,
    .u32 "vram_tier_gib" ⟨(·.cell.vramTierGib), fun m x => { m with cell.vramTierGib := x }⟩,
    .u64 "hard_cap_bytes" ⟨(·.cell.hardCapBytes), fun m x => { m with cell.hardCapBytes := x }⟩,
    .nonEmptyString "op_type" ⟨(·.cell.opType), fun m x => { m with cell.opType := x }⟩,
    .nonEmptyString "sequence_phase"
      ⟨(·.cell.sequencePhase), fun m x => { m with cell.sequencePhase := x }⟩,
    .nonEmptyString "kernel_backend"
      ⟨(·.cell.kernelBackend), fun m x => { m with cell.kernelBackend := x }⟩,
    .nonEmptyString "kernel_name" ⟨(·.cell.kernelName), fun m x => { m with cell.kernelName := x }⟩,
    .nonEmptyString "kernel_version"
      ⟨(·.cell.kernelVersion), fun m x => { m with cell.kernelVersion := x }⟩,
    .nonEmptyString "baseline_backend"
      ⟨(·.baselineBackend), fun m x => { m with baselineBackend := x }⟩,
    .nonEmptyString "baseline_manifest_hash"
      ⟨(·.baselineManifestHash), fun m x => { m with baselineManifestHash := x }⟩,
    .nonEmptyString "correctness_fixture_hash"
      ⟨(·.correctnessFixtureHash), fun m x => { m with correctnessFixtureHash := x }⟩,
    .nonEmptyString "quality_fixture_hash"
      ⟨(·.qualityFixtureHash), fun m x => { m with qualityFixtureHash := x }⟩,
    .bool "full_dequant_materialized"
      ⟨(·.fullDequantMaterialized), fun m x => { m with fullDequantMaterialized := x }⟩,
    .u64 "workspace_peak_bytes"
      ⟨(·.workspacePeakBytes), fun m x => { m with workspacePeakBytes := x }⟩,
    .u64 "device_resident_bytes"
      ⟨(·.deviceResidentBytes), fun m x => { m with deviceResidentBytes := x }⟩,
    .u64 "host_commit_peak_bytes"
      ⟨(·.hostCommitPeakBytes), fun m x => { m with hostCommitPeakBytes := x }⟩,
    .u64 "unknown_owned_bytes"
      ⟨(·.unknownOwnedBytes), fun m x => { m with unknownOwnedBytes := x }⟩,
    .double "ttft_ms" ⟨(·.ttftMs), fun m x => { m with ttftMs := x }⟩,
    .double "prefill_ms" ⟨(·.prefillMs), fun m x => { m with prefillMs := x }⟩,
    .double "decode_tokens_per_second"
      ⟨(·.decodeTokensPerSecond), fun m x => { m with decodeTokensPerSecond := x }⟩,
    .double "request_tail_ms" ⟨(·.requestTailMs), fun m x => { m with requestTailMs := x }⟩,
    .double "speedup_ratio" ⟨(·.speedupRatio), fun m x => { m with speedupRatio := x }⟩,
    .nonEmptyString "claim_status" ⟨(·.claimStatus), fun m x => { m with claimStatus := x }⟩,
    .nonEmptyString "compression_status"
      ⟨(·.compressionStatus), fun m x => { m with compressionStatus := x }⟩,
    .nonEmptyString "quality_gate_id" ⟨(·.qualityGateId), fun m x => { m with qualityGateId := x }⟩,
    .nonEmptyString "cap_certification_status"
      ⟨(·.capCertificationStatus), fun m x => { m with capCertificationStatus := x }⟩,
    .nonEmptyString "run_outcome" ⟨(·.runOutcome), fun m x => { m with runOutcome := x }⟩,
    .nonEmptyString "supervisor_status"
      ⟨(·.supervisorStatus), fun m x => { m with supervisorStatus := x }⟩,
    .nonEmptyString "admission_status"
      ⟨(·.admissionStatus), fun m x => { m with admissionStatus := x }⟩,
    .nonEmptyString "requested_execution_path"
      ⟨(·.requestedExecutionPath), fun m x => { m with requestedExecutionPath := x }⟩,
    .nonEmptyString "actual_execution_path"
      ⟨(·.actualExecutionPath), fun m x => { m with actualExecutionPath := x }⟩]

/-- The calls for the raw evidence (kernel_benchmark_manifest.cpp:413–420). -/
def rawCalls (D : DoubleLibrary) : List (ReadCall D) :=
  [.u64 "raw_trial_count" ⟨(·.rawTrialCount), fun m x => { m with rawTrialCount := x }⟩,
    .string "raw_trial_sha256" ⟨(·.rawTrialSha256), fun m x => { m with rawTrialSha256 := x }⟩,
    .string "failure_record_sha256"
      ⟨(·.failureRecordSha256), fun m x => { m with failureRecordSha256 := x }⟩]

/-- The calls for the other optional members (kernel_benchmark_manifest.cpp:448–483). -/
def optionalCalls (D : DoubleLibrary) : List (ReadCall D) :=
  [.nonEmptyString "tdr_status" ⟨(·.tdrStatus), fun m x => { m with tdrStatus := x }⟩,
    .nonEmptyString "application_control_status"
      ⟨(·.applicationControlStatus), fun m x => { m with applicationControlStatus := x }⟩,
    .string "compression_profile_id"
      ⟨(·.compressionProfileId), fun m x => { m with compressionProfileId := x }⟩,
    .string "algorithm_family" ⟨(·.algorithmFamily), fun m x => { m with algorithmFamily := x }⟩,
    .double "effective_bits_per_value"
      ⟨(·.effectiveBitsPerValue), fun m x => { m with effectiveBitsPerValue := x }⟩,
    .double "metadata_bits_per_value"
      ⟨(·.metadataBitsPerValue), fun m x => { m with metadataBitsPerValue := x }⟩,
    .u64 "kv_payload_bytes" ⟨(·.kvPayloadBytes), fun m x => { m with kvPayloadBytes := x }⟩,
    .u64 "kv_metadata_bytes" ⟨(·.kvMetadataBytes), fun m x => { m with kvMetadataBytes := x }⟩,
    .u64 "kv_residual_or_sketch_bytes"
      ⟨(·.kvResidualOrSketchBytes), fun m x => { m with kvResidualOrSketchBytes := x }⟩,
    .double "compression_decode_overhead_ms"
      ⟨(·.compressionDecodeOverheadMs), fun m x => { m with compressionDecodeOverheadMs := x }⟩,
    .double "attention_logit_error_p95"
      ⟨(·.attentionLogitErrorP95), fun m x => { m with attentionLogitErrorP95 := x }⟩,
    .double "attention_logit_error_p99"
      ⟨(·.attentionLogitErrorP99), fun m x => { m with attentionLogitErrorP99 := x }⟩,
    .double "attention_topk_overlap"
      ⟨(·.attentionTopkOverlap), fun m x => { m with attentionTopkOverlap := x }⟩,
    .string "quality_result_path"
      ⟨(·.qualityResultPath), fun m x => { m with qualityResultPath := x }⟩]

/-! ## The schema -/

/-- `kernel_manifest_allowed_keys`. -/
def kernelManifestAllowedKeys : List String :=
  ["manifest_version", "validation_cell_id", "model_hash", "quantization_format",
    "quant_artifact_sha256", "context_tokens", "batch_size", "prompt_fixture_hash", "backend",
    "os", "gpu_name", "driver_mode", "tdr_status", "application_control_status",
    "cuda_driver_version", "cuda_runtime_version", "vram_tier_gib", "hard_cap_bytes", "op_type",
    "sequence_phase", "kernel_backend", "kernel_name", "kernel_version", "baseline_backend",
    "baseline_manifest_hash", "correctness_fixture_hash", "quality_fixture_hash", "dequant_fused",
    "full_dequant_materialized", "workspace_bytes", "workspace_peak_bytes", "kernel_ms",
    "launch_ms", "sync_ms", "transfer_h2d_bytes", "transfer_d2h_bytes", "tensor_core_claimed",
    "tensor_core_used", "profiler_artifact_path", "profiler_artifact_sha256", "speedup_ratio",
    "claim_status", "compression_status", "compression_profile_id", "quantization_scope",
    "algorithm_family", "payload_bits_per_value", "effective_bits_per_value",
    "metadata_bits_per_value", "key_quant_axis", "value_quant_axis", "pre_rope_or_post_rope",
    "group_size", "residual_fp_window_tokens", "outlier_policy", "rotation_policy",
    "rotation_seed", "projection_policy", "qjl_residual_bits", "dequant_workspace_peak_bytes",
    "kv_payload_bytes", "kv_metadata_bytes", "kv_residual_or_sketch_bytes",
    "compression_decode_overhead_ms", "attention_logit_error_p95", "attention_logit_error_p99",
    "attention_topk_overlap", "quality_gate_id", "quality_result_path",
    "cap_certification_status", "run_outcome", "supervisor_status", "admission_status",
    "requested_execution_path", "actual_execution_path", "raw_trial_count", "raw_trial_sha256",
    "failure_record_sha256", "failure_reason", "device_resident_bytes", "host_commit_peak_bytes",
    "unknown_owned_bytes", "ttft_ms", "prefill_ms", "decode_tokens_per_second", "request_tail_ms"]

/-- `kernel_manifest_required_keys`. -/
def kernelManifestRequiredKeys : List String :=
  ["manifest_version", "validation_cell_id", "model_hash", "quantization_format",
    "quant_artifact_sha256", "context_tokens", "batch_size", "prompt_fixture_hash", "backend",
    "os", "gpu_name", "driver_mode", "cuda_driver_version", "cuda_runtime_version",
    "vram_tier_gib", "hard_cap_bytes", "op_type", "sequence_phase", "kernel_backend",
    "kernel_name", "kernel_version", "baseline_backend", "baseline_manifest_hash",
    "correctness_fixture_hash", "quality_fixture_hash", "full_dequant_materialized",
    "workspace_peak_bytes", "device_resident_bytes", "host_commit_peak_bytes",
    "unknown_owned_bytes", "ttft_ms", "prefill_ms", "decode_tokens_per_second", "request_tail_ms",
    "speedup_ratio", "claim_status", "compression_status", "quality_gate_id",
    "cap_certification_status", "run_outcome", "supervisor_status", "admission_status",
    "requested_execution_path", "actual_execution_path"]

/-- `validate_optional_field`: a field that is there has the right type and value. -/
def validateOptionalField {α : Type} (fields : FlatJsonFields) (parser : FlatJsonValue → Option α)
    (constraint : α → Bool) (key : String) : Except String Unit :=
  match fields.lookup key with
  | none => .ok ()
  | some value =>
    if (parser value).any constraint then .ok () else .error ("invalid_field:" ++ key)

/-- `validate_optional_schema_fields`. -/
def validateOptionalSchemaFields (D : DoubleLibrary) (fields : FlatJsonFields) :
    Except String Unit := do
  ["dequant_fused", "tensor_core_claimed", "tensor_core_used"].forM
    (validateOptionalField fields parseBool fun _ => true)
  ["workspace_bytes", "transfer_h2d_bytes", "transfer_d2h_bytes", "group_size",
    "residual_fp_window_tokens", "rotation_seed", "qjl_residual_bits",
    "dequant_workspace_peak_bytes"].forM (validateOptionalField fields parseU64 fun _ => true)
  ["kernel_ms", "launch_ms", "sync_ms", "payload_bits_per_value"].forM
    (validateOptionalField fields (parseDouble D) fun value => D.le D.zero value)
  validateOptionalField fields (parseDouble D)
    (fun value => D.le D.zero value && D.le value D.one) "attention_topk_overlap"
  ["profiler_artifact_path", "profiler_artifact_sha256", "quantization_scope", "key_quant_axis",
    "value_quant_axis", "pre_rope_or_post_rope", "outlier_policy", "rotation_policy",
    "projection_policy"].forM (validateOptionalField fields parseString fun _ => true)

/-- `kernel_manifest_identity_constraints_ok`. -/
def kernelManifestIdentityConstraintsOk : Bool :=
  let promotedCapStatus :=
    ["quality-gated", "validated-benchmark"].contains m.capCertificationStatus
  let completed := m.runOutcome = "completed"
  let promotableClaim := ["measured", "measured-non-certified"].contains m.claimStatus
  m.cell.contextTokens != 0 && m.cell.batchSize != 0 &&
    [4, 6, 8, 12, 16].contains m.cell.vramTierGib && m.cell.hardCapBytes != 0 &&
    m.cell.hardCapBytes ≤ 17179869184 &&
    ["wddm", "tcc", "linux", "unavailable"].contains m.cell.driverMode &&
    m.cell.opType = "matmul" && ["decode", "prefill"].contains m.cell.sequencePhase &&
    ["measured", "measured-non-certified", "rejected", "research-only"].contains m.claimStatus &&
    ["none", "accounting-only", "reference", "experimental"].contains m.compressionStatus &&
    ["research-only", "measured-non-certified", "quality-gated", "validated-benchmark",
      "rejected"].contains m.capCertificationStatus &&
    ["not-attempted", "unavailable", "active", "rejected", "aborted"].contains
      m.supervisorStatus &&
    ["not-attempted", "unavailable", "admitted", "rejected", "aborted"].contains
      m.admissionStatus &&
    ["completed", "skipped", "unsupported", "rejected", "aborted"].contains m.runOutcome &&
    m.unknownOwnedBytes = 0 &&
    (completed || !promotableClaim && m.capCertificationStatus = "rejected") &&
    (m.requestedExecutionPath = m.actualExecutionPath || !promotableClaim && !promotedCapStatus) &&
    (!promotedCapStatus || m.runOutcome = "completed" && m.supervisorStatus = "active" &&
      m.admissionStatus = "admitted") &&
    m.requestedExecutionPath ≠ "" && m.actualExecutionPath ≠ ""

/-- `kernel_manifest_optional_constraints_ok`. -/
def kernelManifestOptionalConstraintsOk : Bool :=
  (m.tdrStatus = "" || ["enabled", "disabled", "unavailable"].contains m.tdrStatus) &&
    (m.applicationControlStatus = "" ||
      ["allowed", "blocked", "unavailable"].contains m.applicationControlStatus)

/-! ## The reader -/

/-- A test of the reader. -/
def ensure (passes : Bool) (error : String) : Except String Unit :=
  if passes then .ok () else .error error

/-- The evidence that goes with the outcome (kernel_benchmark_manifest.cpp:429–439). -/
def checkRunEvidence : Except String Unit :=
  if m.runOutcome = "completed" then
    ensure (!(m.rawTrialCount = 0 || m.rawTrialSha256 = "" || m.failureReason ≠ "" ||
      m.failureRecordSha256 ≠ "")) "completed_raw_evidence_required"
  else
    ensure (!(m.failureReason = "" || m.failureRecordSha256 = "" || m.rawTrialCount ≠ 0 ||
      m.rawTrialSha256 ≠ "")) "failure_evidence_required"

/-- A compression that was measured has its evidence (kernel_benchmark_manifest.cpp:488–496). -/
def compressionEvidenceOk : Bool :=
  !(["reference", "experimental"].contains m.compressionStatus &&
    (D.le m.effectiveBitsPerValue D.zero || D.le m.metadataBitsPerValue D.zero ||
      m.kvPayloadBytes = 0 || m.kvMetadataBytes = 0 ||
      D.le m.compressionDecodeOverheadMs D.zero || m.qualityResultPath = ""))

/-- The members of the manifest, from its fields (kernel_benchmark_manifest.cpp:295–502). -/
def readMembers (D : DoubleLibrary) (fields : FlatJsonFields) :
    Except String (KernelBenchmarkManifest D) := do
  let m ← (ReadCall.nonEmptyString "manifest_version"
    ⟨(·.manifestVersion), fun m x => { m with manifestVersion := x }⟩).readRequired fields {}
  ensure (m.manifestVersion = "0.1") "invalid_field:manifest_version"
  let m ← (requiredCalls D).foldlM (ReadCall.readRequired fields) m
  ensure ([m.cell.modelHash, m.cell.quantArtifactSha256, m.cell.promptFixtureHash,
    m.baselineManifestHash, m.correctnessFixtureHash, m.qualityFixtureHash].all
    validOptionalSha256) "invalid_field:identity_sha256"
  ensure ([m.ttftMs, m.prefillMs, m.decodeTokensPerSecond, m.requestTailMs].all
    fun value => !D.lt value D.zero) "invalid_field:run_timing"
  let m ← (rawCalls D).foldlM (ReadCall.readOptional fields) m
  ensure (validOptionalSha256 m.rawTrialSha256 && validOptionalSha256 m.failureRecordSha256)
    "invalid_field:raw_evidence_sha256"
  let m ← (ReadCall.string "failure_reason"
    ⟨(·.failureReason), fun m x => { m with failureReason := x }⟩).readOptional fields m
  checkRunEvidence m
  ensure (kernelManifestIdentityConstraintsOk m) "manifest_schema_constraint_failed"
  ensure (!m.fullDequantMaterialized) "full_dequant_materialized"
  let m ← (optionalCalls D).foldlM (ReadCall.readOptional fields) m
  ensure (kernelManifestOptionalConstraintsOk m) "manifest_schema_constraint_failed"
  ensure (compressionEvidenceOk m) "compression_evidence_required"
  return { m with fields := fields }

/-- The keys of the fields (kernel_benchmark_manifest.cpp:277–288). -/
def checkKeys (fields : FlatJsonFields) : Except String Unit := do
  (fieldMap fields).forM fun field =>
    ensure (kernelManifestAllowedKeys.contains field.1) ("unknown_field:" ++ field.1)
  kernelManifestRequiredKeys.forM fun key =>
    ensure (fields.lookup key).isSome ("missing_required_field:" ++ key)

/-- `kMaxKernelManifestBytes`. -/
def kMaxKernelManifestBytes : ℕ := 64 * 1024

/-- The characters of some bytes. -/
def bytesText (bytes : List Byte) : List Char :=
  bytes.map fun byte => Char.ofNat byte.toNat

/-- `read_flat_json_file` on an entry of the file system that does not change meanwhile. -/
def readFlatJsonFile (file : File) (maxBytes : ℕ) : Except String FlatJsonFields :=
  match file.kind with
  | .symlink | .danglingSymlink => .error "manifest_open_failed"
  | .other => .error "manifest_not_regular_file"
  | .regular =>
    if file.bytes.length > maxBytes then .error "manifest_size_exceeds_limit"
    else parseFlatJsonObject (bytesText file.bytes)

/-- `read_kernel_benchmark_manifest`. -/
def readKernelBenchmarkManifest (D : DoubleLibrary) (file : File) :
    Except String (KernelBenchmarkManifest D) := do
  let fields ← readFlatJsonFile file kMaxKernelManifestBytes
  checkKeys fields
  validateOptionalSchemaFields D fields
  readMembers D fields

/-- What prism-emit-benchmark takes from the manifest it has read. -/
def emitManifest : EmitManifest where
  runOutcome := m.runOutcome
  rawTrialSha256 := m.rawTrialSha256
  failureRecordSha256 := m.failureRecordSha256
  claimStatus := m.claimStatus
  capCertificationStatus := m.capCertificationStatus
  canonical := textBytes (serialize m)

/-- The call of `write_new_or_same_text_file_atomically` that
`write_kernel_benchmark_manifest` makes. -/
def writeKernelBenchmarkManifest {ν : Type*} (path : ν) (m : KernelBenchmarkManifest D) :
    WriteArguments ν where
  path := path
  contents := textBytes (serialize m)
  maximumBytes := kMaxKernelManifestBytes
  validator := true

end PrismInfer.Benchmark
