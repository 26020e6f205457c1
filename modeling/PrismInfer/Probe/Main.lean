import PrismInfer.Probe.ClaimGate

/-!
# The telemetry of prism-probe

`main` runs through phases. Each phase emits its events and goes on to the next one, or fails
closed: a memory sample, `failed_closed` and `run_end`, and the process ends. The telemetry of
every path ends in this way or with `completed`, and the validator of the lifecycle accepts it,
with one exception. The claim gate fails closed after the semantics of the cap are resolved,
so the validator's exemption for early failures does not apply, and before the phases that the
validator then asks for (`lifecycle_valid_iff`).
-/

namespace PrismInfer.Probe

open PrismInfer.Telemetry PrismInfer.Lib

/-! ## What the checks of a run answer -/

/-- The answer of a check. -/
structure Verdict where
  ok : Bool
  reason : String := ""

/-- The evidence of a worker that a warmup brings back. -/
structure WorkerEvidence where
  available : Bool := false
  executableSha256 : String := ""
  approvalIdentity : String := ""
  exitCode : UInt32 := 0
  timedOut : Bool := false
  rootProcessId : UInt32 := 0
  jobIdentity : String := ""
  (jobTotalProcesses jobPeakActiveProcesses jobTotalTerminatedProcesses : UInt32 := 0)
  (rootPeakWorkingSetBytes rootPeakPrivateCommitBytes treePeakWorkingSetBytes
    treePeakPrivateCommitBytes : UInt64 := 0)
  treeSampleIntervalMilliseconds : UInt32 := 0
  (readBytes writeBytes outputBytes outputLimitBytes : UInt64 := 0)

/-- `main` copies the evidence into the configuration. -/
def WorkerEvidence.copyTo (config : RuntimeConfig) (worker : WorkerEvidence) : RuntimeConfig :=
  { config with
    workerEvidenceAvailable := worker.available
    workerExecutableSha256 := worker.executableSha256
    workerApprovalIdentity := worker.approvalIdentity
    workerExitCode := worker.exitCode
    workerTimedOut := worker.timedOut
    workerRootProcessId := worker.rootProcessId
    workerJobIdentity := worker.jobIdentity
    workerJobTotalProcesses := worker.jobTotalProcesses
    workerJobPeakActiveProcesses := worker.jobPeakActiveProcesses
    workerJobTotalTerminatedProcesses := worker.jobTotalTerminatedProcesses
    workerRootPeakWorkingSetBytes := worker.rootPeakWorkingSetBytes
    workerRootPeakPrivateCommitBytes := worker.rootPeakPrivateCommitBytes
    workerTreePeakWorkingSetBytes := worker.treePeakWorkingSetBytes
    workerTreePeakPrivateCommitBytes := worker.treePeakPrivateCommitBytes
    workerTreeSampleIntervalMilliseconds := worker.treeSampleIntervalMilliseconds
    workerReadBytes := worker.readBytes
    workerWriteBytes := worker.writeBytes
    workerOutputBytes := worker.outputBytes
    workerOutputLimitBytes := worker.outputLimitBytes }

/-- The answers of the checks of a run. A run emits one memory sample, as it stands then. -/
structure Outcomes where
  sidecar : Verdict
  cudaAvailable : Bool
  cudaContextCreated : Bool
  cudaReason : String
  usability : UsabilityResult
  /-- The name and the version of the adapter, if there is one. -/
  adapter : Option (String × String)
  warmup : Verdict
  worker : WorkerEvidence
  (kvProfile kvSample quality compression offloadPlan reconciliation transfer profitability
    certification : Verdict)
  sample : MemorySample
  telemetryAgreement : Bool
  /-- The other values that an event reports, by their key. -/
  value : LifecycleEvent → String → String

def boolText (value : Bool) : String :=
  if value then "true" else "false"

/-- Fields that an event reports. -/
def Outcomes.report (o : Outcomes) (event : LifecycleEvent) (keys : List String) :
    List (String × String) :=
  keys.map fun key => (key, o.value event key)

/-! ## The phases -/

def kBackendContractVersion : String := "0.2"

/-- `gpu_requested`. -/
def gpuRequested (mode : RunMode) : Bool :=
  mode = .oneGbSafeGpuProbed

/-- The events of a failure. -/
def failedClosed (config : RuntimeConfig) (sample : MemorySample) (telemetryAgreement : Bool)
    (reason : String) : List EmitCall :=
  [.emitMemorySample config sample telemetryAgreement,
   .emit .failedClosed config [("failure_reason", reason)],
   .emit .runEnd config [("status", "failed_closed")]]

/-- The last phase: a memory sample and the certification of the cap. -/
def certify (config : RuntimeConfig) (o : Outcomes) : List EmitCall :=
  .emitMemorySample config o.sample o.telemetryAgreement ::
  .emit .capCertificationResult config
    [("certified", boolText o.certification.ok), ("failure_reason", o.certification.reason)] ::
  if !o.certification.ok then
    [.emit .failedClosed config [("failure_reason", o.certification.reason)],
     .emit .runEnd config [("status", "failed_closed")]]
  else [.emit .completed config [], .emit .runEnd config [("status", "ok")]]

/-- `phase3_reason`. -/
def Outcomes.phase3Reason (o : Outcomes) : String :=
  if !o.offloadPlan.ok then o.offloadPlan.reason
  else if !o.reconciliation.ok then o.reconciliation.reason
  else if !o.transfer.ok then o.transfer.reason
  else o.profitability.reason

def Outcomes.phase3Ok (o : Outcomes) : Bool :=
  o.offloadPlan.ok && o.reconciliation.ok && o.transfer.ok && o.profitability.ok

def profit (config : RuntimeConfig) (o : Outcomes) : List EmitCall :=
  if config.profitabilityPolicy ≠ "off" then
    .emit .baselineSelected config (o.report .baselineSelected
      ["baseline_manifest", "cpu_decode_tokens_per_second", "cpu_peak_bytes",
       "cpu_time_to_first_token_ms"]) ::
    .emit .transferPlan config (o.report .transferPlan ["cold_cache_required", "d2h_bytes"] ++
      [("failure_reason", o.offloadPlan.reason)] ++
      o.report .transferPlan ["h2d_bytes", "nvme_read_bytes", "nvme_write_bytes",
        "pinned_host_peak_bytes", "policy", "staging_peak_bytes"]) ::
    .emit .transferSample config (o.report .transferSample
        ["d2h_declared_bytes", "d2h_declared_ms", "d2h_observed_completed_bytes", "decode_ms",
         "decode_tokens_per_second", "dropped_records", "event_count"] ++
      [("failure_reason",
        if !o.reconciliation.ok then o.reconciliation.reason else o.transfer.reason)] ++
      o.report .transferSample ["h2d_declared_bytes", "h2d_declared_ms",
        "h2d_observed_completed_bytes", "instrumentation_mode", "prefill_ms",
        "time_to_first_token_ms"]) ::
    .emit .offloadSample config (o.report .offloadSample ["evidence_label", "policy"]) ::
    .emit .profitabilityResult config
      ([("accepted", boolText o.profitability.ok), ("reason", o.phase3Reason)] ++
       o.report .profitabilityResult ["required_speedup_ratio", "speedup_ratio", "status"]) ::
    if !o.phase3Ok then failedClosed config o.sample o.telemetryAgreement o.phase3Reason
    else certify config o
  else certify config o

def Outcomes.kvOk (o : Outcomes) : Bool :=
  o.kvSample.ok && o.quality.ok && o.compression.ok

def Outcomes.kvReason (o : Outcomes) : String :=
  if !o.kvSample.ok then o.kvSample.reason
  else if !o.quality.ok then o.quality.reason
  else o.compression.reason

/-- The loop over the warmup tokens. -/
def decodeTokens (config : RuntimeConfig) : List EmitCall :=
  (List.range config.warmupTokens.toNat).map fun token =>
    .emit .decodeToken config [("token_index", toString token)]

/-- The events of the phase from the decoding on. -/
def kvEnd (config : RuntimeConfig) (o : Outcomes) : List EmitCall :=
  .emit .decodeEnd config [] ::
  .emit .qualityGateResult config
    ([("compression_accepted", boolText o.compression.ok),
      ("compression_failure_reason", o.compression.reason)] ++
     o.report .qualityGateResult ["compression_status"] ++
     [("failure_reason", o.quality.reason)] ++
     o.report .qualityGateResult ["kv_saved_bytes", "observed_delta"] ++
     [("passed", boolText o.quality.ok)] ++ o.report .qualityGateResult ["status"]) ::
  if !o.kvOk then failedClosed config o.sample o.telemetryAgreement o.kvReason
  else profit config o

def kv (config : RuntimeConfig) (o : Outcomes) : List EmitCall :=
  if config.kvAccounting then
    if !o.kvProfile.ok then
      failedClosed config o.sample o.telemetryAgreement o.kvProfile.reason
    else
      .emit .kvCacheProfile config (o.report .kvCacheProfile
        ["block_tokens", "bytes_per_block", "bytes_per_token", "head_dim", "key_bits",
         "kv_head_count", "layer_count", "value_bits"]) ::
      .emit .prefillStart config [] ::
      .emit .kvCacheSample config (o.report .kvCacheSample
          ["active_blocks", "compressed_bytes", "evidence_status"] ++
        [("failure_reason", o.kvSample.reason)] ++
        o.report .kvCacheSample ["gpu_bytes", "host_bytes", "logical_tokens", "metadata_bytes",
          "unknown_bytes"]) ::
      .emit .prefillEnd config [] ::
      .emit .decodeStart config [] ::
      (decodeTokens config ++ kvEnd config o)
  else profit config o

/-- The reason of a missing adapter. -/
def adapterReason (config : RuntimeConfig) : String :=
  if config.backend = .llama then "llama_backend_not_compiled" else "backend_adapter_unavailable"

def backend (config : RuntimeConfig) (o : Outcomes) : List EmitCall :=
  .emit .hostPrepare config [] ::
  .emit .modelLoadPlan config
    [("backend", config.backend.text), ("context_tokens", toString config.contextTokens),
     ("gpu_layers", toString config.gpuLayers), ("mmap_enabled", boolText config.mmapEnabled),
     ("model_path", o.value .modelLoadPlan "model_path")] ::
  match o.adapter with
  | none =>
    .emit .backendInit config
      [("backend", config.backend.text), ("backend_version", kBackendContractVersion),
       ("failure_reason", adapterReason config), ("status", "failed")] ::
    .emit .backendWarmup config
      [("backend", config.backend.text), ("backend_external_peak_bytes", "0"),
       ("backend_owned_peak_bytes", "0"), ("evidence_status", "adapter_unavailable"),
       ("failure_reason", adapterReason config), ("retained_pool_bytes", "0"),
       ("status", "failed")] ::
    failedClosed config o.sample o.telemetryAgreement (adapterReason config)
  | some (name, version) =>
    .emit .backendInit config [("backend", name), ("backend_version", version)] ::
    .emit .backendWarmup (o.worker.copyTo config)
      ([("backend", name)] ++
       o.report .backendWarmup ["backend_external_peak_bytes", "backend_owned_peak_bytes",
         "evidence_status"] ++
       [("failure_reason", o.warmup.reason)] ++
       o.report .backendWarmup ["retained_pool_bytes"] ++
       [("status", if o.warmup.ok then "ok" else "failed")]) ::
    if !o.warmup.ok then
      failedClosed (o.worker.copyTo config) o.sample o.telemetryAgreement o.warmup.reason
    else kv (o.worker.copyTo config) o

def claim (config : RuntimeConfig) (o : Outcomes) : List EmitCall :=
  let gate := judgeClaim config o.usability
  .emit .capSemanticsResolved config [] ::
  if config.claimValidation ≠ "off" then
    .emit .hybridPlanCreated config
      [("claim_label", "simulated"), ("failure_reason", gate.hybridPlan.failureReason),
       ("ok", boolText gate.hybridPlan.ok),
       ("resident_gpu_total_bytes", toString gate.hybridPlan.residentGpuTotalBytes)] ::
    .emit .claimClassified config
      [("accepted", boolText gate.claim.accepted), ("reason", gate.claim.reason),
       ("status", gate.claim.status)] ::
    .emit .usabilityResult config
      [("accepted", boolText gate.usability.accepted), ("reason", gate.usability.reason),
       ("status", gate.usability.status)] ::
    .emit .repeatabilityResult config
      [("passed", boolText config.repeatabilityPassed),
       ("runs", toString config.repeatabilityRuns)] ::
    .emit .claimValidationResult config
      [("accepted", boolText gate.ok), ("reason", gate.reason)] ::
    if !gate.ok ∧ config.claimValidation = "fail-closed" then
      failedClosed config o.sample o.telemetryAgreement gate.reason
    else backend config o
  else backend config o

def cuda (config : RuntimeConfig) (o : Outcomes) : List EmitCall :=
  if gpuRequested config.mode then
    .emit .cudaContextProbe config
      ([("available", boolText o.cudaAvailable)] ++
       o.report .cudaContextProbe ["context_bytes"] ++
       [("context_created", boolText o.cudaContextCreated)] ++
       o.report .cudaContextProbe ["device_total_bytes", "device_used_after_bytes",
         "device_used_before_bytes", "driver_version"] ++
       [("failure_reason", o.cudaReason)] ++
       o.report .cudaContextProbe ["gpu_name", "runtime_version"]) ::
    if !o.cudaAvailable ∨ !o.cudaContextCreated then
      failedClosed config o.sample false o.cudaReason
    else claim config o
  else claim config o

def dependencies (config : RuntimeConfig) (o : Outcomes) : List EmitCall :=
  .emit .backendSelected config
    [("backend", config.backend.text), ("backend_contract_version", kBackendContractVersion),
     ("backend_version", kBackendContractVersion)] ::
  if config.backend = .llama ∧ config.dependencyPinFile = "" then
    failedClosed config o.sample o.telemetryAgreement "dependency_pins_required"
  else
    .emit .dependencyPinsResolved config
      [("dependency_pin_file", config.dependencyPinFile),
       ("required", boolText (config.backend = .llama))] ::
    cuda config o

/-- The calls of `main` on the telemetry, once the file could be opened. -/
def main (config : RuntimeConfig) (o : Outcomes) : List EmitCall :=
  .emit .runStart config [] ::
  .emit .configValidated config [] ::
  .emit .telemetryProbe config [] ::
  .emit .modelSidecarValidated config
    ([("failure_reason", o.sidecar.reason)] ++
     o.report .modelSidecarValidated ["model_path", "model_sha256", "model_size_bytes",
       "sidecar_path", "sidecar_size_bytes", "skipped"] ++
     [("valid", boolText o.sidecar.ok)]) ::
  if !o.sidecar.ok then failedClosed config o.sample o.telemetryAgreement o.sidecar.reason
  else dependencies config o

/-- The telemetry file that a run leaves, with the times of its calls. -/
def telemetryFile (clock : ℕ → ℕ) (config : RuntimeConfig) (o : Outcomes) : List Char :=
  telemetryText ((main config o).mapIdx fun i call => (clock i, call))

/-! ## The keys of the fields -/

/-- Every call has names as keys. -/
def AllNamed (calls : List EmitCall) : Prop :=
  ∀ call ∈ calls, call.Named

section Named

variable {config : RuntimeConfig} {o : Outcomes} {calls calls' : List EmitCall}

theorem AllNamed.nil : AllNamed [] :=
  fun _ h => absurd h List.not_mem_nil

theorem AllNamed.emit {event : LifecycleEvent} {fields : List (String × String)}
    (h : AllNamed calls) (hnames : ∀ field ∈ fields, IsName field.1.toList) :
    AllNamed (.emit event config fields :: calls) :=
  List.forall_mem_cons.2 ⟨hnames, h⟩

theorem AllNamed.sample {sample : MemorySample} {telemetryAgreement : Bool} (h : AllNamed calls) :
    AllNamed (.emitMemorySample config sample telemetryAgreement :: calls) :=
  List.forall_mem_cons.2 ⟨trivial, h⟩

theorem AllNamed.append (h : AllNamed calls) (h' : AllNamed calls') : AllNamed (calls ++ calls') :=
  List.forall_mem_append.2 ⟨h, h'⟩

theorem AllNamed.ite {c : Prop} [Decidable c] (h : AllNamed calls) (h' : AllNamed calls') :
    AllNamed (if c then calls else calls') := by
  split
  · exact h
  · exact h'

theorem failedClosed_named {sample : MemorySample} {telemetryAgreement : Bool} {reason : String} :
    AllNamed (failedClosed config sample telemetryAgreement reason) := by
  refine .sample (.emit (.emit .nil ?_) ?_)
  -- the keys are literals, whatever the values
  all_goals simp +decide

theorem certify_named : AllNamed (certify config o) := by
  refine .sample (.emit (.ite (.emit (.emit .nil ?_) ?_) (.emit (.emit .nil ?_) ?_)) ?_)
  all_goals simp +decide

theorem profit_named : AllNamed (profit config o) := by
  refine .ite (.emit (.emit (.emit (.emit (.emit
    (.ite failedClosed_named certify_named) ?_) ?_) ?_) ?_) ?_) certify_named
  all_goals simp +decide [Outcomes.report]

theorem decodeTokens_named : AllNamed (decodeTokens config) := by
  intro call hcall
  obtain ⟨token, -, rfl⟩ := List.mem_map.1 hcall
  exact List.forall_mem_singleton.2 (show IsName "token_index".toList by decide)

theorem kvEnd_named : AllNamed (kvEnd config o) := by
  refine .emit (.emit (.ite failedClosed_named profit_named) ?_) ?_
  all_goals simp +decide [Outcomes.report]

theorem kv_named : AllNamed (kv config o) := by
  refine .ite (.ite failedClosed_named (.emit (.emit (.emit (.emit (.emit
    (decodeTokens_named.append kvEnd_named) ?_) ?_) ?_) ?_) ?_)) profit_named
  all_goals simp +decide [Outcomes.report]

theorem backend_named : AllNamed (backend config o) := by
  rw [backend]
  split
  · refine .emit (.emit (.emit (.emit failedClosed_named ?_) ?_) ?_) ?_
    all_goals simp +decide
  · refine .emit (.emit (.emit (.emit (.ite failedClosed_named kv_named) ?_) ?_) ?_) ?_
    all_goals simp +decide [Outcomes.report]

theorem claim_named : AllNamed (claim config o) := by
  refine .emit (.ite (.emit (.emit (.emit (.emit (.emit
    (.ite failedClosed_named backend_named) ?_) ?_) ?_) ?_) ?_) backend_named) ?_
  all_goals simp +decide

theorem cuda_named : AllNamed (cuda config o) := by
  refine .ite (.emit (.ite failedClosed_named claim_named) ?_) claim_named
  all_goals simp +decide [Outcomes.report]

theorem dependencies_named : AllNamed (dependencies config o) := by
  refine .emit (.ite failedClosed_named (.emit cuda_named ?_)) ?_
  all_goals simp +decide

theorem main_named : AllNamed (main config o) := by
  refine .emit (.emit (.emit (.emit (.ite failedClosed_named dependencies_named) ?_) ?_) ?_) ?_
  all_goals simp +decide [Outcomes.report]

end Named

variable {config : RuntimeConfig} {o : Outcomes}

/-! ## The events up to a phase -/

/-- The events of calls. -/
def events (calls : List EmitCall) : List LifecycleEvent :=
  calls.map EmitCall.event

def started : List LifecycleEvent :=
  [.runStart, .configValidated, .telemetryProbe, .modelSidecarValidated]

def pinned : List LifecycleEvent :=
  started ++ [.backendSelected, .dependencyPinsResolved]

/-- Up to the CUDA probe, if the mode asks for one. -/
def probed (gpu : Bool) : List LifecycleEvent :=
  pinned ++ if gpu then [.cudaContextProbe] else []

/-- Up to the claim gate, if claims are validated. -/
def judged (gpu claims : Bool) : List LifecycleEvent :=
  probed gpu ++ .capSemanticsResolved :: if claims then claimEvents else []

/-- Up to the warmup of the backend. -/
def warmed (gpu claims : Bool) : List LifecycleEvent :=
  judged gpu claims ++ [.hostPrepare, .modelLoadPlan, .backendInit, .backendWarmup]

/-! ## The events from a phase on -/

def failure : List LifecycleEvent :=
  [.memorySample, .failedClosed, .runEnd]

def certifyEnds : List (List LifecycleEvent) :=
  [[.memorySample, .capCertificationResult, .failedClosed, .runEnd],
   [.memorySample, .capCertificationResult, .completed, .runEnd]]

def profitEnds : List (List LifecycleEvent) :=
  certifyEnds ++ (failure :: certifyEnds).map fun ending =>
    .baselineSelected :: .transferPlan :: .transferSample :: .offloadSample ::
      .profitabilityResult :: ending

def kvStart : List LifecycleEvent :=
  [.kvCacheProfile, .prefillStart, .kvCacheSample, .prefillEnd, .decodeStart]

/-- From the end of the decoding on. -/
def kvEnds : List (List LifecycleEvent) :=
  (failure :: profitEnds).map fun ending => .decodeEnd :: .qualityGateResult :: ending

theorem events_append (calls calls' : List EmitCall) :
    events (calls ++ calls') = events calls ++ events calls' :=
  List.map_append

theorem events_certify : events (certify config o) ∈ certifyEnds := by
  rw [certify]
  split
  · exact List.mem_cons_self
  · exact List.mem_cons_of_mem _ List.mem_cons_self

theorem events_profit : events (profit config o) ∈ profitEnds := by
  rw [profit]
  split
  · refine List.mem_append_right _ (List.mem_map_of_mem ?_)
    split
    · exact List.mem_cons_self
    · exact List.mem_cons_of_mem _ events_certify
  · exact List.mem_append_left _ events_certify

theorem events_kvEnd : events (kvEnd config o) ∈ kvEnds := by
  rw [kvEnd]
  refine List.mem_map_of_mem ?_
  split
  · exact List.mem_cons_self
  · exact List.mem_cons_of_mem _ events_profit

theorem events_decodeTokens :
    events (decodeTokens config) = List.replicate config.warmupTokens.toNat .decodeToken := by
  simp [events, decodeTokens, Function.comp_def, EmitCall.event, List.map_const']

/-! ## Every path is accepted -/

variable (gpu claims : Bool)

/-- The paths through the warmup, for the decoding of no token. -/
theorem warmed_valid : ∀ ending ∈ failure :: profitEnds ++ kvEnds.map (kvStart ++ ·),
      validateEvents (warmed gpu claims ++ ending) = .ok () := by
  cases gpu <;> cases claims <;> decide

/-- Decoded tokens make no difference. -/
theorem validateEvents_decodeTokens {before after : List LifecycleEvent}
    (hbefore : 6 ≤ before.length) (hafter : after ≠ []) (n : ℕ) :
    validateEvents (before ++ (List.replicate n .decodeToken ++ after)) =
      validateEvents (before ++ after) := by
  induction n with
  | zero => rfl
  | succ n ih =>
    have hne : List.replicate n LifecycleEvent.decodeToken ++ after ≠ [] :=
      List.append_ne_nil_of_right_ne_nil _ hafter
    rw [List.replicate_succ, List.cons_append,
      validateEvents_insert (fun _ => rfl) (by decide) (by decide) hbefore hne, ih]

theorem kv_valid : validateEvents (warmed gpu claims ++ events (kv config o)) = .ok () := by
  have hpaths := warmed_valid gpu claims
  rw [kv]
  split
  · split
    · exact hpaths _ List.mem_cons_self
    · have hlength : 6 ≤ (warmed gpu claims ++ kvStart).length := by
        cases gpu <;> cases claims <;> decide
      have hne : events (kvEnd config o) ≠ [] := List.cons_ne_nil _ _
      show validateEvents (warmed gpu claims ++ (kvStart ++
        events (decodeTokens config ++ kvEnd config o))) = .ok ()
      rw [events_append, events_decodeTokens, ← List.append_assoc,
        validateEvents_decodeTokens hlength hne, List.append_assoc]
      exact hpaths _ (List.mem_append_right _ (List.mem_map_of_mem events_kvEnd))
  · exact hpaths _ (List.mem_cons_of_mem _ (List.mem_append_left _ events_profit))

theorem backend_valid :
    validateEvents (judged gpu claims ++ events (backend config o)) = .ok () := by
  -- the backend's events end the prefix `warmed`
  have hwarmed : ∀ calls, validateEvents (warmed gpu claims ++ events calls) = .ok () →
      validateEvents (judged gpu claims ++ .hostPrepare :: .modelLoadPlan :: .backendInit ::
        .backendWarmup :: events calls) = .ok () := by
    intro calls hvalid
    rwa [warmed, List.append_assoc] at hvalid
  have hfailed := warmed_valid gpu claims failure List.mem_cons_self
  rw [backend]
  split
  · exact hwarmed (failedClosed _ _ _ _) hfailed
  · refine hwarmed _ ?_
    split
    · exact hfailed
    · exact kv_valid gpu claims

/-! ## The claim gate -/

/-- The run gets to the claim gate. -/
def ReachesGate (config : RuntimeConfig) (o : Outcomes) : Prop :=
  o.sidecar.ok = true ∧ ¬(config.backend = .llama ∧ config.dependencyPinFile = "") ∧
    (gpuRequested config.mode = true → o.cudaAvailable = true ∧ o.cudaContextCreated = true)

/-- The claim gate fails closed. -/
def GateCloses (config : RuntimeConfig) (o : Outcomes) : Prop :=
  config.claimValidation = "fail-closed" ∧ (judgeClaim config o.usability).ok = false

/-- A failure at the gate leaves the phases after it out. -/
theorem gate_failure (gpu : Bool) :
    validateEvents (judged gpu true ++ failure) = .error "missing_host_prepare" := by
  cases gpu <;> decide

/-! Failures before the semantics of the cap are resolved are exempt. -/

theorem sidecar_failure : validateEvents (started ++ failure) = .ok () := by
  decide

theorem pins_failure : validateEvents (started ++ .backendSelected :: failure) = .ok () := by
  decide

theorem cuda_failure : validateEvents (pinned ++ .cudaContextProbe :: failure) = .ok () := by
  decide

theorem claim_valid_iff (gpu : Bool) :
    validateEvents (probed gpu ++ events (claim config o)) = .ok () ↔ ¬GateCloses config o := by
  rw [claim]
  by_cases hoff : config.claimValidation = "off"
  · have hopen : ¬GateCloses config o := by
      rintro ⟨hclosed, -⟩
      rw [hoff] at hclosed
      exact absurd hclosed (by decide)
    rw [if_neg (not_not.2 hoff)]
    refine iff_of_true ?_ hopen
    have hvalid := @backend_valid config o gpu false
    rwa [judged, List.append_assoc] at hvalid
  · rw [if_pos hoff]
    by_cases hcloses : GateCloses config o
    · rw [if_pos ⟨by rw [hcloses.2]; rfl, hcloses.1⟩]
      refine iff_of_false ?_ (not_not.2 hcloses)
      intro hvalid
      have hfailure := gate_failure gpu
      rw [judged, List.append_assoc] at hfailure
      exact absurd (hfailure.symm.trans hvalid) (by decide)
    · have hopen : ¬((!(judgeClaim config o.usability).ok) = true ∧
          config.claimValidation = "fail-closed") := by
        rintro ⟨hok, hclosed⟩
        exact hcloses ⟨hclosed, by simpa using hok⟩
      rw [if_neg hopen]
      refine iff_of_true ?_ hcloses
      have hvalid := @backend_valid config o gpu true
      rwa [judged, List.append_assoc] at hvalid

theorem cuda_valid_iff : validateEvents (pinned ++ events (cuda config o)) = .ok () ↔
      ((gpuRequested config.mode = true → o.cudaAvailable = true ∧ o.cudaContextCreated = true) →
        ¬GateCloses config o) := by
  rw [cuda]
  by_cases hgpu : gpuRequested config.mode = true
  · rw [if_pos hgpu]
    by_cases hcuda : o.cudaAvailable = true ∧ o.cudaContextCreated = true
    · rw [if_neg (by simp [hcuda])]
      have hvalid := @claim_valid_iff config o true
      rw [probed, List.append_assoc] at hvalid
      exact hvalid.trans ⟨fun hopen _ => hopen, fun h => h fun _ => hcuda⟩
    · rw [if_pos (by rw [not_and_or] at hcuda; simpa using hcuda)]
      exact iff_of_true cuda_failure fun h => absurd (h hgpu) hcuda
  · rw [if_neg hgpu]
    have hvalid := @claim_valid_iff config o false
    rw [probed, List.append_assoc] at hvalid
    exact hvalid.trans ⟨fun hopen _ => hopen, fun h => h fun hmode => absurd hmode hgpu⟩

theorem main_valid_iff : validateEvents (events (main config o)) = .ok () ↔
      ¬(ReachesGate config o ∧ GateCloses config o) := by
  rw [main]
  by_cases hsidecar : o.sidecar.ok = true
  · rw [if_neg (by simp [hsidecar]), dependencies]
    by_cases hpins : config.backend = .llama ∧ config.dependencyPinFile = ""
    · rw [if_pos hpins]
      exact iff_of_true pins_failure fun h => h.1.2.1 hpins
    · rw [if_neg hpins]
      refine cuda_valid_iff.trans ?_
      simp [ReachesGate, hsidecar, hpins]
  · rw [if_pos (by simpa using hsidecar)]
    exact iff_of_true sidecar_failure fun h => hsidecar h.1.1

/-- The events of the file are those of the calls. -/
theorem lifecycleEvents_telemetryFile (clock : ℕ → ℕ) (config : RuntimeConfig) (o : Outcomes) :
    lifecycleEvents (telemetryFile clock config o) = events (main config o) := by
  have hnamed : ∀ call ∈ (main config o).mapIdx fun i call => (clock i, call), call.2.Named := by
    intro call hcall
    obtain ⟨i, hi, rfl⟩ := List.mem_mapIdx.1 hcall
    exact main_named _ (List.getElem_mem hi)
  rw [telemetryFile, lifecycleEvents_telemetryText hnamed]
  refine List.ext_getElem (by simp [events]) fun i _ _ => ?_
  simp [events]

/-- **The lifecycle of a run of prism-probe is valid, unless the run fails closed at the claim
gate.** -/
theorem lifecycle_valid_iff (path : String) (clock : ℕ → ℕ) (config : RuntimeConfig)
    (o : Outcomes) :
    validatePhase0Lifecycle path (some (telemetryFile clock config o)) = .ok () ↔
      ¬(ReachesGate config o ∧ GateCloses config o) := by
  rw [validatePhase0Lifecycle, lifecycleEvents_telemetryFile]
  exact main_valid_iff

namespace Fixture

/-- The options `--claim-validation fail-closed`, with the default cap of 1 GiB. -/
def gatedConfig : RuntimeConfig where
  claimValidation := "fail-closed"

/-- A run all of whose checks pass. -/
def passing : Outcomes where
  sidecar := ⟨true, ""⟩
  cudaAvailable := true
  cudaContextCreated := true
  cudaReason := ""
  usability := ⟨true, "accepted", ""⟩
  adapter := some ("null", "0.2")
  warmup := ⟨true, ""⟩
  worker := {}
  kvProfile := ⟨true, ""⟩
  kvSample := ⟨true, ""⟩
  quality := ⟨true, ""⟩
  compression := ⟨true, ""⟩
  offloadPlan := ⟨true, ""⟩
  reconciliation := ⟨true, ""⟩
  transfer := ⟨true, ""⟩
  profitability := ⟨true, ""⟩
  certification := ⟨true, ""⟩
  sample := {}
  telemetryAgreement := true
  value := fun _ _ => ""

end Fixture

open Fixture

/-- The 13 GiB of the simulated plan exceed the default cap, the run fails closed as it was
asked to, and its telemetry is rejected. -/
theorem gated_lifecycle_rejected :
    (main gatedConfig passing).map EmitCall.event =
        [.runStart, .configValidated, .telemetryProbe, .modelSidecarValidated, .backendSelected,
         .dependencyPinsResolved, .capSemanticsResolved, .hybridPlanCreated, .claimClassified,
         .usabilityResult, .repeatabilityResult, .claimValidationResult, .memorySample,
         .failedClosed, .runEnd] ∧
      validatePhase0Lifecycle "probe.jsonl" (some (telemetryFile id gatedConfig passing)) =
        .error "missing_host_prepare" := by
  refine ⟨by decide, ?_⟩
  rw [validatePhase0Lifecycle, lifecycleEvents_telemetryFile]
  decide

end PrismInfer.Probe
