import PrismInfer.Lib.Delimited
import PrismInfer.Lib.TextStream
import PrismInfer.Telemetry.Lifecycle

/-!
# The telemetry file

`JsonlTelemetry` appends one line for each event: an object whose members are the fields of
the configuration and those of the event. Texts are escaped, keys of events that are already
members are left out.

The validator of the lifecycle does not parse the lines. It searches them for the text of an
event's member, so a value could in principle contain an event. It cannot: the text of an
event's member has four quotes and no backslash, and an escaped value has no quote without a
backslash before it. So the events of the file are those that were emitted.
-/

namespace PrismInfer.Telemetry

open PrismInfer.Lib

/-! ## The configuration of a run -/

inductive RunMode
  | oneGbSafeCpu | oneGbSafeGpuProbed
  deriving DecidableEq, Repr

/-- `to_string`. -/
def RunMode.text : RunMode → String
  | .oneGbSafeCpu => "1gb-safe-cpu"
  | .oneGbSafeGpuProbed => "1gb-safe-gpu-probed"

inductive BackendKind
  | null | fake | llama
  deriving DecidableEq, Repr

/-- `to_string`. -/
def BackendKind.text : BackendKind → String
  | .null => "null"
  | .fake => "fake"
  | .llama => "llama"

def kOneGiB : UInt64 := 1073741824

/-- `RuntimeConfig`: the fields that the telemetry prints and those that a claim is judged by. -/
structure RuntimeConfig where
  mode : RunMode := .oneGbSafeCpu
  hardCapBytes : UInt64 := kOneGiB
  modelParameterBucket : String := ""
  parameterCount : UInt64 := 0
  vramTierGib : UInt32 := 1
  validationCellId : String := ""
  validationCellStatus : String := "not-started"
  backend : BackendKind := .null
  backendRequired : Bool := false
  dependencyPinFile : String := ""
  llamaExecutablePath : String := ""
  contextTokens : UInt64 := 512
  gpuLayers : UInt32 := 0
  mmapEnabled : Bool := true
  warmupTokens : UInt64 := 1
  workerEvidenceAvailable : Bool := false
  workerExecutableSha256 : String := ""
  workerApprovalIdentity : String := ""
  workerExitCode : UInt32 := 0
  workerTimedOut : Bool := false
  workerRootProcessId : UInt32 := 0
  workerJobIdentity : String := ""
  (workerJobTotalProcesses workerJobPeakActiveProcesses workerJobTotalTerminatedProcesses
    : UInt32 := 0)
  (workerRootPeakWorkingSetBytes workerRootPeakPrivateCommitBytes workerTreePeakWorkingSetBytes
    workerTreePeakPrivateCommitBytes : UInt64 := 0)
  workerTreeSampleIntervalMilliseconds : UInt32 := 0
  (workerReadBytes workerWriteBytes workerOutputBytes workerOutputLimitBytes : UInt64 := 0)
  kvAccounting : Bool := false
  kvPlacement : String := "backend"
  kvCompression : String := "none"
  qualityGate : String := "none"
  profitabilityPolicy : String := "off"
  offloadPolicy : String := "none"
  claimLabel : String := "metadata-only"
  quantizationFormat : String := ""
  quantArtifactSha256 : String := ""
  repeatabilityRuns : UInt32 := 0
  repeatabilityPassed : Bool := false
  claimValidation : String := "off"
  (measuredEvidence simulatedEvidence deploymentRunbookPresent : Bool := false)
  runId : String := ""

/-- `MemorySample` (memory_cap.h). -/
structure MemorySample where
  (allocatorBytes allocatorPeakBytes processGpuBytes processGpuPeakBytes warmupPeakBytes
    retainedPoolBytes kvGpuPeakBytes kvHostPeakBytes kvCompressedPeakBytes kvMetadataPeakBytes
    kvUnknownPeakBytes deviceUsedBytes deviceDeltaBytes unknownPostWarmupBytes : UInt64 := 0)
  requiredTelemetryPresent : Bool := true
  telemetryAgreement : Bool := true
  unifiedMemoryEnabled : Bool := false

/-! ## Members -/

def jsonEscapeChar : Char → List Char
  | '\\' => ['\\', '\\']
  | '"' => ['\\', '"']
  | '\n' => ['\\', 'n']
  | '\r' => ['\\', 'r']
  | '\t' => ['\\', 't']
  | c => [c]

/-- `json_escape`. -/
def jsonEscape (value : List Char) : List Char :=
  value.flatMap jsonEscapeChar

/-- A value of a member, as it is printed. -/
inductive MemberValue
  | text (value : String)
  | number (value : ℕ)
  | boolean (value : Bool)

def MemberValue.render : MemberValue → List Char
  | .text value => '"' :: (jsonEscape value.toList ++ ['"'])
  | .number value => (toString value).toList
  | .boolean value => (if value then "true" else "false").toList

/-- A member: its key, escaped, and its value. -/
def renderMember (member : String × MemberValue) : List Char :=
  '"' :: (jsonEscape member.1.toList ++ ['"', ':'] ++ member.2.render)

/-- The members of every line, in the order in which both functions print them. -/
def commonMembers (config : RuntimeConfig) (event : String) (time : ℕ) :
    List (String × MemberValue) :=
  [("schema_version", .text "0.6"),
   ("timestamp_ns", .number time),
   ("run_id", .text config.runId),
   ("event", .text event),
   ("mode", .text config.mode.text),
   ("hard_cap_bytes", .number config.hardCapBytes.toNat),
   ("model_parameter_bucket", .text config.modelParameterBucket),
   ("parameter_count", .number config.parameterCount.toNat),
   ("vram_tier_gib", .number config.vramTierGib.toNat),
   ("validation_cell_id", .text config.validationCellId),
   ("validation_cell_status", .text config.validationCellStatus),
   ("backend", .text config.backend.text),
   ("backend_required", .boolean config.backendRequired),
   ("dependency_pin_file", .text config.dependencyPinFile),
   ("llama_executable", .text config.llamaExecutablePath),
   ("context_tokens", .number config.contextTokens.toNat),
   ("gpu_layers", .number config.gpuLayers.toNat),
   ("mmap_enabled", .boolean config.mmapEnabled),
   ("warmup_tokens", .number config.warmupTokens.toNat),
   ("worker_evidence_available", .boolean config.workerEvidenceAvailable),
   ("worker_executable_sha256", .text config.workerExecutableSha256),
   ("worker_approval_identity", .text config.workerApprovalIdentity),
   ("worker_exit_code", .number config.workerExitCode.toNat),
   ("worker_timed_out", .boolean config.workerTimedOut),
   ("worker_root_process_id", .number config.workerRootProcessId.toNat),
   ("worker_job_identity", .text config.workerJobIdentity),
   ("worker_job_total_processes", .number config.workerJobTotalProcesses.toNat),
   ("worker_job_peak_active_processes", .number config.workerJobPeakActiveProcesses.toNat),
   ("worker_job_total_terminated_processes",
    .number config.workerJobTotalTerminatedProcesses.toNat),
   ("worker_root_peak_working_set_bytes", .number config.workerRootPeakWorkingSetBytes.toNat),
   ("worker_root_peak_private_commit_bytes",
    .number config.workerRootPeakPrivateCommitBytes.toNat),
   ("worker_tree_peak_working_set_bytes", .number config.workerTreePeakWorkingSetBytes.toNat),
   ("worker_tree_peak_private_commit_bytes",
    .number config.workerTreePeakPrivateCommitBytes.toNat),
   ("worker_tree_sample_interval_milliseconds",
    .number config.workerTreeSampleIntervalMilliseconds.toNat),
   ("worker_read_bytes", .number config.workerReadBytes.toNat),
   ("worker_write_bytes", .number config.workerWriteBytes.toNat),
   ("worker_output_bytes", .number config.workerOutputBytes.toNat),
   ("worker_output_limit_bytes", .number config.workerOutputLimitBytes.toNat),
   ("kv_accounting", .boolean config.kvAccounting),
   ("kv_placement", .text config.kvPlacement),
   ("kv_compression", .text config.kvCompression),
   ("quality_gate", .text config.qualityGate),
   ("profitability_policy", .text config.profitabilityPolicy),
   ("offload_policy", .text config.offloadPolicy),
   ("claim_label", .text config.claimLabel),
   ("claim_validation", .text config.claimValidation)]

/-- The keys that `reserved_event_field` knows. -/
def reservedEventFields : List String :=
  ["schema_version", "timestamp_ns", "run_id", "event", "mode", "hard_cap_bytes",
   "model_parameter_bucket", "parameter_count", "vram_tier_gib", "validation_cell_id",
   "validation_cell_status", "backend", "backend_required", "dependency_pin_file",
   "llama_executable", "context_tokens", "gpu_layers", "mmap_enabled", "warmup_tokens",
   "worker_evidence_available", "worker_executable_sha256", "worker_approval_identity",
   "worker_exit_code", "worker_timed_out", "worker_root_process_id", "worker_job_identity",
   "worker_job_total_processes", "worker_job_peak_active_processes",
   "worker_job_total_terminated_processes", "worker_root_peak_working_set_bytes",
   "worker_root_peak_private_commit_bytes", "worker_tree_peak_working_set_bytes",
   "worker_tree_peak_private_commit_bytes", "worker_tree_sample_interval_milliseconds",
   "worker_read_bytes", "worker_write_bytes", "worker_output_bytes",
   "worker_output_limit_bytes", "kv_accounting", "kv_placement", "kv_compression",
   "quality_gate", "profitability_policy", "offload_policy", "claim_label",
   "claim_validation"]

/-- `reserved_event_field`. -/
def reservedEventField (key : String) : Bool :=
  reservedEventFields.contains key

/-- The members of an event's own fields, in the order of the map. -/
def fieldMembers (fields : List (String × String)) : List (String × MemberValue) :=
  (fields.filter fun field => !reservedEventField field.1).map fun field =>
    (field.1, .text field.2)

def sampleMembers (sample : MemorySample) (telemetryAgreement : Bool) :
    List (String × MemberValue) :=
  [("allocator_bytes", .number sample.allocatorBytes.toNat),
   ("allocator_peak_bytes", .number sample.allocatorPeakBytes.toNat),
   ("process_gpu_bytes", .number sample.processGpuBytes.toNat),
   ("process_gpu_peak_bytes", .number sample.processGpuPeakBytes.toNat),
   ("warmup_peak_bytes", .number sample.warmupPeakBytes.toNat),
   ("retained_pool_bytes", .number sample.retainedPoolBytes.toNat),
   ("kv_gpu_peak_bytes", .number sample.kvGpuPeakBytes.toNat),
   ("kv_host_peak_bytes", .number sample.kvHostPeakBytes.toNat),
   ("kv_compressed_peak_bytes", .number sample.kvCompressedPeakBytes.toNat),
   ("kv_metadata_peak_bytes", .number sample.kvMetadataPeakBytes.toNat),
   ("kv_unknown_peak_bytes", .number sample.kvUnknownPeakBytes.toNat),
   ("device_used_bytes", .number sample.deviceUsedBytes.toNat),
   ("device_delta_bytes", .number sample.deviceDeltaBytes.toNat),
   ("unknown_post_warmup_bytes", .number sample.unknownPostWarmupBytes.toNat),
   ("telemetry_agreement", .boolean telemetryAgreement)]

/-! ## Calls -/

/-- A call on the telemetry. -/
inductive EmitCall
  | emit (event : LifecycleEvent) (config : RuntimeConfig) (fields : List (String × String))
  | emitMemorySample (config : RuntimeConfig) (sample : MemorySample) (telemetryAgreement : Bool)

namespace EmitCall

def event : EmitCall → LifecycleEvent
  | .emit event _ _ => event
  | .emitMemorySample _ _ _ => .memorySample

/-- The members of the line that a call writes at a time. -/
def members (time : ℕ) : EmitCall → List (String × MemberValue)
  | .emit event config fields => commonMembers config event.name time ++ fieldMembers fields
  | .emitMemorySample config sample telemetryAgreement =>
    commonMembers config "memory_sample" time ++ sampleMembers sample telemetryAgreement

end EmitCall

/-- The members, with commas between them. -/
def renderMembers : List (String × MemberValue) → List Char
  | [] => []
  | first :: rest => renderMember first ++ (rest.map renderMember).flatMap (',' :: ·)

/-- An object with these members. -/
def renderLine (members : List (String × MemberValue)) : List Char :=
  '\x7b' :: (renderMembers members ++ ['\x7d'])

/-- `JsonlTelemetry::emit` and `JsonlTelemetry::emit_memory_sample` on a file that can be
written: the call appends its line. The clock gives the time. -/
def EmitCall.append (file : List Char) (call : ℕ × EmitCall) : List Char :=
  file ++ (renderLine (call.2.members call.1) ++ ['\n'])

variable (calls : List (ℕ × EmitCall))

/-- The file after the calls. -/
def telemetryText : List Char :=
  calls.foldl EmitCall.append []

/-! ## Escaped texts -/

/-- The text needs no escape. -/
def Plain (text : List Char) : Prop :=
  ∀ c ∈ text, jsonEscapeChar c = [c]

theorem jsonEscapeChar_cases (c : Char) : (jsonEscapeChar c = [c] ∧ c ≠ '"' ∧ c ≠ '\n') ∨
      ∃ d, jsonEscapeChar c = ['\\', d] ∧ d ≠ '\n' := by
  unfold jsonEscapeChar
  split
  · exact .inr ⟨_, rfl, by decide⟩
  · exact .inr ⟨_, rfl, by decide⟩
  · exact .inr ⟨_, rfl, by decide⟩
  · exact .inr ⟨_, rfl, by decide⟩
  · exact .inr ⟨_, rfl, by decide⟩
  · rename_i hquote hnewline _ _
    exact .inl ⟨rfl, hquote, hnewline⟩

@[simp] theorem jsonEscape_nil : jsonEscape [] = [] := rfl

theorem jsonEscape_cons (c : Char) (text : List Char) :
    jsonEscape (c :: text) = jsonEscapeChar c ++ jsonEscape text := rfl

variable {text : List Char}

theorem Plain.jsonEscape_eq (h : Plain text) : jsonEscape text = text := by
  induction text with
  | nil => rfl
  | cons c text ih =>
    rw [jsonEscape_cons, h c List.mem_cons_self, ih fun d hd => h d (List.mem_cons_of_mem _ hd)]
    rfl

theorem Plain.quote_not_mem (h : Plain text) : '"' ∉ text := by
  intro hmem
  have hquote := h _ hmem
  cases hquote

theorem Plain.count_quote (h : Plain text) : text.count '"' = 0 :=
  List.count_eq_zero.2 h.quote_not_mem

theorem IsName.plain (h : IsName text) : Plain text := by
  intro c hc
  rcases jsonEscapeChar_cases c with ⟨hplain, -⟩ | ⟨d, hescaped, -⟩
  · exact hplain
  · -- the characters of a name are none of those that are escaped
    have hname := List.all_eq_true.1 h c hc
    unfold jsonEscapeChar at hescaped ⊢
    split at hescaped <;> first | cases hname | rfl

theorem newline_not_mem_jsonEscape (text : List Char) : '\n' ∉ jsonEscape text := by
  induction text with
  | nil => simp
  | cons c text ih =>
    rw [jsonEscape_cons, List.mem_append, not_or]
    refine ⟨?_, ih⟩
    rcases jsonEscapeChar_cases c with ⟨hplain, -, hc⟩ | ⟨d, hescaped, hd⟩
    · simpa [hplain] using Ne.symm hc
    · simpa [hescaped] using Ne.symm hd

/-- Where a word without a backslash can lie in a text with an escaped part at its end. If it
is not the part as it is, then it has few quotes: those before the part, or those at its ends. -/
theorem infix_jsonEscape {word : List Char} (hword : '\\' ∉ word) (text before : List Char)
    (h : word <:+: before ++ (jsonEscape text ++ ['"'])) :
    (Plain text ∧ word <:+: before ++ (text ++ ['"'])) ∨
      word.count '"' ≤ before.count '"' ∨ word.count '"' ≤ 2 := by
  induction text generalizing before with
  | nil => exact .inl ⟨nofun, h⟩
  | cons c text ih =>
    rw [jsonEscape_cons] at h
    rcases jsonEscapeChar_cases c with ⟨hplain, hquote, -⟩ | ⟨d, hescaped, -⟩
    · rw [hplain, List.singleton_append, List.cons_append, List.append_cons] at h
      rcases ih (before ++ [c]) h with ⟨htext, hinfix⟩ | hcount | hcount
      · refine .inl ⟨?_, by simpa using hinfix⟩
        exact List.forall_mem_cons.2 ⟨hplain, htext⟩
      · rw [List.count_append, List.count_singleton, if_neg (by simpa using hquote)] at hcount
        exact .inr (.inl hcount)
      · exact .inr (.inr hcount)
    · -- the word lies before the backslash or after it, where at most the next character and
      -- the last one are quotes
      rw [hescaped] at h
      rcases infix_of_append_cons hword h with h | h
      · exact .inr (.inl (h.sublist.count_le _))
      · have hd : [d].count '"' ≤ 1 := List.count_le_length
        rcases ih [d] h with ⟨htext, hinfix⟩ | hcount | hcount
        · have hquotes := hinfix.sublist.count_le '"'
          rw [List.count_append, List.count_append, htext.count_quote,
            List.count_singleton_self] at hquotes
          exact .inr (.inr (by omega))
        · exact .inr (.inr (by omega))
        · exact .inr (.inr hcount)

/-! ## The member that contains an event -/

theorem LifecycleEvent.count_pattern (e : LifecycleEvent) : e.pattern.count '"' = 4 := by
  rw [pattern, List.count_cons_self, List.count_append, e.count_quoted]
  rfl

theorem isDigit_of_mem_number {value : ℕ} {c : Char} (hc : c ∈ (toString value).toList) :
    c.isDigit = true := by
  have hnumeral := isNumeral_toDigits value
  rw [IsNumeral, Bool.and_eq_true, List.all_eq_true] at hnumeral
  exact hnumeral.2 c (Nat.toList_repr ▸ hc)

/-- A value that is not a text has no quotes. -/
theorem MemberValue.quote_not_mem {value : MemberValue} (h : ∀ text, value ≠ .text text) :
    '"' ∉ value.render := by
  cases value with
  | text text => exact absurd rfl (h text)
  | number value =>
    intro hmem
    have := isDigit_of_mem_number hmem
    revert this
    decide
  | boolean value => cases value <;> decide

variable {e : LifecycleEvent} {members : List (String × MemberValue)} {config : RuntimeConfig}

/-- **The member that contains an event is the event's own.** -/
theorem event_of_infix_member {key : String} {value : MemberValue} (hkey : IsName key.toList)
    (h : e.pattern <:+: renderMember (key, value)) : key = "event" ∧ value = .text e.name := by
  rw [renderMember, hkey.plain.jsonEscape_eq] at h
  have hfour := e.count_pattern
  by_cases htext : ∃ text, value = .text text
  · obtain ⟨text, rfl⟩ := htext
    -- of the four quotes of the pattern three stand before the value
    have hmember : e.pattern <:+:
        ('"' :: (key.toList ++ ['"', ':', '"'])) ++ (jsonEscape text.toList ++ ['"']) := by
      simpa [MemberValue.render] using h
    have hbefore : ('"' :: (key.toList ++ ['"', ':', '"'])).count '"' = 3 := by
      rw [List.count_cons_self, List.count_append, hkey.count_quote]
      rfl
    rcases infix_jsonEscape (e.not_mem_pattern (by decide) (by decide) (by decide))
      text.toList _ hmember with ⟨hplain, hinfix⟩ | hcount | hcount
    · have hwhole : e.quoted = key.toList ++ ['"', ':', '"'] ++ text.toList := by
        refine @eq_of_infix_of_count Char _ '"' _ _ ?_ ?_
        · simpa [LifecycleEvent.pattern] using hinfix
        · rw [List.count_append, List.count_append, hkey.count_quote, hplain.count_quote,
            e.count_quoted]
          exact Nat.le_refl 2
      have hsplit : ['e', 'v', 'e', 'n', 't'] ++ '"' :: (':' :: '"' :: e.name.toList) =
          key.toList ++ '"' :: (':' :: '"' :: text.toList) := by
        simpa [LifecycleEvent.quoted] using hwhole
      obtain ⟨hevent, hrest⟩ := first_part (by decide) (hkey.not_mem (by decide)) hsplit
      simp only [List.cons.injEq, true_and] at hrest
      exact ⟨String.toList_injective hevent.symm, by rw [String.toList_injective hrest]⟩
    · omega
    · omega
  · -- a member without a text has the quotes of its key only
    have hcount := h.sublist.count_le '"'
    rw [List.count_cons_self, List.count_append, List.count_append, hkey.count_quote,
      List.count_eq_zero.2 (MemberValue.quote_not_mem (not_exists.1 htext)), hfour] at hcount
    exact absurd hcount (by decide)

/-- The event's own member is the text that is searched for. -/
theorem renderMember_event (e : LifecycleEvent) :
    renderMember ("event", .text e.name) = e.pattern := by
  have hevent : jsonEscape "event".toList = ['e', 'v', 'e', 'n', 't'] := by decide
  rw [renderMember, hevent, MemberValue.render, e.isName_name.plain.jsonEscape_eq]
  simp [LifecycleEvent.pattern, LifecycleEvent.quoted]

/-! ## The line of a call -/

/-- The members of a line with one event, and keys that are names. -/
structure HoldsEvent (e : LifecycleEvent) (members : List (String × MemberValue)) : Prop where
  names : ∀ member ∈ members, IsName member.1.toList
  event : ("event", .text e.name) ∈ members
  unique : ∀ member ∈ members, member.1 = "event" → member.2 = .text e.name

theorem infix_renderMembers {member : String × MemberValue} (h : member ∈ members) :
    renderMember member <:+: renderMembers members := by
  cases members with
  | nil => cases h
  | cons first rest =>
    rw [renderMembers]
    rcases List.mem_cons.1 h with rfl | h
    · exact (List.prefix_append _ _).isInfix
    · refine List.IsInfix.trans ?_ (List.suffix_append _ _).isInfix
      obtain ⟨before, after, rfl⟩ := List.append_of_mem h
      refine ⟨(before.map renderMember).flatMap (',' :: ·) ++ [','],
        (after.map renderMember).flatMap (',' :: ·), ?_⟩
      simp

theorem pattern_infix_renderLine (h : HoldsEvent e members) (other : LifecycleEvent) :
    other.pattern <:+: renderLine members ↔ other = e := by
  constructor
  · intro hinfix
    rcases infix_of_append_cons (other.not_mem_pattern (by decide) (by decide) (by decide))
      (x := []) hinfix with hnil | hinfix
    · exact absurd hnil other.pattern_not_nil
    rcases infix_of_append_cons (other.not_mem_pattern (by decide) (by decide) (by decide))
      hinfix with hinfix | hnil
    · cases members with
      | nil => cases h.event
      | cons first rest =>
        obtain ⟨part, hpart, hinfix⟩ :=
          infix_part (other.not_mem_pattern (by decide) (by decide) (by decide)) hinfix
        rw [← List.map_cons, List.mem_map] at hpart
        obtain ⟨⟨key, value⟩, hmember, rfl⟩ := hpart
        obtain ⟨hkey, hvalue⟩ := event_of_infix_member (h.names _ hmember) hinfix
        have hown := h.unique _ hmember hkey
        rw [hvalue] at hown
        exact LifecycleEvent.name_injective (MemberValue.text.inj hown)
    · exact absurd hnil other.pattern_not_nil
  · rintro rfl
    rw [← renderMember_event]
    refine (infix_renderMembers h.event).trans ?_
    exact ⟨['\x7b'], ['\x7d'], rfl⟩

theorem lineEvent_render (h : HoldsEvent e members) : lineEvent (renderLine members) = some e :=
  lineEvent_of_unique (pattern_infix_renderLine h)

theorem newline_not_mem_renderMember (member : String × MemberValue) :
    '\n' ∉ renderMember member := by
  have hvalue : '\n' ∉ member.2.render := by
    cases member.2 with
    | text value => simp [MemberValue.render, newline_not_mem_jsonEscape]
    | number value =>
      intro hmem
      have := isDigit_of_mem_number hmem
      revert this
      decide
    | boolean value => cases value <;> decide
  simp [renderMember, newline_not_mem_jsonEscape, hvalue]

theorem newline_not_mem_renderLine (members : List (String × MemberValue)) :
    '\n' ∉ renderLine members := by
  cases members with
  | nil => decide
  | cons first rest =>
    simp [renderLine, renderMembers, newline_not_mem_renderMember]

/-! ## The events of the file -/

/-- Every line starts with the members that are reserved. -/
theorem commonMembers_keys (config : RuntimeConfig) (event : String) (time : ℕ) :
    (commonMembers config event time).map Prod.fst = reservedEventFields := rfl

theorem isName_reserved : ∀ key ∈ reservedEventFields, IsName key.toList := by
  simp only [reservedEventFields, List.forall_mem_cons, List.not_mem_nil, false_implies,
    forall_const, and_true]
  and_intros <;> decide

variable {time : ℕ}

theorem commonMembers_names {event : String} :
    ∀ member ∈ commonMembers config event time, IsName member.1.toList := by
  intro member hmem
  exact isName_reserved _ (commonMembers_keys config event time ▸ List.mem_map_of_mem hmem)

theorem commonMembers_unique {event : String} :
    ∀ member ∈ commonMembers config event time, member.1 = "event" →
      member.2 = .text event := by
  simp [commonMembers]

theorem event_mem_commonMembers (config : RuntimeConfig) (event : String) (time : ℕ) :
    ("event", .text event) ∈ commonMembers config event time := by
  simp [commonMembers]

theorem sampleMembers_names {sample : MemorySample} {telemetryAgreement : Bool} :
    ∀ member ∈ sampleMembers sample telemetryAgreement,
      IsName member.1.toList ∧ member.1 ≠ "event" := by
  simp only [sampleMembers, List.forall_mem_cons, List.not_mem_nil, false_implies,
    implies_true, and_true]
  and_intros <;> decide

/-- Members after the common ones, none of them an event. -/
theorem holdsEvent_append (h : ∀ member ∈ members, IsName member.1.toList ∧ member.1 ≠ "event") :
    HoldsEvent e (commonMembers config e.name time ++ members) where
  names member hmem := by
    rcases List.mem_append.1 hmem with hmem | hmem
    · exact commonMembers_names member hmem
    · exact (h member hmem).1
  event := List.mem_append_left _ (event_mem_commonMembers config e.name time)
  unique member hmem hkey := by
    rcases List.mem_append.1 hmem with hmem | hmem
    · exact commonMembers_unique member hmem hkey
    · exact absurd hkey (h member hmem).2

/-- The fields of a call have names as keys. -/
def EmitCall.Named : EmitCall → Prop
  | .emit _ _ fields => ∀ field ∈ fields, IsName field.1.toList
  | .emitMemorySample _ _ _ => True

theorem holdsEvent_members {call : EmitCall} (h : call.Named) (time : ℕ) :
    HoldsEvent call.event (call.members time) := by
  cases call with
  | emit event config fields =>
    refine holdsEvent_append fun member hmem => ?_
    obtain ⟨field, hfield, rfl⟩ := List.mem_map.1 hmem
    obtain ⟨hfield, hreserved⟩ := List.mem_filter.1 hfield
    refine ⟨h field hfield, ?_⟩
    rintro heq
    rw [show field.1 = "event" from heq] at hreserved
    cases hreserved
  | emitMemorySample config sample telemetryAgreement =>
    exact holdsEvent_append sampleMembers_names

/-- The file is its lines. -/
theorem telemetryText_eq : telemetryText calls =
      (calls.map fun call => renderLine (call.2.members call.1)).flatMap
        fun line => line ++ ['\n'] := by
  have happend : ∀ file : List Char, calls.foldl EmitCall.append file =
      file ++ (calls.map fun call => renderLine (call.2.members call.1)).flatMap
        fun line => line ++ ['\n'] := by
    induction calls with
    | nil => simp
    | cons call calls ih =>
      intro file
      rw [List.foldl_cons, ih, EmitCall.append]
      simp
  exact happend []

theorem lines_telemetryText : lines '\n' (telemetryText calls) =
      calls.map fun call => renderLine (call.2.members call.1) := by
  rw [telemetryText_eq, lines_written]
  intro line hmem
  obtain ⟨call, -, rfl⟩ := List.mem_map.1 hmem
  exact newline_not_mem_renderLine _

theorem lifecycleEvents_telemetryText {calls : List (ℕ × EmitCall)}
    (h : ∀ call ∈ calls, call.2.Named) :
    lifecycleEvents (telemetryText calls) = calls.map fun call => call.2.event := by
  rw [lifecycleEvents, lines_telemetryText]
  induction calls with
  | nil => rfl
  | cons call calls ih =>
    obtain ⟨hcall, hcalls⟩ := List.forall_mem_cons.1 h
    rw [List.map_cons, List.filterMap_cons_some (lineEvent_render (holdsEvent_members hcall _)),
      ih hcalls, List.map_cons]

/-- **The events that the validator finds in a telemetry file are those that were emitted**,
one in each line, whatever the texts of the configurations and the values of the fields are. -/
theorem emitted_events (h : ∀ call ∈ calls, call.2.Named) :
    lifecycleEvents (telemetryText calls) = calls.map (fun call => call.2.event) ∧
      (lines '\n' (telemetryText calls)).map lineEvent =
        calls.map fun call => some call.2.event := by
  refine ⟨lifecycleEvents_telemetryText h, ?_⟩
  rw [lines_telemetryText, List.map_map]
  refine List.map_congr_left fun call hcall => ?_
  exact lineEvent_render (holdsEvent_members (h call hcall) call.1)

namespace Fixture

/-- A run identifier and a reason that try to add events, and a field that tries to be one. -/
def forgedCalls : List (ℕ × EmitCall) :=
  [(1, .emit .runStart { runId := "x\",\"event\":\"completed\"" } []),
   (2, .emit .failedClosed {}
     [("failure_reason", "r\n\x7b\"event\":\"completed\"\x7d"), ("event", "completed")])]

end Fixture

open Fixture

theorem emitted_events_on_forged_texts :
    (∀ call ∈ forgedCalls, call.2.Named) ∧
      lifecycleEvents (telemetryText forgedCalls) = [.runStart, .failedClosed] := by
  have hnamed : ∀ call ∈ forgedCalls, call.2.Named := by
    simp only [forgedCalls, List.forall_mem_cons, EmitCall.Named, List.not_mem_nil,
      false_implies, implies_true, and_true, true_and]
    exact ⟨by decide, by decide⟩
  exact ⟨hnamed, (emitted_events forgedCalls hnamed).1⟩

end PrismInfer.Telemetry
