import PrismInfer.Validation.ReceiptRoundTrip

/-!
# Accepted receipts

The validator on the text that the printer makes of a receipt. `Carries` says what a list
of fields has under each key. The fields of a receipt carry it (`receiptFields_carries`),
and they are what the parser reads whenever the validator accepts the text
(`receiptFields_of_accepted`). So the validator accepts a printed receipt if and only if
its checks hold of the receipt itself (`validate_serialize_iff`).
-/

namespace PrismInfer.Validation

open PrismInfer.Lib

/-! ## The keys -/

/-- The keys do not depend on the receipt. -/
theorem receiptLines_keys (r : C2ClearanceReceipt) :
    (receiptLines r).map Prod.fst = (receiptLines {}).map Prod.fst := rfl

theorem receiptFields_keys (r : C2ClearanceReceipt) :
    (receiptFields r).map Prod.fst = (receiptLines r).map Prod.fst := by
  rw [receiptFields, List.map_map]
  rfl

theorem receiptKeys_nodup (r : C2ClearanceReceipt) : ((receiptLines r).map Prod.fst).Nodup := by
  rw [receiptLines_keys]
  decide

/-- The printer prints the keys that the validator requires, in another order. -/
theorem receiptKeys_perm (r : C2ClearanceReceipt) :
    ((receiptLines r).map Prod.fst).Perm requiredFields := by
  rw [receiptLines_keys]
  decide

theorem plain_ofList {text : List Char} (h : text.all isPlain = true) :
    ∀ c ∈ (String.ofList text).toList, isPlain c = true := by
  rw [String.toList_ofList]
  exact List.all_eq_true.1 h

theorem receiptLines_plainKey (r : C2ClearanceReceipt) :
    ∀ line ∈ receiptLines r, PlainKey line := by
  rw [receiptLines]
  repeat' first
    | exact List.forall_mem_nil _
    | refine List.forall_mem_cons.2 ⟨plain_ofList rfl, ?_⟩

/-- The keys of the strings that are printed as they are. -/
def rawKeys : List String :=
  ["schema_version", "receipt_class", "reviewed_sha", "source_tree_sha", "worker_sha256",
    "gpu_uuid", "review_status", "claim_scope", "last_good_stage", "terminal_trigger_sha256",
    "last_good_sample_sha256", "pre_cleanup_evidence_sha256", "evidence_bundle_sha256"]

def Printed.isRaw : Printed → Bool
  | .raw _ => true
  | _ => false

variable {r : C2ClearanceReceipt} {text : String} {json : FlatJsonFields} {length : ℕ}
  {lines : List (String × Printed)} {allowEmpty : Bool}

/-- `rawKeys` has them all. -/
theorem mem_rawKeys {line : String × Printed} (hline : line ∈ receiptLines r)
    (hraw : line.2.isRaw = true) : line.1 ∈ rawKeys := by
  have hkeys : ((receiptLines r).filter fun line => line.2.isRaw).map Prod.fst = rawKeys := rfl
  rw [← hkeys]
  exact List.mem_map_of_mem (List.mem_filter.2 ⟨hline, hraw⟩)

/-! ## The fields by their types -/

/-- The strings of a receipt under their keys, with the constants. -/
def receiptTexts (r : C2ClearanceReceipt) : List (String × String) :=
  [("schema_version", "prisminfer-c2-clearance-receipt-v1"),
    ("receipt_class", "c2-clearance-candidate"), ("repository", r.repository),
    ("reviewed_sha", r.reviewedSha), ("source_tree_sha", r.sourceTreeSha),
    ("worker_sha256", r.workerSha256), ("worker_approval_identity", r.workerApprovalIdentity),
    ("workflow_run_id", r.workflowRunId), ("authorization_id", r.authorizationId),
    ("gpu_uuid", r.gpuUuid), ("case_name", r.caseName), ("status", r.status),
    ("failure_reason", r.failureReason), ("cleanup_status", r.cleanupStatus),
    ("review_status", "pending-independent-review"),
    ("claim_scope", "synthetic-c2-candidate-non-promotable"), ("lease_id", r.leaseId),
    ("job_identity", r.jobIdentity), ("process_wddm_source", r.processWddmSource),
    ("last_good_stage", r.lastGoodStage),
    ("terminal_trigger_canonical", r.terminalTriggerCanonical),
    ("terminal_trigger_sha256", r.terminalTriggerSha256),
    ("last_good_sample_sha256", r.lastGoodSampleSha256),
    ("pre_cleanup_evidence_sha256", r.preCleanupEvidenceSha256),
    ("evidence_bundle_sha256", r.evidenceBundleSha256)]

/-- The numbers, by their types. -/
def receiptInt32s (r : C2ClearanceReceipt) : List (String × Int32) :=
  [("adapter_luid_high", r.adapterLuidHigh),
    ("last_gpu_temperature_celsius", r.lastGpuTemperatureCelsius),
    ("last_gpu_slowdown_celsius", r.lastGpuSlowdownCelsius),
    ("pre_gpu_temperature_celsius", r.preGpuTemperatureCelsius),
    ("final_gpu_temperature_celsius", r.finalGpuTemperatureCelsius)]

def receiptUInt32s (r : C2ClearanceReceipt) : List (String × UInt32) :=
  [("adapter_luid_low", r.adapterLuidLow), ("adapter_index", r.adapterIndex),
    ("worker_timeout_milliseconds", r.workerTimeoutMilliseconds),
    ("root_process_id", r.rootProcessId), ("heartbeat_count", r.heartbeatCount)]

def receiptUInt64s (r : C2ClearanceReceipt) : List (String × UInt64) :=
  [("post_admission_payload_bytes", r.postAdmissionPayloadBytes),
    ("maximum_payload_bytes", r.maximumPayloadBytes),
    ("context_cuda_free_bytes", r.contextCudaFreeBytes),
    ("context_cuda_total_bytes", r.contextCudaTotalBytes),
    ("last_heartbeat_cuda_free_bytes", r.lastHeartbeatCudaFreeBytes),
    ("last_heartbeat_cuda_total_bytes", r.lastHeartbeatCudaTotalBytes),
    ("pre_wddm_local_usage_bytes", r.preWddmLocalUsageBytes),
    ("final_wddm_local_usage_bytes", r.finalWddmLocalUsageBytes),
    ("cleanup_wddm_positive_delta_bytes", r.cleanupWddmPositiveDeltaBytes),
    ("cleanup_wddm_tolerance_bytes", r.cleanupWddmToleranceBytes),
    ("last_sample_monotonic_milliseconds", r.lastSampleMonotonicMilliseconds),
    ("last_sample_wddm_local_budget_bytes", r.lastSampleWddmLocalBudgetBytes),
    ("last_sample_wddm_local_usage_bytes", r.lastSampleWddmLocalUsageBytes),
    ("process_wddm_sample_monotonic_milliseconds", r.processWddmSampleMonotonicMilliseconds),
    ("process_wddm_current_bytes", r.processWddmCurrentBytes),
    ("process_wddm_peak_bytes", r.processWddmPeakBytes),
    ("last_host_sample_monotonic_milliseconds", r.lastHostSampleMonotonicMilliseconds),
    ("last_host_memory_available_bytes", r.lastHostMemoryAvailableBytes),
    ("last_host_commit_available_bytes", r.lastHostCommitAvailableBytes),
    ("last_thermal_sample_monotonic_milliseconds", r.lastThermalSampleMonotonicMilliseconds),
    ("pre_host_memory_available_bytes", r.preHostMemoryAvailableBytes),
    ("final_host_memory_available_bytes", r.finalHostMemoryAvailableBytes),
    ("pre_host_commit_available_bytes", r.preHostCommitAvailableBytes),
    ("final_host_commit_available_bytes", r.finalHostCommitAvailableBytes)]

/-- The flags that are not constant. -/
def receiptFlags (r : C2ClearanceReceipt) : List (String × Bool) :=
  [("context_ready_observed", r.contextReadyObserved),
    ("token_consumed_observed", r.tokenConsumedObserved),
    ("worker_exit_observed", r.workerExitObserved), ("job_tree_empty", r.jobTreeEmpty),
    ("job_accounting_reconciled", r.jobAccountingReconciled),
    ("device_resources_reconciled", r.deviceResourcesReconciled),
    ("artifact_handles_closed", r.artifactHandlesClosed),
    ("temporary_files_reconciled", r.temporaryFilesReconciled),
    ("last_gpu_thermal_throttling", r.lastGpuThermalThrottling),
    ("last_gpu_power_brake_slowdown", r.lastGpuPowerBrakeSlowdown),
    ("last_wddm_available", r.lastWddmAvailable),
    ("last_process_wddm_available", r.lastProcessWddmAvailable),
    ("last_host_available", r.lastHostAvailable),
    ("last_thermal_available", r.lastThermalAvailable)]

/-- **A receipt in fields.** Every key has the field of the receipt, as a value of its
type; the fixed keys have their constants. -/
@[mk_iff]
structure Carries (json : FlatJsonFields) (r : C2ClearanceReceipt) : Prop where
  texts : ∀ field ∈ receiptTexts r, requireString json field.1 = some field.2
  int32s : ∀ field ∈ receiptInt32s r, requireInt32 json field.1 = some field.2
  uint32s : ∀ field ∈ receiptUInt32s r, requireUInt32 json field.1 = some field.2
  uint64s : ∀ field ∈ receiptUInt64s r, requireUInt64 json field.1 = some field.2
  flags : ∀ field ∈ receiptFlags r, requireBoolValue json field.1 = some field.2
  promotable : requireBool json "promotable" false = true
  c2Credit : requireBool json "c2_credit" false = true

/-! ## Fields under their keys -/

section Field

variable {key : String}

theorem requireString_of_lookup (h : json.lookup key = some ⟨text, .string⟩) :
    requireString json key = some text := by
  rw [requireString, h]

theorem requireBoolValue_of_lookup {value : Bool}
    (h : json.lookup key = some ⟨booleanText value, .boolean⟩) :
    requireBoolValue json key = some value := by
  rw [requireBoolValue, h]
  cases value <;> rfl

theorem requireUInt32_of_lookup {value : UInt32}
    (h : json.lookup key = some ⟨toString (value.toNat : ℤ), .number⟩) :
    requireUInt32 json key = some value := by
  rw [requireUInt32, h, Option.bind_some, parseUnsigned_toString value.toNat_lt,
    Option.map_some, UInt32.ofNat_toNat]

theorem requireUInt64_of_lookup {value : UInt64}
    (h : json.lookup key = some ⟨toString (value.toNat : ℤ), .number⟩) :
    requireUInt64 json key = some value := by
  rw [requireUInt64, h, Option.bind_some, parseUnsigned_toString value.toNat_lt,
    Option.map_some, UInt64.ofNat_toNat]

/-- A printed number has no plus sign, which the reader would refuse. -/
theorem requireInt32_of_lookup {value : Int32}
    (h : json.lookup key = some ⟨toString value.toInt, .number⟩) :
    requireInt32 json key = some value := by
  obtain ⟨hnumeral, hvalue⟩ := signedNumeral_toString value.toInt
  have hplus : (toString value.toInt).toList.head? ≠ some '+' := by
    intro hhead
    have hchar := (isNumberChar_toString value.toInt).2 '+' (List.mem_of_mem_head? hhead)
    exact absurd hchar (by decide)
  rw [requireInt32, h, Option.bind_some, parseSigned]
  dsimp only
  rw [hvalue, if_pos ⟨rfl, hplus, hnumeral, value.le_toInt, value.toInt_lt⟩, Option.map_some,
    Int32.ofInt_toInt]

variable (r)

theorem lookup_field {value : FlatJsonValue} (h : (key, value) ∈ receiptFields r) :
    (receiptFields r).lookup key = some value := by
  refine lookup_of_mem ?_ h
  rw [receiptFields_keys]
  exact receiptKeys_nodup r

/-- The rows of a table, printed, are among the fields. -/
theorem lookup_row {α : Type} {table : List (String × α)} (print : α → FlatJsonValue)
    (rows : FlatJsonFields) (hrows : table.map (fun field => (field.1, print field.2)) = rows)
    (hsub : rows ⊆ receiptFields r) {field : String × α} (hmem : field ∈ table) :
    (receiptFields r).lookup field.1 = some (print field.2) := by
  subst hrows
  exact lookup_field r (hsub (List.mem_map_of_mem hmem))

/-- The fields from a place on. -/
def rowsAt (i n : ℕ) : FlatJsonFields :=
  ((receiptFields r).drop i).take n

theorem rowsAt_subset (i n : ℕ) : rowsAt r i n ⊆ receiptFields r :=
  fun _ hmem => List.mem_of_mem_drop (List.mem_of_mem_take hmem)

end Field

/-- The fields of a receipt carry it. -/
theorem receiptFields_carries (r : C2ClearanceReceipt) : Carries (receiptFields r) r := by
  have hrows := rowsAt_subset r
  constructor
  · intro field hmem
    exact requireString_of_lookup (lookup_row r (⟨·, .string⟩)
      ((receiptFields r).filter fun field => field.2.kind = .string) rfl
      (List.filter_subset_self _) hmem)
  · intro field hmem
    exact requireInt32_of_lookup (lookup_row r (⟨toString ·.toInt, .number⟩)
      (rowsAt r 27 1 ++ (rowsAt r 51 2 ++ rowsAt r 57 2)) rfl
      (List.append_subset.2 ⟨hrows 27 1, List.append_subset.2 ⟨hrows 51 2, hrows 57 2⟩⟩) hmem)
  · intro field hmem
    exact requireUInt32_of_lookup (lookup_row r (fun n => ⟨toString (n.toNat : ℤ), .number⟩)
      (rowsAt r 28 3 ++ rowsAt r 59 2) rfl (List.append_subset.2 ⟨hrows 28 3, hrows 59 2⟩) hmem)
  · intro field hmem
    exact requireUInt64_of_lookup (lookup_row r (fun n => ⟨toString (n.toNat : ℤ), .number⟩)
      (rowsAt r 31 20 ++ rowsAt r 53 4) rfl (List.append_subset.2 ⟨hrows 31 20, hrows 53 4⟩) hmem)
  · intro field hmem
    exact requireBoolValue_of_lookup (lookup_row r (⟨booleanText ·, .boolean⟩) (rowsAt r 61 14) rfl
      (hrows 61 14) hmem)
  · exact beq_iff_eq.2 (lookup_field r (List.mem_of_getElem? (i := 16) rfl))
  · exact beq_iff_eq.2 (lookup_field r (List.mem_of_getElem? (i := 17) rfl))

namespace Carries

variable (h : Carries json r)

include h

/-- The validator works on the receipt that was printed. -/
theorem readReceipt_eq : readReceipt json = r := by
  simp only [carries_iff, receiptTexts, receiptInt32s, receiptUInt32s, receiptUInt64s,
    receiptFlags, List.forall_mem_cons] at h
  simp only [readReceipt, h]
  rfl

/-- Nothing that the validator asks for is missing. -/
theorem present : stringsPresent json = true ∧ classified json = true ∧
    boundsPresent json = true ∧ hashFieldsPresent json = true := by
  simp only [carries_iff, receiptTexts, receiptInt32s, receiptUInt32s, receiptUInt64s,
    receiptFlags, List.forall_mem_cons] at h
  simp only [stringsPresent, classified, boundsPresent, hashFieldsPresent, List.all_cons,
    List.all_nil, h, Option.isSome_some, beq_self_eq_true, Bool.and_true, and_self]

end Carries

/-! ## The validator, step by step -/

section Validator

variable {sha256 : List Char → Option String}

theorem unknownField_eq_none_iff :
    unknownField json = none ↔ ∀ key ∈ json.map Prod.fst, key ∈ requiredFields := by
  rw [unknownField, List.find?_eq_none]
  simp only [List.mem_mergeSort, Bool.not_eq_true', Bool.not_eq_false, List.contains_iff_mem]

/-- The checks of the validator, in their order. -/
theorem validateFields_eq_ok_iff : validateFields sha256 json = .ok () ↔
      json.length = requiredFields.length ∧ (∀ key ∈ json.map Prod.fst, key ∈ requiredFields) ∧
        (stringsPresent json ∧ classified json ∧ IdentityValid (readReceipt json)) ∧
        (boundsPresent json ∧ BoundsValid (readReceipt json)) ∧
        (hashFieldsPresent json ∧ hashesMatch sha256 (readReceipt json)) := by
  rw [← unknownField_eq_none_iff, validateFields]
  constructor
  · intro h
    split at h
    · cases h
    rename_i hlength
    split at h
    · cases h
    rename_i hunknown
    split at h
    · cases h
    rename_i hidentity
    split at h
    · cases h
    rename_i hbounds
    split at h
    · cases h
    rename_i hhashes
    exact ⟨not_not.1 hlength, hunknown, not_not.1 hidentity, not_not.1 hbounds, not_not.1 hhashes⟩
  · rintro ⟨hlength, hunknown, hidentity, hbounds, hhashes⟩
    rw [if_neg (not_not.2 hlength), hunknown]
    dsimp only
    rw [if_neg (not_not.2 hidentity), if_neg (not_not.2 hbounds), if_neg (not_not.2 hhashes)]

/-- Fields that carry a receipt are checked as the receipt is. -/
theorem Carries.validateFields_iff (h : Carries json r)
    (hkeys : (json.map Prod.fst).Perm requiredFields) : validateFields sha256 json = .ok () ↔
      IdentityValid r ∧ BoundsValid r ∧ hashesMatch sha256 r = true := by
  rw [validateFields_eq_ok_iff, h.readReceipt_eq]
  constructor
  · rintro ⟨-, -, ⟨-, -, hidentity⟩, ⟨-, hbounds⟩, ⟨-, hhashes⟩⟩
    exact ⟨hidentity, hbounds, hhashes⟩
  · rintro ⟨hidentity, hbounds, hhashes⟩
    obtain ⟨hstrings, hclassified, hboundsPresent, hhashFields⟩ := h.present
    refine ⟨?_, fun key => hkeys.mem_iff.1, ⟨hstrings, hclassified, hidentity⟩,
      ⟨hboundsPresent, hbounds⟩, ⟨hhashFields, hhashes⟩⟩
    rw [← hkeys.length_eq, List.length_map]

/-! ## Formats without escapes -/

/-- Every character stands for itself, and no escape stands for it. -/
def Clear (text : String) : Prop :=
  ∀ c ∈ text.toList, isPlain c = true ∧ isEscapable c = false

theorem clear_ofList {text : List Char}
    (h : (text.all fun c => isPlain c && !isEscapable c) = true) : Clear (String.ofList text) := by
  intro c hc
  rw [String.toList_ofList] at hc
  simpa using List.all_eq_true.1 h c hc

theorem clear_hexDigit {c : Char} (h : isLowerHexDigit c = true) :
    isPlain c = true ∧ isEscapable c = false := by
  -- the special characters are all outside the two ranges of digits
  have hne : ∀ d, isLowerHexDigit d = false → c ≠ d := by
    rintro d hd rfl
    rw [h] at hd
    cases hd
  have hcontrol : ¬c < ' ' := by
    simp only [isLowerHexDigit, Bool.or_eq_true, Bool.and_eq_true, decide_eq_true_eq] at h
    rcases h with ⟨h, -⟩ | ⟨h, -⟩
    · exact Char.not_lt.2 (Char.le_trans (show ' ' ≤ '0' by decide) h)
    · exact Char.not_lt.2 (Char.le_trans (show ' ' ≤ 'a' by decide) h)
  constructor
  · simp [isPlain, hcontrol, hne '"' (by decide), hne '\\' (by decide)]
  · simp [isEscapable, hne '"' (by decide), hne '\\' (by decide), hne '/' (by decide),
      hne '\n' (by decide), hne '\r' (by decide), hne '\t' (by decide)]

/-- A digest has no escapes. -/
theorem clear_of_lowerHex (h : lowerHex text length = true) : Clear text := by
  intro c hc
  rw [lowerHex, Bool.and_eq_true] at h
  exact clear_hexDigit (List.all_eq_true.1 h.2 c hc)

/-- Nor has a UUID: behind its first four characters there are digits and hyphens. -/
theorem clear_of_gpuUuid (h : canonicalGpuUuid text = true) : Clear text := by
  rw [canonicalGpuUuid, Bool.and_eq_true, Bool.and_eq_true, List.isPrefixOf_iff_prefix] at h
  obtain ⟨⟨-, hstart⟩, hrest⟩ := h
  intro c hc
  rw [← List.take_append_drop 4 text.toList] at hc
  rcases List.mem_append.1 hc with hc | hc
  · have hfour : ['G', 'P', 'U', '-'] = text.toList.take 4 := List.prefix_iff_eq_take.1 hstart
    have hclear : Clear (String.ofList ['G', 'P', 'U', '-']) := clear_ofList (by decide)
    rw [← hfour] at hc
    exact hclear c (by rwa [String.toList_ofList])
  · rw [← List.zipIdx_map_fst 0 text.toList, ← List.map_drop] at hc
    obtain ⟨⟨c, i⟩, hmem, rfl⟩ := List.mem_map.1 hc
    have hchar := List.all_eq_true.1 hrest _ hmem
    dsimp only at hchar
    split at hchar
    · obtain rfl : c = '-' := beq_iff_eq.1 hchar
      exact ⟨rfl, rfl⟩
    · exact clear_hexDigit hchar

theorem clear_of_stage (h : text ∈ ["pre-context", "post-context", "watchdog"]) : Clear text := by
  simp only [List.mem_cons, List.not_mem_nil, or_false] at h
  rcases h with rfl | rfl | rfl <;> exact clear_ofList rfl

section Accepted

variable {key : String}

/-- A string that is read under a key and has passed a check. -/
theorem clear_of_read {P : String → Prop} (hP : ∀ text, P text → Clear text)
    (h : P ((requireString json key).getD "")) :
    ∀ text, requireString json key = some text → Clear text := by
  intro text htext
  rw [htext] at h
  exact hP text h

/-- A string that is read under a key and compared with a constant. -/
theorem clear_of_constant {constant : List Char}
    (h : (requireString json key == some (String.ofList constant)) = true)
    (hconstant : (constant.all fun c => isPlain c && !isEscapable c) = true) :
    ∀ text, requireString json key = some text → Clear text := by
  intro text htext
  rw [htext, beq_iff_eq, Option.some_inj] at h
  rw [h]
  exact clear_ofList hconstant

end Accepted

/-- The strings that are printed as they are have passed a check. -/
theorem clear_of_accepted (h : validateFields sha256 json = .ok ()) :
    ∀ key ∈ rawKeys, ∀ text, requireString json key = some text → Clear text := by
  obtain ⟨-, -, ⟨-, hclass, hid⟩, -, -⟩ := validateFields_eq_ok_iff.1 h
  simp only [classified, Bool.and_eq_true] at hclass
  obtain ⟨⟨⟨⟨⟨⟨⟨hschema, hreceipt⟩, hreview⟩, hscope⟩, -⟩, -⟩, -⟩, -⟩ := hclass
  have hhex {key : String} {length : ℕ} := @clear_of_read json key (lowerHex · length = true)
    fun _ => clear_of_lowerHex
  simp only [rawKeys, List.forall_mem_cons]
  exact ⟨clear_of_constant hschema rfl, clear_of_constant hreceipt rfl, hhex hid.reviewedSha,
    hhex hid.sourceTreeSha, hhex hid.workerSha256,
    clear_of_read (fun _ => clear_of_gpuUuid) hid.gpuUuid, clear_of_constant hreview rfl,
    clear_of_constant hscope rfl, clear_of_read (fun _ => clear_of_stage) hid.lastGoodStage,
    hhex hid.terminalTriggerSha256, hhex hid.lastGoodSampleSha256,
    hhex hid.preCleanupEvidenceSha256, hhex hid.evidenceBundleSha256, List.forall_mem_nil _⟩

theorem keys_of_read {read : FlatJsonFields} (h : List.Forall₂ ReadLine lines read) :
    read.map Prod.fst = lines.map Prod.fst := by
  induction h with
  | nil => rfl
  | cons hline _ ih => rw [List.map_cons, List.map_cons, hline.1, ih]

/-- Members that are read line by line, from strings without escapes. -/
theorem values_of_read {read : FlatJsonFields} (h : List.Forall₂ ReadLine lines read)
    (hclear : ∀ line ∈ lines, line.2.isRaw = true → ∀ text, (line.1, ⟨text, .string⟩) ∈ read →
      Clear text) :
    read = lines.map fun line => (line.1, line.2.value) := by
  induction h with
  | nil => rfl
  | @cons line member lines read hline _ ih =>
    obtain ⟨key, value⟩ := member
    obtain ⟨hkey, hvalue⟩ := hline
    obtain rfl : key = line.1 := hkey
    -- only a raw string can be read as another one, if it has an escape
    have hfirst : value = line.2.value := by
      cases hprinted : line.2 with
      | escaped | number | boolean => rw [hprinted] at hvalue; exact hvalue
      | raw text =>
        rw [hprinted] at hvalue
        obtain ⟨body, hbody, rfl⟩ := hvalue
        have htext := hclear line List.mem_cons_self (by rw [hprinted]; rfl) _ List.mem_cons_self
        rw [Clear, String.toList_ofList] at htext
        rw [← raw_of_unescaped hbody fun c hc => (htext c hc).2, String.ofList_toList]
        rfl
    rw [List.map_cons, hfirst, ← ih]
    intro line hline hraw text htext
    exact hclear line (List.mem_cons_of_mem _ hline) hraw text (List.mem_cons_of_mem _ htext)

/-- The last line is a flag, so that the text does not end within a string. -/
theorem receiptLines_getLast (r : C2ClearanceReceipt) :
    ∀ line ∈ (receiptLines r).getLast?, ∀ text, line.2 ≠ .raw text := by
  intro line hline text hraw
  obtain rfl : ("last_thermal_available", .boolean r.lastThermalAvailable) = line :=
    Option.some_inj.1 hline
  cases hraw

/-- **What is accepted was read as it was printed.** -/
theorem receiptFields_of_accepted
    (hparse : parseFlatJsonObject (serializeC2ClearanceReceipt r) = .ok json)
    (h : validateFields sha256 json = .ok ()) : json = receiptFields r := by
  have hne : receiptLines r ≠ [] := List.cons_ne_nil _ _
  obtain ⟨fuel, -, hobject⟩ := parseFlatJsonObject_lines hne
  rw [serializeC2ClearanceReceipt, hobject] at hparse
  obtain ⟨read, hjson, -, hread⟩ :=
    lines_read (receiptLines_plainKey r) (receiptLines_getLast r) hne hparse
  obtain rfl : json = read := hjson
  -- the validator has counted the fields, so that no line gave two of them
  have hcount : json.length = (receiptLines r).length := by
    rw [(validateFields_eq_ok_iff.1 h).1, ← (receiptKeys_perm r).length_eq, List.length_map]
  have hlines := hread hcount
  -- the keys are those of the lines, so each is there once
  have hnodup : (json.map Prod.fst).Nodup := by
    rw [keys_of_read hlines]
    exact receiptKeys_nodup r
  rw [receiptFields]
  refine values_of_read hlines ?_
  intro line hline hraw text htext
  refine clear_of_accepted h line.1 (mem_rawKeys hline hraw) text ?_
  rw [requireString, lookup_of_mem hnodup htext]

/-! ## The size of a receipt -/

/-- The value is read as it is printed, and takes no more than the given characters. -/
def Fits (length : ℕ) (p : Printed) : Prop :=
  Readable p ∧ p.render.length ≤ length

theorem fits_of_clear (h : Clear text) : Fits (text.toList.length + 2) (.raw text) := by
  refine ⟨fun c hc => (h c hc).1, ?_⟩
  rw [Printed.render, List.length_cons, List.length_append, List.length_singleton]

theorem fits_literal {text : List Char}
    (h : (text.all fun c => isPlain c && !isEscapable c) = true) :
    Fits (text.length + 2) (.raw (String.ofList text)) := by
  have hfits := fits_of_clear (clear_ofList h)
  rwa [String.toList_ofList] at hfits

/-- A digest takes its digits and two quotes. -/
theorem fits_lowerHex (h : lowerHex text length = true) : Fits (length + 2) (.raw text) := by
  have hlength : text.toList.length = length := by
    rw [lowerHex, Bool.and_eq_true] at h
    exact beq_iff_eq.1 h.1
  rw [← hlength]
  exact fits_of_clear (clear_of_lowerHex h)

theorem fits_gpuUuid (h : canonicalGpuUuid text = true) : Fits 42 (.raw text) := by
  have hlength : text.toList.length = 40 := by
    rw [canonicalGpuUuid, Bool.and_eq_true, Bool.and_eq_true] at h
    exact beq_iff_eq.1 h.1.1
  have hfits := fits_of_clear (clear_of_gpuUuid h)
  rwa [hlength] at hfits

theorem Fits.mono {m n : ℕ} {p : Printed} (h : Fits m p) (hle : m ≤ n) : Fits n p :=
  ⟨h.1, h.2.trans hle⟩

theorem fits_stage (h : text ∈ ["pre-context", "post-context", "watchdog"]) :
    Fits 14 (.raw text) := by
  refine (fits_of_clear (clear_of_stage h)).mono ?_
  revert text
  decide

/-- An escape takes two characters. -/
theorem length_escaped_le (text : List Char) : (escaped text).length ≤ 2 * text.length := by
  induction text with
  | nil => exact le_rfl
  | cons c text ih =>
    have hc : (escapedChar c).length ≤ 2 := by
      unfold escapedChar
      split <;> simp
    rw [escaped, List.flatMap_cons, List.length_append, ← escaped, List.length_cons]
    omega

/-- A text without control characters is escaped, to at most twice its length. -/
theorem fits_of_no_control (hlength : text.toList.length ≤ length)
    (h : ∀ c ∈ text.toList, ¬c < ' ') : Fits (2 * length + 2) (.escaped text) := by
  refine ⟨?_, ?_⟩
  · intro c hc
    simp [isPrintable, h c hc]
  · have hescaped := length_escaped_le text.toList
    rw [Printed.render, List.length_cons, List.length_append, List.length_singleton]
    omega

variable {maximum : ℕ}

theorem boundedText_iff :
    boundedText text maximum allowEmpty = true ↔ (allowEmpty = true ∨ text.toList ≠ []) ∧
      text.toList.length ≤ maximum ∧ ∀ c ∈ text.toList, ¬c < ' ' := by
  simp [boundedText, and_assoc]

theorem fits_bounded (h : boundedText text maximum allowEmpty = true) :
    Fits (2 * maximum + 2) (.escaped text) := by
  obtain ⟨-, hlength, hcontrol⟩ := boundedText_iff.1 h
  exact fits_of_no_control hlength hcontrol

theorem boundedText_status (h : text ∈ ["candidate-complete", "rejected", "aborted"]) :
    boundedText text 18 = true := by
  revert text
  decide

theorem boundedText_cleanupStatus (h : text ∈ ["cleaned", "quarantined"]) :
    boundedText text 11 = true := by
  revert text
  decide

/-- The characters of an identifier are no control characters. -/
theorem fits_authorization (h : authorizationIdentifier text = true) :
    Fits 258 (.escaped text) := by
  simp only [authorizationIdentifier, Bool.and_eq_true, decide_eq_true_eq] at h
  refine fits_of_no_control h.1.2 ?_
  intro c hc hcontrol
  have hchar := List.all_eq_true.1 h.2 c hc
  have hle : ∀ d, ' ' ≤ d → d ≤ c → False := by
    intro d hd hdc
    exact Char.not_lt.2 (Char.le_trans hd hdc) hcontrol
  have hne : ∀ d, ' ' ≤ d → c ≠ d := by
    rintro d hd rfl
    exact hle c hd (Char.le_refl c)
  simp only [isIdentifierChar, Bool.or_eq_true, Bool.and_eq_true, decide_eq_true_eq,
    beq_iff_eq] at hchar
  rcases hchar with ((((((h | h) | h) | h) | h) | h) | h)
  · exact hle _ (by decide) h.1
  · exact hle _ (by decide) h.1
  · exact hle _ (by decide) h.1
  · exact hne _ (by decide) h
  · exact hne _ (by decide) h
  · exact hne _ (by decide) h
  · exact hne _ (by decide) h

/-- A number of 64 bits takes at most twenty digits and a sign. -/
theorem fits_number {i : ℤ} (h : i.natAbs < 10 ^ 20) : Fits 21 (.number i) := by
  refine ⟨trivial, ?_⟩
  cases i with
  | ofNat n =>
    rw [Printed.render, toList_toString_ofNat]
    exact (Nat.toDigits_length 10 n 20 (by decide) h).trans (by decide)
  | negSucc n =>
    rw [Printed.render, toList_toString_negSucc, List.length_cons]
    exact Nat.succ_le_succ (Nat.toDigits_length 10 (n + 1) 20 (by decide) h)

theorem fits_uint64 (value : UInt64) : Fits 21 (.number value.toNat) :=
  fits_number (lt_trans value.toNat_lt (by decide))

theorem fits_uint32 (value : UInt32) : Fits 21 (.number value.toNat) :=
  fits_number (lt_trans value.toNat_lt (by decide))

theorem fits_int32 (value : Int32) : Fits 21 (.number value.toInt) := by
  have hlower := value.le_toInt
  have hupper := value.toInt_lt
  exact fits_number (by omega)

theorem fits_boolean (value : Bool) : Fits 5 (.boolean value) := by
  refine ⟨trivial, ?_⟩
  cases value <;> decide

/-- The lines after the texts are numbers and flags, which fit whatever they are. -/
theorem numbers_fit (r : C2ClearanceReceipt) :
    ∀ line ∈ (receiptLines r).drop 27, Fits 21 line.2 := by
  have hflag : ∀ value, Fits 21 (.boolean value) := fun value =>
    (fits_boolean value).mono (by decide)
  simp only [receiptLines, List.drop_succ_cons, List.drop_zero, List.forall_mem_cons, fits_uint64,
    fits_uint32, fits_int32, hflag, List.not_mem_nil, false_imp_iff, implies_true, and_self]

theorem fits_all (count : ℕ) {n : ℕ} (hcount : lines.length = count)
    (h : ∀ line ∈ lines, Fits n line.2) :
    List.Forall₂ (fun line length => Fits length line.2) lines (List.replicate count n) := by
  subst hcount
  induction lines with
  | nil => exact .nil
  | cons line lines ih =>
    obtain ⟨hline, hlines⟩ := List.forall_mem_cons.1 h
    exact .cons hline (ih hlines)

/-- A bound for every line of a receipt that passes the checks. -/
theorem receiptLines_fit (h : IdentityValid r) :
    ∃ bounds, List.Forall₂ (fun line length => Fits length line.2) (receiptLines r) bounds ∧
      bounds.sum ≤ 16000 := by
  exact ⟨_, .cons (fits_literal rfl) <| .cons (fits_literal rfl) <|
    .cons (fits_bounded h.repository) <|
    .cons (fits_lowerHex h.reviewedSha) <| .cons (fits_lowerHex h.sourceTreeSha) <|
    .cons (fits_lowerHex h.workerSha256) <| .cons (fits_bounded h.workerApprovalIdentity) <|
    .cons (fits_bounded h.workflowRunId) <| .cons (fits_authorization h.authorizationId) <|
    .cons (fits_gpuUuid h.gpuUuid) <| .cons (fits_bounded h.caseName) <|
    .cons (fits_bounded (boundedText_status h.status)) <| .cons (fits_bounded h.failureReason) <|
    .cons (fits_bounded (boundedText_cleanupStatus h.cleanupStatus)) <|
    .cons (fits_literal rfl) <| .cons (fits_literal rfl) <| .cons (fits_boolean _) <|
    .cons (fits_boolean _) <| .cons (fits_bounded h.leaseId) <|
    .cons (fits_bounded h.jobIdentity) <| .cons (fits_bounded h.processWddmSource) <|
    .cons (fits_stage h.lastGoodStage) <| .cons (fits_bounded h.terminalTriggerCanonical) <|
    .cons (fits_lowerHex h.terminalTriggerSha256) <|
    .cons (fits_lowerHex h.lastGoodSampleSha256) <|
    .cons (fits_lowerHex h.preCleanupEvidenceSha256) <|
    .cons (fits_lowerHex h.evidenceBundleSha256) <| fits_all 48 rfl (numbers_fit r), by decide⟩

theorem readable_of_fit {bounds : List ℕ}
    (h : List.Forall₂ (fun line length => Fits length line.2) lines bounds) :
    ∀ line ∈ lines, Readable line.2 := by
  induction h with
  | nil => exact List.forall_mem_nil _
  | cons hline _ ih => exact List.forall_mem_cons.2 ⟨hline.1, ih⟩

/-- A line takes its key, its value and seven characters around them. -/
theorem length_printLines_le {bounds : List ℕ}
    (h : List.Forall₂ (fun line length => Fits length line.2) lines bounds)
    (hkeys : ∀ line ∈ lines, line.1.toList.length ≤ 42) :
    (printLines lines).length ≤ bounds.sum + 49 * lines.length := by
  induction h with
  | nil => exact Nat.zero_le _
  | @cons line length lines bounds hline _ ih =>
    have hkey := hkeys line List.mem_cons_self
    have hrest := ih fun line hline => hkeys line (List.mem_cons_of_mem _ hline)
    have hvalue := hline.2
    have hprint : (printLines (line :: lines)).length ≤
        (printLine line).length + 2 + (printLines lines).length := by
      cases lines with
      | nil => simp [printLines]
      | cons next lines =>
        simp only [printLines, List.length_append, List.length_cons]
        omega
    have hlength : (printLine line).length = line.1.toList.length + line.2.render.length + 5 := by
      simp only [printLine, List.length_cons, List.length_append]
      omega
    rw [List.sum_cons, List.length_cons]
    omega

theorem length_ofList_le {text : List Char} (h : text.length ≤ length) :
    (String.ofList text).toList.length ≤ length := by
  rwa [String.toList_ofList]

theorem receiptLines_key_length (r : C2ClearanceReceipt) :
    ∀ line ∈ receiptLines r, line.1.toList.length ≤ 42 := by
  rw [receiptLines]
  repeat' first
    | exact List.forall_mem_nil _
    | refine List.forall_mem_cons.2 ⟨length_ofList_le (Nat.le_of_ble_eq_true rfl), ?_⟩

/-! ## Acceptance -/

/-- The size, the syntax and the fields are checked one after the other. -/
theorem validateFile_eq_ok_iff {content : List Char} :
    validateC2ClearanceReceiptFile sha256 content = .ok () ↔
      content.length ≤ kC2ReceiptMaximumBytes ∧
        ∃ json, parseFlatJsonObject content = .ok json ∧ validateFields sha256 json = .ok () := by
  rw [validateC2ClearanceReceiptFile]
  constructor
  · intro h
    split at h
    · cases h
    rename_i hsize
    split at h
    · cases h
    rename_i json hjson
    exact ⟨not_lt.1 hsize, json, hjson, h⟩
  · rintro ⟨hsize, json, hjson, h⟩
    rw [if_neg (not_lt.2 hsize), hjson]
    exact h

/-- A receipt that passes the checks is small enough, and read as it was printed. -/
theorem parse_serialize (h : IdentityValid r) :
    parseFlatJsonObject (serializeC2ClearanceReceipt r) = .ok (receiptFields r) ∧
      (serializeC2ClearanceReceipt r).length ≤ kC2ReceiptMaximumBytes := by
  obtain ⟨bounds, hbounds, hsum⟩ := receiptLines_fit h
  have hne : receiptLines r ≠ [] := List.cons_ne_nil _ _
  constructor
  · obtain ⟨fuel, hfuel, hobject⟩ := parseFlatJsonObject_lines hne
    have hnodup : (([] : FlatJsonFields).map Prod.fst ++ (receiptLines r).map Prod.fst).Nodup :=
      receiptKeys_nodup r
    rw [serializeC2ClearanceReceipt, hobject,
      lines_print (receiptLines_plainKey r) (readable_of_fit hbounds) hne hfuel hnodup]
    rfl
  · have hlines := length_printLines_le hbounds (receiptLines_key_length r)
    have hcount : (receiptLines r).length = 75 := rfl
    rw [serializeC2ClearanceReceipt, List.length_cons, List.length_cons, List.length_append]
    rw [hcount] at hlines
    show _ ≤ 32 * 1024
    simp only [List.length_cons, List.length_nil]
    omega

/-- **The validator accepts a printed receipt if and only if the receipt is valid.** -/
theorem validate_serialize_iff :
    validateC2ClearanceReceiptFile sha256 (serializeC2ClearanceReceipt r) = .ok () ↔
      IdentityValid r ∧ BoundsValid r ∧ hashesMatch sha256 r = true := by
  have hkeys : ((receiptFields r).map Prod.fst).Perm requiredFields := by
    rw [receiptFields_keys]
    exact receiptKeys_perm r
  rw [validateFile_eq_ok_iff]
  constructor
  · rintro ⟨-, json, hparse, h⟩
    obtain rfl := receiptFields_of_accepted hparse h
    exact ((receiptFields_carries r).validateFields_iff hkeys).1 h
  · intro h
    obtain ⟨hparse, hsize⟩ := parse_serialize h.1
    exact ⟨hsize, _, hparse, ((receiptFields_carries r).validateFields_iff hkeys).2 h⟩

/-- The digests that are computed, each over the fields and the digests before it. -/
theorem compute_eq_ok_iff {hashed : C2ClearanceReceipt} :
    computeC2ClearanceEvidenceHashes sha256 r = .ok hashed ↔
      ∃ lastGood trigger bundle, sha256 (lastGoodText r) = some lastGood ∧
        sha256 r.terminalTriggerCanonical.toList = some trigger ∧
        sha256 (terminalText { r with
          lastGoodSampleSha256 := lastGood, terminalTriggerSha256 := trigger }) = some bundle ∧
        hashed = { r with
          lastGoodSampleSha256 := lastGood
          terminalTriggerSha256 := trigger
          evidenceBundleSha256 := bundle } := by
  rw [computeC2ClearanceEvidenceHashes]
  constructor
  · intro h
    split at h
    · cases h
    rename_i lastGood hlastGood
    split at h
    · cases h
    rename_i trigger htrigger
    dsimp only at h
    split at h
    · cases h
    rename_i bundle hbundle
    exact ⟨lastGood, trigger, bundle, hlastGood, htrigger, hbundle, (Except.ok.inj h).symm⟩
  · rintro ⟨lastGood, trigger, bundle, hlastGood, htrigger, hbundle, rfl⟩
    rw [hlastGood, htrigger]
    dsimp only
    rw [hbundle]

/-- The digests match if they are those of the three texts of the receipt itself. -/
theorem hashesMatch_iff : hashesMatch sha256 r = true ↔
      sha256 r.terminalTriggerCanonical.toList = some r.terminalTriggerSha256 ∧
        sha256 (lastGoodText r) = some r.lastGoodSampleSha256 ∧
        sha256 (terminalText r) = some r.evidenceBundleSha256 := by
  rw [hashesMatch, Bool.and_eq_true, beq_iff_eq]
  refine and_congr_right fun htrigger => ?_
  constructor
  · intro h
    split at h
    · rename_i hashed hcompute
      obtain ⟨lastGood, trigger, bundle, hlastGood, htrigger', hbundle, rfl⟩ :=
        compute_eq_ok_iff.1 hcompute
      rw [Bool.and_eq_true, beq_iff_eq, beq_iff_eq] at h
      obtain ⟨rfl, rfl⟩ : lastGood = r.lastGoodSampleSha256 ∧ bundle = r.evidenceBundleSha256 := h
      obtain rfl : trigger = r.terminalTriggerSha256 :=
        Option.some_inj.1 (htrigger'.symm.trans htrigger)
      exact ⟨hlastGood, hbundle⟩
    · cases h
  · rintro ⟨hlastGood, hbundle⟩
    have hcompute : computeC2ClearanceEvidenceHashes sha256 r = .ok r :=
      compute_eq_ok_iff.2 ⟨_, _, _, hlastGood, htrigger, hbundle, rfl⟩
    rw [hcompute]
    dsimp only
    rw [beq_self_eq_true, beq_self_eq_true]
    rfl

/-- **An accepted receipt is read back whole.** The keys are those that are required, and
each has the field of the receipt or its constant. -/
theorem accepted_carries (sha256 : List Char → Option String) (r : C2ClearanceReceipt)
    (h : validateC2ClearanceReceiptFile sha256 (serializeC2ClearanceReceipt r) = .ok ()) :
    ∃ json, parseFlatJsonObject (serializeC2ClearanceReceipt r) = .ok json ∧
      (json.map Prod.fst).Perm requiredFields ∧ (json.map Prod.fst).Nodup ∧ Carries json r := by
  obtain ⟨-, json, hparse, hvalid⟩ := validateFile_eq_ok_iff.1 h
  obtain rfl := receiptFields_of_accepted hparse hvalid
  have hkeys := receiptFields_keys r
  exact ⟨_, hparse, hkeys ▸ receiptKeys_perm r, hkeys ▸ receiptKeys_nodup r,
    receiptFields_carries r⟩

end Validator

/-! ## A valid receipt -/

namespace Fixture

/-- A digest of the given number of digits. -/
def digest (length : ℕ) : String :=
  String.ofList (List.replicate length '0')

/-- A UUID of zeros. -/
def gpuUuid : String :=
  String.ofList (['G', 'P', 'U', '-'] ++ List.replicate 8 '0' ++ ['-'] ++ List.replicate 4 '0' ++
    ['-'] ++ List.replicate 4 '0' ++ ['-'] ++ List.replicate 4 '0' ++ ['-'] ++
    List.replicate 12 '0')

/-- A rejected run, with a quote in the reason. -/
def receipt : C2ClearanceReceipt :=
  { repository := "Gravelaw/prisminfer"
    reviewedSha := digest 40
    sourceTreeSha := digest 40
    workerSha256 := digest 64
    workerApprovalIdentity := "c2-synthetic-worker-v1"
    workflowRunId := "run-1"
    authorizationId := "authorization:1"
    gpuUuid := gpuUuid
    caseName := "normal-exit"
    status := "rejected"
    failureReason := "unknown line \"x\""
    cleanupStatus := "cleaned"
    leaseId := "lease-1"
    jobIdentity := "job-1"
    processWddmSource := "pdh"
    lastGoodStage := "pre-context"
    terminalTriggerCanonical := "worker_exit"
    terminalTriggerSha256 := "6087dfba512484bc5983b781dbbb4fc900fcaf57f8051968cebb1eb85b7982aa"
    lastGoodSampleSha256 := "790785f0770f51fcb9a133b4fd614c2aa80449227f1f0e5f0d8c1f8baa7e347e"
    preCleanupEvidenceSha256 := digest 64
    evidenceBundleSha256 := "db7b208479084e6020c341c02f14e8d6311bd6182898cecaabe5795e621c43ac"
    workerTimeoutMilliseconds := 10000 }

theorem lowerHex_digest (length : ℕ) : lowerHex (digest length) length = true := by
  rw [lowerHex, digest, String.toList_ofList, List.length_replicate, beq_self_eq_true,
    Bool.true_and, List.all_eq_true]
  intro c hc
  rw [List.eq_of_mem_replicate hc]
  decide

theorem canonicalGpuUuid_gpuUuid : canonicalGpuUuid gpuUuid = true := by
  unfold canonicalGpuUuid gpuUuid
  simp only [String.toList_ofList]
  decide

theorem receipt_identityValid : IdentityValid receipt where
  repository := by decide
  reviewedSha := lowerHex_digest 40
  sourceTreeSha := lowerHex_digest 40
  workerSha256 := lowerHex_digest 64
  workerApprovalIdentity := by decide
  workflowRunId := by decide
  authorizationId := by decide
  gpuUuid := canonicalGpuUuid_gpuUuid
  caseName := by decide
  status := by simp [receipt]
  failureReason := by decide
  cleanupStatus := by simp [receipt]
  leaseId := by decide
  jobIdentity := by decide
  processWddmSource := by decide
  lastGoodSampleSha256 := by decide
  lastGoodStage := by simp [receipt]
  terminalTriggerCanonical := by decide
  terminalTriggerSha256 := by decide
  preCleanupEvidenceSha256 := lowerHex_digest 64
  evidenceBundleSha256 := by decide

theorem receipt_bundle :
    sha256Text (terminalText receipt) = some receipt.evidenceBundleSha256 := by
  decide +kernel

/-- The receipt has the digests of its own texts. -/
theorem receipt_accepted :
    validateC2ClearanceReceiptFile sha256Text (serializeC2ClearanceReceipt receipt) = .ok () := by
  refine validate_serialize_iff.2 ⟨receipt_identityValid, by decide, ?_⟩
  exact hashesMatch_iff.2 ⟨by decide +kernel, by decide +kernel, receipt_bundle⟩

end Fixture

theorem accepted_carries_on_fixture :
    ∃ json, parseFlatJsonObject (serializeC2ClearanceReceipt Fixture.receipt) = .ok json ∧
      (json.map Prod.fst).Perm requiredFields ∧ (json.map Prod.fst).Nodup ∧
      Carries json Fixture.receipt :=
  accepted_carries sha256Text Fixture.receipt Fixture.receipt_accepted

end PrismInfer.Validation
