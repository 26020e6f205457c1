import PrismInfer.Benchmark.Sha256Correct
import PrismInfer.Validation.C2Supervisor
import PrismInfer.Validation.ReceiptAcceptance

/-!
# The receipts that the supervisor builds

Which runs of the supervisor publish a receipt. `BuiltBy` has what the checks of the
validator see of a run. The texts are short enough to be hashed (`Short`), the digests match
by construction, and the identifiers, the case, the trigger and the bounds that the supervisor
writes itself pass. What is left comes from the worker and from the samples: the identity of
the job, the reason of the failure, the source of the process sample, the payload of the last
heartbeat and the local memory at the end (`Publishable`).
-/

namespace PrismInfer.Validation

open PrismInfer.Lib PrismInfer.Governor PrismInfer.Runtime

/-! ## The texts -/

/-- No control characters. -/
def Printing (text : List Char) : Prop :=
  ∀ c ∈ text, ¬c < ' '

theorem printing_ofList {text : List Char} (h : (text.all fun c => !(c < ' ')) = true) :
    Printing text := by
  intro c hc
  simpa using List.all_eq_true.1 h c hc

/-- The part prints, and has at most the given characters. -/
def PartFits (part : String × String) (length : ℕ) : Prop :=
  Printing (labelledPart part) ∧ (labelledPart part).length ≤ length

section Parts

variable {label : List Char} (hlabel : (label.all fun c => !(c < ' ')) = true)

include hlabel

theorem partFits_of_value {value : String} {length : ℕ} (hvalue : Printing value.toList)
    (hlength : value.toList.length ≤ length) :
    PartFits (String.ofList label, value) (label.length + length + 2) := by
  constructor
  · intro c hc
    rw [labelledPart, String.toList_ofList] at hc
    simp only [List.mem_cons, List.mem_append] at hc
    rcases hc with rfl | hc | rfl | hc
    · decide
    · exact printing_ofList hlabel c hc
    · decide
    · exact hvalue c hc
  · rw [labelledPart, String.toList_ofList, List.length_cons, List.length_append,
      List.length_cons]
    dsimp only
    omega

theorem partFits_text {value : String} {length : ℕ} {allowEmpty : Bool}
    (h : boundedText value length allowEmpty = true) :
    PartFits (String.ofList label, value) (label.length + length + 2) :=
  have h := boundedText_iff.1 h
  partFits_of_value hlabel h.2.2 h.2.1

theorem partFits_int {i : ℤ} (h : i.natAbs < 10 ^ 20) :
    PartFits (String.ofList label, toString i) (label.length + 21 + 2) := by
  refine partFits_of_value hlabel ?_ (fits_number h).2
  intro c hc hcontrol
  have hchar := (isNumberChar_toString i).2 c hc
  rw [isNumberChar, Bool.or_eq_true, beq_iff_eq] at hchar
  rcases hchar with hdigit | rfl
  · have hdigits : 48 ≤ c.toNat := (Char.isDigit_iff_toNat.1 hdigit).1
    have hlt : c.toNat < 32 := hcontrol
    omega
  · exact absurd hcontrol (by decide)

theorem partFits_nat {n : ℕ} (h : n < 10 ^ 20) :
    PartFits (String.ofList label, toString n) (label.length + 21 + 2) := by
  have htext : toString n = toString (n : ℤ) := rfl
  rw [htext]
  exact partFits_int hlabel (by rwa [Int.natAbs_natCast])

theorem partFits_uint64 (value : UInt64) :
    PartFits (String.ofList label, toString value.toNat) (label.length + 21 + 2) :=
  partFits_nat hlabel (lt_trans value.toNat_lt (by decide))

theorem partFits_uint32 (value : UInt32) :
    PartFits (String.ofList label, toString value.toNat) (label.length + 21 + 2) :=
  partFits_nat hlabel (lt_trans value.toNat_lt (by decide))

theorem partFits_int32 (value : Int32) :
    PartFits (String.ofList label, toString value.toInt) (label.length + 21 + 2) := by
  have hlower := value.le_toInt
  have hupper := value.toInt_lt
  exact partFits_int hlabel (by omega)

theorem partFits_literal {text : List Char} {length : ℕ}
    (htext : (text.all fun c => !(c < ' ')) = true) (hlength : text.length ≤ length) :
    PartFits (String.ofList label, String.ofList text) (label.length + length + 2) := by
  refine partFits_of_value hlabel ?_ ?_
  · rw [String.toList_ofList]
    exact printing_ofList htext
  · rwa [String.toList_ofList]

theorem partFits_bit (value : Bool) :
    PartFits (String.ofList label, bit value) (label.length + 1 + 2) := by
  cases value
  · exact partFits_literal hlabel rfl le_rfl
  · exact partFits_literal hlabel rfl le_rfl

theorem partFits_stage (stage : LastGoodStage) :
    PartFits (String.ofList label, stage.text) (label.length + 12 + 2) := by
  cases stage with
  | preContext | postContext | watchdog =>
    exact partFits_literal hlabel rfl (Nat.le_of_ble_eq_true rfl)

theorem partFits_source (source : ProcessDeviceSource) :
    PartFits (String.ofList label, source.text) (label.length + 12 + 2) := by
  cases source with
  | unset | wddmProcess | nvmlProcess =>
    exact partFits_literal hlabel rfl (Nat.le_of_ble_eq_true rfl)

theorem partFits_reason (reason : GpuThermalUnavailableReason) :
    PartFits (String.ofList label, gpuThermalUnavailableReasonName reason)
      (label.length + 64 + 2) := by
  cases reason <;> exact partFits_literal hlabel rfl (Nat.le_of_ble_eq_true rfl)

end Parts

theorem labelled_fits {start : List Char} (hstart : (start.all fun c => !(c < ' ')) = true)
    {parts : List (String × String)} {bounds : List ℕ} (h : List.Forall₂ PartFits parts bounds) :
    Printing (labelled (String.ofList start) parts) ∧
      (labelled (String.ofList start) parts).length ≤ start.length + bounds.sum := by
  have hparts : Printing (parts.flatMap labelledPart) ∧
      (parts.flatMap labelledPart).length ≤ bounds.sum := by
    induction h with
    | nil => exact ⟨List.forall_mem_nil _, le_rfl⟩
    | cons hpart _ ih =>
      rw [List.flatMap_cons, List.length_append, List.sum_cons]
      exact ⟨List.forall_mem_append.2 ⟨hpart.1, ih.1⟩, Nat.add_le_add hpart.2 ih.2⟩
  rw [labelled, String.toList_ofList, List.length_append]
  exact ⟨List.forall_mem_append.2 ⟨printing_ofList hstart, hparts.1⟩,
    Nat.add_le_add_left hparts.2 _⟩

theorem guardParts_fit (stage : LastGoodStage) (guards : GuardSample) :
    ∃ bounds, List.Forall₂ PartFits (guardParts stage guards) bounds ∧ bounds.sum ≤ 600 := by
  refine ⟨_, .cons (partFits_stage rfl _) <| .cons (partFits_bit rfl _) <|
    .cons (partFits_uint64 rfl _) <| .cons (partFits_uint64 rfl _) <|
    .cons (partFits_uint64 rfl _) <| .cons (partFits_bit rfl _) <|
    .cons (partFits_uint64 rfl _) <| .cons (partFits_uint64 rfl _) <|
    .cons (partFits_uint64 rfl _) <| .cons (partFits_bit rfl _) <|
    .cons (partFits_reason rfl _) <| .cons (partFits_uint64 rfl _) <|
    .cons (partFits_int32 rfl _) <| .cons (partFits_int32 rfl _) <|
    .cons (partFits_bit rfl _) <| .cons (partFits_bit rfl _) .nil, ?_⟩
  decide

theorem processParts_fit (lastProcess : Option ProcessDeviceMemorySample) :
    ∃ bounds, List.Forall₂ PartFits (processParts lastProcess) bounds ∧ bounds.sum ≤ 150 := by
  cases lastProcess with
  | none => exact ⟨[], .nil, by decide⟩
  | some process =>
    refine ⟨_, .cons (partFits_bit rfl _) <| .cons (partFits_source rfl _) <|
      .cons (partFits_uint64 rfl _) <| .cons (partFits_uint64 rfl _) .nil, ?_⟩
    decide

theorem boundedText_triggerMaterial (stage : LastGoodStage) (guards : GuardSample)
    (lastProcess : Option ProcessDeviceMemorySample) :
    boundedText (triggerMaterial stage guards lastProcess) 2048 = true := by
  obtain ⟨guardBounds, hguards, hguardSum⟩ := guardParts_fit stage guards
  obtain ⟨processBounds, hprocess, hprocessSum⟩ := processParts_fit lastProcess
  obtain ⟨hprinting, hlength⟩ :=
    @labelled_fits ['c', '2', '-', 't', 'r', 'i', 'g', 'g', 'e', 'r', '-', 'v', '1'] rfl _ _
      (List.rel_append hguards hprocess)
  have hsize : (13 : ℕ) + (guardBounds ++ processBounds).sum ≤ 2048 := by
    rw [List.sum_append]
    omega
  rw [boundedText_iff, triggerMaterial, String.toList_ofList]
  refine ⟨.inr ?_, hlength.trans hsize, hprinting⟩
  rw [labelled]
  simp

theorem boundedText_terminalTrigger (caseName : ClearanceCase) (captured : LiveEvidenceCapture) :
    boundedText (terminalTrigger caseName captured) 2048 = true := by
  unfold terminalTrigger
  split
  · exact boundedText_triggerMaterial _ _ _
  · exact boundedText_triggerMaterial _ _ _
  · decide
  · decide

/-! ## What the checks see of a run -/

/-- What the command line and the build give is well formed. -/
structure WellFormed (run : SupervisedRun) : Prop where
  reviewedSha : lowerHex run.reviewedSha 40 = true
  sourceTreeSha : lowerHex run.sourceTreeSha 40 = true
  workerSha256 : lowerHex run.workerSha256 64 = true
  workflowRunId : boundedText run.options.workflowRunId 128 = true
  authorizationId : authorizationIdentifier run.options.authorizationId = true
  gpuUuid : canonicalGpuUuid run.options.gpuUuid = true

/-- The source of the process sample that is bound. -/
def boundSource (run : SupervisedRun) : String :=
  match (selectLastGood run.options.caseName run.pre run.captured).process with
  | some process => process.source.text
  | none => "not-applicable-pre-context"

/-- The receipt has the fields of the run. -/
structure BuiltBy (run : SupervisedRun) (r : C2ClearanceReceipt) : Prop where
  repository : r.repository = "Gravelaw/prisminfer"
  reviewedSha : r.reviewedSha = run.reviewedSha
  sourceTreeSha : r.sourceTreeSha = run.sourceTreeSha
  workerSha256 : r.workerSha256 = run.workerSha256
  workerApprovalIdentity : r.workerApprovalIdentity = "c2-synthetic-worker-v1"
  workflowRunId : r.workflowRunId = run.options.workflowRunId
  authorizationId : r.authorizationId = run.options.authorizationId
  gpuUuid : r.gpuUuid = run.options.gpuUuid
  caseName : r.caseName = run.options.caseName.name
  status : r.status = if run.result.ok then "candidate-complete" else "rejected"
  failureReason : r.failureReason = run.result.failureReason
  leaseId : r.leaseId = makeLeaseId run.preWddm.adapterLuidHigh run.preWddm.adapterLuidLow
  jobIdentity : r.jobIdentity = run.result.jobIdentity
  processWddmSource : r.processWddmSource = boundSource run
  lastGoodStage :
    r.lastGoodStage = (selectLastGood run.options.caseName run.pre run.captured).stage.text
  terminalTriggerCanonical :
    r.terminalTriggerCanonical = terminalTrigger run.options.caseName run.captured
  maximumPayloadBytes : r.maximumPayloadBytes = kC2MaximumPayloadBytes
  postAdmissionPayloadBytes : r.postAdmissionPayloadBytes =
    if run.result.lastHeartbeatEvidence.available then
      run.result.lastHeartbeatEvidence.postAdmissionPayloadBytes
    else 0
  cleanupWddmToleranceBytes : r.cleanupWddmToleranceBytes = 16 * 1024 * 1024
  cleanupWddmPositiveDeltaBytes : r.cleanupWddmPositiveDeltaBytes = run.cleanupWddmPositiveDelta
  workerTimeoutMilliseconds : r.workerTimeoutMilliseconds = 10000

theorem bound_builtBy (run : SupervisedRun) : BuiltBy run run.bound := by
  rw [SupervisedRun.bound, bindLastGood]
  cases hprocess : (selectLastGood run.options.caseName run.pre run.captured).process with
  | none | some => constructor <;> first | rfl | (rw [boundSource, hprocess])

variable {r : C2ClearanceReceipt}

/-- The digests and the status of the cleanup are not among them. -/
theorem BuiltBy.with_digests {run : SupervisedRun} (h : BuiltBy run r)
    (lastGood trigger preCleanup bundle cleanupStatus : String) : BuiltBy run { r with
      lastGoodSampleSha256 := lastGood
      terminalTriggerSha256 := trigger
      preCleanupEvidenceSha256 := preCleanup
      evidenceBundleSha256 := bundle
      cleanupStatus := cleanupStatus } := by
  cases h
  constructor <;> assumption

/-! ## The digests -/

theorem lowerHex_of_sha256Text {text : List Char} {digest : String}
    (h : sha256Text text = some digest) : lowerHex digest 64 = true := by
  rw [sha256Text, Option.map_eq_some_iff] at h
  obtain ⟨digits, hdigits, rfl⟩ := h
  rw [Benchmark.sha256Text_eq hdigits, lowerHex, String.toList_ofList, Benchmark.Fips180.sha256,
    Benchmark.Fips180.length_hexDigits, beq_self_eq_true, Bool.true_and, List.all_eq_true]
  intro c hc
  obtain ⟨k, hk, rfl⟩ := Benchmark.Fips180.mem_hexDigits hc
  interval_cases k <;> decide

/-- SHA-256 answers for every text below 2^61 bytes. -/
theorem exists_sha256Text {text : List Char} (h : text.length < 2 ^ 61) :
    ∃ digest, sha256Text text = some digest := by
  rw [sha256Text, Benchmark.sha256Text_eq_ite, Benchmark.textBytes, List.length_map, if_pos h]
  exact ⟨_, rfl⟩

/-- The texts in the receipt that are hashed are short. -/
def Short (r : C2ClearanceReceipt) : Prop :=
  ∀ text ∈ [r.caseName, r.lastGoodStage, r.processWddmSource, r.terminalTriggerCanonical,
    r.status, r.failureReason, r.cleanupStatus, r.preCleanupEvidenceSha256],
    boundedText text 2048 true = true

theorem boundedText_wide {text : String} {maximum : ℕ} {allowEmpty : Bool}
    (h : boundedText text maximum allowEmpty = true) (hle : maximum ≤ 2048) :
    boundedText text 2048 true = true := by
  obtain ⟨-, hlength, hprinting⟩ := boundedText_iff.1 h
  exact boundedText_iff.2 ⟨.inl rfl, hlength.trans hle, hprinting⟩

theorem boundedText_lowerHex {text : String} (h : lowerHex text 64 = true) :
    boundedText text 2048 true = true := by
  refine boundedText_iff.2 ⟨.inl rfl, ?_, ?_⟩
  · rw [lowerHex, Bool.and_eq_true, beq_iff_eq] at h
    omega
  · intro c hc
    have hclear := clear_of_lowerHex h c hc
    simp only [isPlain, Bool.and_eq_true] at hclear
    simpa using hclear.1.1.2

/-- A short receipt can be hashed. -/
theorem compute_of_short (h : Short r) :
    ∃ hashed, computeC2ClearanceEvidenceHashes sha256Text r = .ok hashed := by
  simp only [Short, List.forall_mem_cons, List.not_mem_nil, false_imp_iff, implies_true,
    and_true] at h
  obtain ⟨hcase, hstage, hsource, htriggerText, hstatus, hreason, hcleanup, hbefore⟩ := h
  have hlastGoodParts : List.Forall₂ PartFits (lastGoodParts r) _ :=
    .cons (partFits_text rfl hcase) <| .cons (partFits_text rfl hstage) <|
    .cons (partFits_uint32 rfl _) <| .cons (partFits_int32 rfl _) <|
    .cons (partFits_uint32 rfl _) <| .cons (partFits_uint64 rfl _) <|
    .cons (partFits_uint64 rfl _) <| .cons (partFits_uint64 rfl _) <|
    .cons (partFits_text rfl hsource) <| .cons (partFits_uint64 rfl _) <|
    .cons (partFits_uint64 rfl _) <| .cons (partFits_uint64 rfl _) <|
    .cons (partFits_uint64 rfl _) <| .cons (partFits_uint64 rfl _) <|
    .cons (partFits_uint64 rfl _) <| .cons (partFits_uint64 rfl _) <|
    .cons (partFits_int32 rfl _) <| .cons (partFits_int32 rfl _) <|
    .cons (partFits_bit rfl _) <| .cons (partFits_bit rfl _) <| .cons (partFits_bit rfl _) <|
    .cons (partFits_bit rfl _) <| .cons (partFits_bit rfl _) <| .cons (partFits_bit rfl _) <|
    .cons (partFits_uint32 rfl _) .nil
  obtain ⟨lastGood, hlastGood⟩ := exists_sha256Text
    ((@labelled_fits "c2-last-good-v1".toList rfl _ _ hlastGoodParts).2.trans_lt (by decide))
  obtain ⟨trigger, htrigger⟩ := exists_sha256Text
    ((boundedText_iff.1 htriggerText).2.1.trans_lt (by decide))
  have hterminalParts : List.Forall₂ PartFits (terminalParts { r with
      lastGoodSampleSha256 := lastGood, terminalTriggerSha256 := trigger }) _ :=
    .cons (partFits_text rfl (boundedText_lowerHex (lowerHex_of_sha256Text hlastGood))) <|
    .cons (partFits_text rfl hstatus) <| .cons (partFits_text rfl hreason) <|
    .cons (partFits_text rfl hcleanup) <| .cons (partFits_text rfl hbefore) <|
    .cons (partFits_text rfl (boundedText_lowerHex (lowerHex_of_sha256Text htrigger))) <|
    .cons (partFits_bit rfl _) <| .cons (partFits_bit rfl _) <| .cons (partFits_bit rfl _) <|
    .cons (partFits_bit rfl _) <| .cons (partFits_bit rfl _) <| .cons (partFits_bit rfl _) <|
    .cons (partFits_uint64 rfl _) <| .cons (partFits_uint64 rfl _) <|
    .cons (partFits_uint64 rfl _) <| .cons (partFits_uint64 rfl _) .nil
  obtain ⟨bundle, hbundle⟩ := exists_sha256Text
    ((@labelled_fits "c2-terminal-v1".toList rfl _ _ hterminalParts).2.trans_lt (by decide))
  exact ⟨_, compute_eq_ok_iff.2 ⟨lastGood, trigger, bundle, hlastGood, htrigger, hbundle, rfl⟩⟩

/-- A receipt that has just been hashed has its own digests. -/
theorem hashesMatch_of_compute {sha256 : List Char → Option String} {r hashed : C2ClearanceReceipt}
    (h : computeC2ClearanceEvidenceHashes sha256 r = .ok hashed) :
    hashesMatch sha256 hashed = true := by
  obtain ⟨lastGood, trigger, bundle, hlastGood, htrigger, hbundle, rfl⟩ := compute_eq_ok_iff.1 h
  exact hashesMatch_iff.2 ⟨htrigger, hlastGood, hbundle⟩

/-- The receipt of a run, with the digests that match it. -/
structure HashedReceipt (run : SupervisedRun) (r : C2ClearanceReceipt) : Prop where
  builtBy : BuiltBy run r
  cleanupStatus : r.cleanupStatus ∈ ["cleaned", "quarantined"]
  lastGoodSampleSha256 : lowerHex r.lastGoodSampleSha256 64 = true
  terminalTriggerSha256 : lowerHex r.terminalTriggerSha256 64 = true
  preCleanupEvidenceSha256 : lowerHex r.preCleanupEvidenceSha256 64 = true
  evidenceBundleSha256 : lowerHex r.evidenceBundleSha256 64 = true
  hashesMatch : hashesMatch sha256Text r = true

/-- What the supervisor writes itself is short. -/
theorem BuiltBy.short {run : SupervisedRun} (h : BuiltBy run r)
    (hreason : boundedText run.result.failureReason 256 true = true)
    (hcleanup : boundedText r.cleanupStatus 2048 true = true)
    (hbefore : boundedText r.preCleanupEvidenceSha256 2048 true = true) : Short r := by
  simp only [Short, List.forall_mem_cons, List.not_mem_nil, false_imp_iff, implies_true, and_true,
    h.caseName, h.lastGoodStage, h.processWddmSource, h.terminalTriggerCanonical, h.status,
    h.failureReason]
  refine ⟨?_, ?_, ?_, boundedText_wide (boundedText_terminalTrigger _ _) le_rfl, ?_,
    boundedText_wide hreason (by decide), hcleanup, hbefore⟩
  · cases run.options.caseName <;> decide
  · cases (selectLastGood run.options.caseName run.pre run.captured).stage <;>
      decide
  · rw [boundSource]
    split
    · rename_i process _
      cases process.source <;> decide
    · decide
  · split <;> decide

/-- A run has a receipt, unless the reason of its failure is too long. -/
theorem exists_receipt {run : SupervisedRun}
    (h : boundedText run.result.failureReason 256 true = true) :
    ∃ r, run.receipt sha256Text = .ok r := by
  have hbuilt := bound_builtBy run
  have hpending : run.bound.cleanupStatus = "pending" ∧
      run.bound.preCleanupEvidenceSha256 = "" := by
    rw [SupervisedRun.bound, bindLastGood]
    split <;> exact ⟨rfl, rfl⟩
  obtain ⟨hashed, hfirst⟩ := compute_of_short (hbuilt.short h
    (hpending.1 ▸ by decide) (hpending.2 ▸ by decide))
  obtain ⟨lastGood, trigger, bundle, -, -, hbundle, rfl⟩ := compute_eq_ok_iff.1 hfirst
  -- the bundle of the first hash becomes the digest before the cleanup
  have hagain := hbuilt.with_digests lastGood trigger bundle bundle
    (if run.cleanup = .cleaned then "cleaned" else "quarantined")
  obtain ⟨receipt, hsecond⟩ := compute_of_short (hagain.short h
    (by dsimp only; split <;> decide)
    (boundedText_lowerHex (lowerHex_of_sha256Text hbundle)))
  refine ⟨receipt, ?_⟩
  rw [SupervisedRun.receipt, hfirst]
  dsimp only
  rw [hsecond]

theorem receipt_hashed {run : SupervisedRun} (h : run.receipt sha256Text = .ok r) :
    HashedReceipt run r := by
  rw [SupervisedRun.receipt] at h
  split at h
  · cases h
  rename_i hashed hfirst
  split at h
  · cases h
  rename_i receipt hsecond
  cases h
  have hmatch := hashesMatch_of_compute hsecond
  obtain ⟨lastGood, trigger, bundle, -, -, hbundle, rfl⟩ := compute_eq_ok_iff.1 hfirst
  obtain ⟨lastGood', trigger', bundle', hlastGood', htrigger', hbundle', rfl⟩ :=
    compute_eq_ok_iff.1 hsecond
  refine ⟨(bound_builtBy run).with_digests _ _ _ _ _, ?_, lowerHex_of_sha256Text hlastGood',
    lowerHex_of_sha256Text htrigger', lowerHex_of_sha256Text hbundle,
    lowerHex_of_sha256Text hbundle', hmatch⟩
  dsimp only
  split <;> simp

/-! ## Which receipts are valid -/

theorem boundedText_makeLeaseId (high : Int32) (low : UInt32) :
    boundedText (makeLeaseId high low) 128 = true := by
  have hdigit : ∀ digit, Printing [hexDigit (digit % 16)] := by
    have hall : ∀ digit : Fin 16, ¬hexDigit digit < ' ' := by decide
    intro digit c hc
    rw [List.mem_singleton.1 hc]
    exact hall ⟨digit % 16, Nat.mod_lt _ (by decide)⟩
  have hhex : ∀ value, Printing (hex8 value) := by
    intro value
    simp only [Printing, List.forall_mem_singleton] at hdigit
    simp only [Printing, hex8, List.forall_mem_cons]
    exact ⟨hdigit _, hdigit _, hdigit _, hdigit _, hdigit _, hdigit _, hdigit _, hdigit _,
      List.forall_mem_nil _⟩
  have hstem : leaseIdStem = ['p', 'r', 'i', 's', 'm', 'i', 'n', 'f', 'e', 'r', '-', 'g', 'p', 'u',
      '-'] := String.toList_ofList
  rw [boundedText_iff, makeLeaseId, String.toList_ofList, hstem]
  refine ⟨.inr (by simp), ?_, ?_⟩
  · simp only [List.length_append, List.length_cons, List.length_nil, hex8_length]
    decide
  · refine List.forall_mem_append.2 ⟨List.forall_mem_append.2 ⟨?_, hhex _⟩, ?_⟩
    · exact printing_ofList rfl
    · exact List.forall_mem_cons.2 ⟨by decide, hhex _⟩

theorem boundedText_source_iff (source : ProcessDeviceSource) :
    boundedText source.text 64 = true ↔ source ≠ .unset := by
  cases source with
  | unset =>
    refine iff_of_false ?_ fun h => h rfl
    simp [boundedText, ProcessDeviceSource.text]
  | wddmProcess | nvmlProcess => exact iff_of_true (by decide) (by decide)

/-- The process sample that goes with the last good one: the last with a watchdog sample,
the first with a post-context sample. -/
def BindsProcess (run : SupervisedRun) (process : ProcessDeviceMemorySample) : Prop :=
  run.options.caseName ≠ .postContextTelemetryLoss ∧
    if run.captured.watchdog.isSome ∧
        ¬(run.options.caseName = .watchdogCancel ∧ run.captured.post.isSome) then
      run.captured.process = some process
    else run.captured.post.isSome ∧ run.captured.firstProcess = some process

theorem bindsProcess_iff (run : SupervisedRun) (process : ProcessDeviceMemorySample) :
    BindsProcess run process ↔
      (selectLastGood run.options.caseName run.pre run.captured).process = some process := by
  rw [BindsProcess, selectLastGood]
  by_cases hloss : run.options.caseName = .postContextTelemetryLoss
  · simp [hloss]
  · by_cases hcancel : run.options.caseName = .watchdogCancel
    · cases run.captured.post <;> cases run.captured.watchdog <;> simp [hcancel]
    · cases run.captured.post <;> cases run.captured.watchdog <;> simp [hloss, hcancel]

theorem boundedText_boundSource_iff (run : SupervisedRun) :
    boundedText (boundSource run) 64 = true ↔
      ∀ process, BindsProcess run process → process.source ≠ .unset := by
  simp only [bindsProcess_iff]
  rw [boundSource]
  cases (selectLastGood run.options.caseName run.pre run.captured).process with
  | none => exact iff_of_true (by decide) nofun
  | some process =>
    rw [boundedText_source_iff]
    constructor
    · intro h other hother
      cases hother
      exact h
    · intro h
      exact h process rfl

/-- What the receipt needs of the worker and of the samples. -/
structure Publishable (run : SupervisedRun) : Prop where
  jobIdentity : boundedText run.result.jobIdentity 256 = true
  failureReason : boundedText run.result.failureReason 256 true = true
  source : ∀ process, BindsProcess run process → process.source ≠ .unset
  payload : run.result.lastHeartbeatEvidence.available = true →
    run.result.lastHeartbeatEvidence.postAdmissionPayloadBytes ≤ kC2MaximumPayloadBytes
  delta : run.finalWddm.localCurrentUsageBytes.toNat ≤
    run.preWddm.localCurrentUsageBytes.toNat + 16 * 1024 * 1024

namespace HashedReceipt

variable {run : SupervisedRun} {r : C2ClearanceReceipt}

theorem identityValid_iff (h : HashedReceipt run r) (hwell : WellFormed run) :
    IdentityValid r ↔ boundedText run.result.jobIdentity 256 = true ∧
      boundedText run.result.failureReason 256 true = true ∧
      ∀ process, BindsProcess run process → process.source ≠ .unset := by
  have hbuilt := h.builtBy
  rw [← boundedText_boundSource_iff]
  constructor
  · intro hvalid
    refine ⟨?_, ?_, ?_⟩
    · rw [← hbuilt.jobIdentity]
      exact hvalid.jobIdentity
    · rw [← hbuilt.failureReason]
      exact hvalid.failureReason
    · rw [← hbuilt.processWddmSource]
      exact hvalid.processWddmSource
  · rintro ⟨hjob, hreason, hsource⟩
    -- every other field is a constant, comes from the command line or is a digest
    exact {
      repository := hbuilt.repository ▸ by decide
      reviewedSha := hbuilt.reviewedSha ▸ hwell.reviewedSha
      sourceTreeSha := hbuilt.sourceTreeSha ▸ hwell.sourceTreeSha
      workerSha256 := hbuilt.workerSha256 ▸ hwell.workerSha256
      workerApprovalIdentity := hbuilt.workerApprovalIdentity ▸ by decide
      workflowRunId := hbuilt.workflowRunId ▸ hwell.workflowRunId
      authorizationId := hbuilt.authorizationId ▸ hwell.authorizationId
      gpuUuid := hbuilt.gpuUuid ▸ hwell.gpuUuid
      caseName := by
        rw [hbuilt.caseName]
        cases run.options.caseName <;> decide
      status := by
        rw [hbuilt.status]
        split <;> simp
      failureReason := hbuilt.failureReason ▸ hreason
      cleanupStatus := h.cleanupStatus
      leaseId := hbuilt.leaseId ▸ boundedText_makeLeaseId _ _
      jobIdentity := hbuilt.jobIdentity ▸ hjob
      processWddmSource := hbuilt.processWddmSource ▸ hsource
      lastGoodSampleSha256 := h.lastGoodSampleSha256
      lastGoodStage := by
        rw [hbuilt.lastGoodStage]
        cases (selectLastGood run.options.caseName run.pre run.captured).stage <;>
          simp [LastGoodStage.text]
      terminalTriggerCanonical :=
        hbuilt.terminalTriggerCanonical ▸ boundedText_terminalTrigger _ _
      terminalTriggerSha256 := h.terminalTriggerSha256
      preCleanupEvidenceSha256 := h.preCleanupEvidenceSha256
      evidenceBundleSha256 := h.evidenceBundleSha256 }

theorem boundsValid_iff (h : HashedReceipt run r) :
    BoundsValid r ↔ (run.result.lastHeartbeatEvidence.available = true →
        run.result.lastHeartbeatEvidence.postAdmissionPayloadBytes ≤ kC2MaximumPayloadBytes) ∧
      run.cleanupWddmPositiveDelta ≤ 16 * 1024 * 1024 := by
  have hbuilt := h.builtBy
  have hpayload : r.postAdmissionPayloadBytes ≤ r.maximumPayloadBytes ↔
      (run.result.lastHeartbeatEvidence.available = true →
        run.result.lastHeartbeatEvidence.postAdmissionPayloadBytes ≤ kC2MaximumPayloadBytes) := by
    rw [hbuilt.postAdmissionPayloadBytes, hbuilt.maximumPayloadBytes]
    split
    · rename_i havailable
      exact ⟨fun hle _ => hle, fun hle => hle havailable⟩
    · rename_i havailable
      exact iff_of_true (UInt64.le_iff_toNat_le.2 (Nat.zero_le _)) fun h => absurd h havailable
  have hdelta : r.cleanupWddmPositiveDeltaBytes ≤ r.cleanupWddmToleranceBytes ↔
      run.cleanupWddmPositiveDelta ≤ 16 * 1024 * 1024 := by
    rw [hbuilt.cleanupWddmPositiveDeltaBytes, hbuilt.cleanupWddmToleranceBytes]
  rw [← hpayload, ← hdelta]
  constructor
  · intro hvalid
    exact ⟨hvalid.payload, hvalid.delta⟩
  · rintro ⟨hpayload, hdelta⟩
    refine ⟨hbuilt.maximumPayloadBytes, hpayload, hbuilt.cleanupWddmToleranceBytes, hdelta, ?_, ?_⟩
    · rw [hbuilt.workerTimeoutMilliseconds]
      decide
    · rw [hbuilt.workerTimeoutMilliseconds]
      decide

end HashedReceipt

theorem delta_le_iff (run : SupervisedRun) : run.cleanupWddmPositiveDelta ≤ 16 * 1024 * 1024 ↔
      run.finalWddm.localCurrentUsageBytes.toNat ≤
        run.preWddm.localCurrentUsageBytes.toNat + 16 * 1024 * 1024 := by
  have htolerance : (16 * 1024 * 1024 : UInt64).toNat = 16 * 1024 * 1024 := by decide
  rw [UInt64.le_iff_toNat_le, htolerance, SupervisedRun.cleanupWddmPositiveDelta]
  split
  · rename_i hmore
    have hlt := UInt64.lt_iff_toNat_lt.1 hmore
    rw [UInt64.toNat_sub_of_le _ _ (UInt64.le_iff_toNat_le.2 hlt.le)]
    omega
  · rename_i hless
    have hle := UInt64.le_iff_toNat_le.1 (UInt64.not_lt.1 hless)
    rw [UInt64.toNat_zero]
    omega

/-! ## What is published -/

section Published

variable {run : SupervisedRun}

theorem receipt_accepted_iff (hr : run.receipt sha256Text = .ok r) (hwell : WellFormed run) :
    validateC2ClearanceReceiptFile sha256Text (serializeC2ClearanceReceipt r) = .ok () ↔
      Publishable run := by
  have hhashed := receipt_hashed hr
  rw [validate_serialize_iff, hhashed.identityValid_iff hwell, hhashed.boundsValid_iff,
    delta_le_iff]
  constructor
  · rintro ⟨⟨hjob, hreason, hsource⟩, ⟨hpayload, hdelta⟩, -⟩
    exact ⟨hjob, hreason, hsource, hpayload, hdelta⟩
  · intro h
    exact ⟨⟨h.jobIdentity, h.failureReason, h.source⟩, ⟨h.payload, h.delta⟩, hhashed.hashesMatch⟩

theorem finish_of_accepted (hr : run.receipt sha256Text = .ok r)
    (h : validateC2ClearanceReceiptFile sha256Text (serializeC2ClearanceReceipt r) = .ok ()) :
    (run.finish sha256Text).published = some (serializeC2ClearanceReceipt r) := by
  have hwrite : writeC2ClearanceReceipt sha256Text r = .ok (serializeC2ClearanceReceipt r) := by
    have hsize := (validateFile_eq_ok_iff.1 h).1
    rw [writeC2ClearanceReceipt, if_neg (not_lt.2 hsize), h]
  rw [SupervisedRun.finish, hr]
  dsimp only
  rw [hwrite]
  dsimp only
  split <;> rfl

theorem finish_of_rejected (hr : run.receipt sha256Text = .ok r)
    (h : validateC2ClearanceReceiptFile sha256Text (serializeC2ClearanceReceipt r) ≠ .ok ()) :
    run.finish sha256Text = { code := 11 } := by
  have hwrite : ∃ error, writeC2ClearanceReceipt sha256Text r = .error error := by
    rw [writeC2ClearanceReceipt]
    split
    · exact ⟨_, rfl⟩
    · cases hvalidate :
          validateC2ClearanceReceiptFile sha256Text (serializeC2ClearanceReceipt r) with
      | error error => exact ⟨error, rfl⟩
      | ok _ => exact absurd hvalidate h
  obtain ⟨error, herror⟩ := hwrite
  rw [SupervisedRun.finish, hr]
  dsimp only
  rw [herror]

end Published

/-- **Which runs publish their receipt.** The receipt is accepted and published if and
only if the worker has the identity of its job and a reason that fits, the process sample
has a source, the payload is within its bound and so is the local memory at the end. -/
theorem published_iff (run : SupervisedRun) (hwell : WellFormed run) :
    (∃ r, run.receipt sha256Text = .ok r ∧
      validateC2ClearanceReceiptFile sha256Text (serializeC2ClearanceReceipt r) = .ok () ∧
      (run.finish sha256Text).published = some (serializeC2ClearanceReceipt r)) ↔
      Publishable run := by
  constructor
  · rintro ⟨r, hr, haccepted, -⟩
    exact (receipt_accepted_iff hr hwell).1 haccepted
  · intro h
    obtain ⟨r, hr⟩ := exists_receipt h.failureReason
    have haccepted := (receipt_accepted_iff hr hwell).2 h
    exact ⟨r, hr, haccepted, finish_of_accepted hr haccepted⟩

namespace Fixture

/-- A run with the given result and memory at the end. -/
def supervisedRun (result : NativeWorkerResult) (finalUsage : UInt64) : SupervisedRun :=
  { options :=
      { workflowRunId := "run-1"
        authorizationId := "authorization:1"
        gpuUuid := gpuUuid
        payloadBytes := 4096 }
    reviewedSha := digest 40
    sourceTreeSha := digest 40
    workerSha256 := digest 64
    preWddm := { available := true, adapterLuidLow := 7 }
    result := result
    finalWddm :=
      { available := true, adapterLuidLow := 7, localCurrentUsageBytes := finalUsage } }

theorem supervisedRun_wellFormed (result : NativeWorkerResult) (finalUsage : UInt64) :
    WellFormed (supervisedRun result finalUsage) where
  reviewedSha := lowerHex_digest 40
  sourceTreeSha := lowerHex_digest 40
  workerSha256 := lowerHex_digest 64
  workflowRunId := show boundedText "run-1" 128 = true by decide
  authorizationId := receipt_identityValid.authorizationId
  gpuUuid := canonicalGpuUuid_gpuUuid

/-- A worker that ran and left its job. -/
def finished : NativeWorkerResult :=
  { ok := true, workerExitObserved := true, jobTreeEmpty := true, jobIdentity := "job:1:2:3" }

theorem finished_publishable : Publishable (supervisedRun finished 0) where
  jobIdentity := by decide
  failureReason := by decide
  source := by
    intro process hprocess
    rw [bindsProcess_iff] at hprocess
    cases hprocess
  payload := nofun
  delta := Nat.zero_le _

end Fixture

/-- The two runs: a worker that failed before it had a job, and a finished worker after
which one byte more than the tolerance is in use. -/
theorem unpublished_runs :
    (Fixture.supervisedRun (fail "native_worker_create_failed") 0).finish sha256Text =
        { code := 11 } ∧
      (Fixture.supervisedRun Fixture.finished (16 * 1024 * 1024 + 1)).finish sha256Text =
        { code := 11 } := by
  constructor
  · have hwell := Fixture.supervisedRun_wellFormed (fail "native_worker_create_failed") 0
    obtain ⟨r, hr⟩ := @exists_receipt
      (Fixture.supervisedRun (fail "native_worker_create_failed") 0) (by decide)
    refine finish_of_rejected hr fun haccepted => ?_
    -- the job has no identity
    have hjob := (boundedText_iff.1 ((receipt_accepted_iff hr hwell).1 haccepted).jobIdentity).1
    exact absurd hjob (by simp [Fixture.supervisedRun, fail])
  · have hwell := Fixture.supervisedRun_wellFormed Fixture.finished (16 * 1024 * 1024 + 1)
    obtain ⟨r, hr⟩ := @exists_receipt
      (Fixture.supervisedRun Fixture.finished (16 * 1024 * 1024 + 1)) (by decide)
    refine finish_of_rejected hr fun haccepted => ?_
    exact absurd ((receipt_accepted_iff hr hwell).1 haccepted).delta (by decide)

theorem published_iff_on_finished :
    ∃ r, (Fixture.supervisedRun Fixture.finished 0).receipt sha256Text = .ok r ∧
      validateC2ClearanceReceiptFile sha256Text (serializeC2ClearanceReceipt r) = .ok () ∧
      ((Fixture.supervisedRun Fixture.finished 0).finish sha256Text).published =
        some (serializeC2ClearanceReceipt r) :=
  (published_iff (Fixture.supervisedRun Fixture.finished 0)
    (Fixture.supervisedRun_wellFormed Fixture.finished 0)).2 Fixture.finished_publishable

end PrismInfer.Validation
