import PrismInfer.Governor.SupervisorWatchdog

/-!
# Caps and reserves in exact arithmetic

The three decisions compute with 64-bit words: checked sums, plain differences
guarded by earlier comparisons, saturating differences, and a basis-point ratio.
Here they are read as natural numbers.

Cap and reserve together fit under every limit a stage knows, and nothing has wrapped;
`caps_safe` composes the stages along a whole admission.

The saturating differences could hide a cap of 0 with no room for the reserve;
what rules this out is that an admitted peak is positive (`predictedPeak_pos`)
and at most the cap.
-/

namespace PrismInfer.Governor

/-! ## Reading the pieces -/

/-- `post_context_live_capacity_bytes` and `current_live_capacity_bytes` in exact
arithmetic: the bytes that the adapter, DXGI, CUDA and the owned share of the
DXGI budget would each allow. -/
def exactLiveCapacity (gpu : PreContextGpuSample) (owned : OwnedGpuMemoryEvidence) : ℕ :=
  min (min gpu.physicalOrReportableLocalBytes.toNat gpu.dxgiLocalBudgetBytes.toNat)
    (min (owned.ownedCurrentBytes.toNat + owned.cudaMemInfoFreeBytes.toNat)
      (owned.ownedCurrentBytes.toNat + gpu.dxgiLocalBudgetBytes.toNat -
        gpu.dxgiLocalCurrentUsageBytes.toNat))

/-- The predicted peak in exact arithmetic. -/
def exactPredictedPeak (prediction : PredictedGpuFootprint) : ℕ :=
  (prediction.contextRuntime.bytes.getD 0).toNat + (prediction.backend.bytes.getD 0).toNat +
  (prediction.model.bytes.getD 0).toNat + (prediction.state.bytes.getD 0).toNat +
  (prediction.workspace.bytes.getD 0).toNat + (prediction.fragmentation.bytes.getD 0).toNat

/-- 1000 basis points, rounded up, are a tenth, rounded up. -/
theorem toNat_of_tenPercentUp {value fraction : UInt64}
    (h : checkedBasisPointsU64 value 1000 .up = some fraction) :
    fraction.toNat = value.toNat ⌈/⌉ 10 := by
  obtain ⟨r, hr, hnat⟩ := checkedBasisPointsU64_spec value
    (show (1000 : UInt32).toNat ≤ 10000 by decide) .up
  rw [hr, Option.some.injEq] at h
  have hbp : (1000 : UInt32).toNat = 1000 := rfl
  rw [← h, hnat, hbp, basisPointRatio, Nat.ceilDiv_eq_add_pred_div,
    Nat.ceilDiv_eq_add_pred_div]
  omega

theorem toNat_predictedGpuPeak {prediction : PredictedGpuFootprint} {peak : UInt64}
    (h : predictedGpuPeak prediction = some peak) : peak.toNat = exactPredictedPeak prediction := by
  simp only [predictedGpuPeak, Option.bind_eq_bind, Option.bind_eq_some_iff,
    checkedAddU64_eq_some] at h
  obtain ⟨t₁, h₁, t₂, h₂, t₃, h₃, t₄, h₄, h₅⟩ := h
  rw [exactPredictedPeak]
  omega

theorem predictedPeak_pos {prediction : PredictedGpuFootprint}
    (h : predictionIsComplete prediction = true) : 0 < exactPredictedPeak prediction := by
  simp only [predictionIsComplete, Bool.and_eq_true, decide_eq_true_eq, gt_iff_lt,
    UInt64.lt_iff_toNat_lt, UInt64.toNat_zero] at h
  have := h.2
  rw [exactPredictedPeak]
  omega

theorem usage_le_budget_of_telemetry {gpu : PreContextGpuSample} {evaluated maximumAge : UInt64}
    (h : gpuTelemetryInvalid gpu evaluated maximumAge = false) :
    gpu.dxgiLocalCurrentUsageBytes.toNat ≤ gpu.dxgiLocalBudgetBytes.toNat := by
  simp only [gpuTelemetryInvalid, Bool.or_eq_false_iff, decide_eq_false_iff_not, gt_iff_lt,
    UInt64.lt_iff_toNat_lt, not_lt] at h
  exact h.2

/-- Both capacities of a live sample, read as naturals, and their minimum with
the two limits of the adapter. -/
theorem toNat_liveCapacity {gpu : PreContextGpuSample} {owned : OwnedGpuMemoryEvidence}
    {cuda dxgi : UInt64}
    (husage : gpu.dxgiLocalCurrentUsageBytes.toNat ≤ gpu.dxgiLocalBudgetBytes.toNat)
    (hcuda : checkedAddU64 owned.ownedCurrentBytes owned.cudaMemInfoFreeBytes = some cuda)
    (hdxgi : checkedAddU64 owned.ownedCurrentBytes
      (gpu.dxgiLocalBudgetBytes - gpu.dxgiLocalCurrentUsageBytes) = some dxgi) :
    (min (min (min gpu.physicalOrReportableLocalBytes gpu.dxgiLocalBudgetBytes) cuda)
      dxgi).toNat = exactLiveCapacity gpu owned := by
  rw [checkedAddU64_eq_some] at hcuda hdxgi
  rw [UInt64.toNat_sub_of_le _ _ (UInt64.le_iff_toNat_le.2 husage)] at hdxgi
  rw [UInt64.toNat_min, UInt64.toNat_min, UInt64.toNat_min, exactLiveCapacity, hcuda, hdxgi]
  omega

/-! ## Stage A -/

/-- What a Stage-A admission promises, in exact arithmetic. -/
structure PreCapSafe (request : PreContextAdmissionRequest)
    (decision : PreContextAdmissionDecision) : Prop where
  peak_exact : decision.predictedGpuPeakBytes.toNat = exactPredictedPeak request.predictedGpu
  peak_le_cap :
    decision.predictedGpuPeakBytes.toNat ≤ decision.preContextEffectiveCapBytes.toNat
  cap_le_tier : decision.preContextEffectiveCapBytes.toNat ≤ request.requestedTierBytes.toNat
  tier_le_ceiling : request.requestedTierBytes.toNat ≤ request.policyCeilingBytes.toNat
  reserve_floor :
    max (2 ^ 30) (min request.gpu.physicalOrReportableLocalBytes.toNat
      request.gpu.dxgiLocalBudgetBytes.toNat ⌈/⌉ 10) ≤ decision.preContextGpuReserveBytes.toNat
  usage_fits :
    request.gpu.dxgiLocalCurrentUsageBytes.toNat + decision.preContextEffectiveCapBytes.toNat +
      decision.preContextGpuReserveBytes.toNat ≤ request.gpu.dxgiLocalBudgetBytes.toNat
  limits_fit :
    decision.preContextEffectiveCapBytes.toNat + decision.preContextGpuReserveBytes.toNat ≤
      min request.policyCeilingBytes.toNat
        (min request.gpu.physicalOrReportableLocalBytes.toNat
          request.gpu.dxgiLocalBudgetBytes.toNat)

theorem PreAdmitted.peak_pos {request : PreContextAdmissionRequest}
    {decision : PreContextAdmissionDecision} (h : PreAdmitted request decision) :
    0 < decision.predictedGpuPeakBytes.toNat := by
  rw [toNat_predictedGpuPeak h.predicted_peak]
  exact predictedPeak_pos h.prediction_complete

theorem preCapSafe_of_preAdmitted {request : PreContextAdmissionRequest}
    {decision : PreContextAdmissionDecision} (h : PreAdmitted request decision) :
    PreCapSafe request decision := by
  obtain ⟨fraction, hfraction, hreserve⟩ := h.reserve
  have hfraction := toNat_of_tenPercentUp hfraction
  have husage := usage_le_budget_of_telemetry h.telemetry_valid
  have hlive := congrArg UInt64.toNat h.live_capacity
  have hreserve := congrArg UInt64.toNat hreserve
  have hcap := congrArg UInt64.toNat h.effective_cap
  have hpeak := UInt64.le_iff_toNat_le.1 (UInt64.not_lt.1 h.peak_le_cap)
  have htier := UInt64.le_iff_toNat_le.1 (UInt64.not_lt.1 (not_or.1 h.tier_valid).2)
  have hpos := h.peak_pos
  rw [UInt64.toNat_min] at hlive
  rw [UInt64.toNat_max, toNat_kGiB, hfraction, hlive] at hreserve
  rw [UInt64.toNat_min, UInt64.toNat_min, toNat_saturatingSub, toNat_saturatingSub,
    UInt64.toNat_min, UInt64.toNat_sub_of_le _ _ (UInt64.le_iff_toNat_le.2 husage), hlive] at hcap
  exact
    { peak_exact := toNat_predictedGpuPeak h.predicted_peak
      peak_le_cap := hpeak
      cap_le_tier := by omega
      tier_le_ceiling := htier
      reserve_floor := hreserve.ge
      usage_fits := by omega
      limits_fit := by omega }

/-! ## Stage B -/

/-- A receipt that Stage A handed out with an admission. -/
def IssuedByStageA (pre : PreContextAdmissionReceipt) : Prop :=
  ∃ request, (evaluatePreContextAdmission request).admitted = true ∧
    (evaluatePreContextAdmission request).receipt = some pre

/-- The facts later stages use of a Stage-A receipt. -/
theorem IssuedByStageA.facts {pre : PreContextAdmissionReceipt} (h : IssuedByStageA pre) :
    0 < pre.predictedGpuPeakBytes.toNat ∧ 0 < pre.gpuWarningCelsius ∧
      pre.gpuWarningCelsius < pre.gpuStopCelsius ∧
      timingPolicyInvalid pre.timing = false := by
  obtain ⟨request, hadmitted, hreceipt⟩ := h
  have hpre := preAdmitted_of_admitted hadmitted
  obtain ⟨deadline, -, -, hbuilt⟩ := hpre.receipt
  rw [hreceipt, Option.some.injEq] at hbuilt
  have hbounds := hpre.bounds_valid
  simp only [not_or, not_le, ge_iff_le] at hbounds
  rw [hbuilt]
  refine ⟨hpre.peak_pos, hbounds.1, hbounds.2.2, ?_⟩
  show timingPolicyInvalid (evaluatePreContextAdmission request).timing = false
  rw [hpre.echoed.2.2.1]
  exact hpre.timing_valid

/-- What a Stage-B admission against `pre` promises, in exact arithmetic. -/
structure PostCapSafe (request : PostContextAdmissionRequest)
    (pre : PreContextAdmissionReceipt) (decision : PostContextAdmissionDecision) : Prop where
  usage_le_budget :
    request.gpu.dxgiLocalCurrentUsageBytes.toNat ≤ request.gpu.dxgiLocalBudgetBytes.toNat
  live_exact : decision.postContextLiveCapacityBytes.toNat =
    exactLiveCapacity request.gpu request.ownedGpu
  cap_le_stageA : decision.postContextEffectiveCapBytes.toNat ≤
    pre.preContextEffectiveCapBytes.toNat
  reserve_ge_stageA : pre.preContextGpuReserveBytes.toNat ≤ decision.gpuReserveBytes.toNat
  reserve_ge_tenth : exactLiveCapacity request.gpu request.ownedGpu ⌈/⌉ 10 ≤
    decision.gpuReserveBytes.toNat
  owned_le_cap : request.ownedGpu.ownedCurrentBytes.toNat ≤
    decision.postContextEffectiveCapBytes.toNat
  peak_le_cap : pre.predictedGpuPeakBytes.toNat ≤ decision.postContextEffectiveCapBytes.toNat
  limits_fit :
    decision.postContextEffectiveCapBytes.toNat + decision.gpuReserveBytes.toNat ≤
      min request.policyCeilingBytes.toNat (exactLiveCapacity request.gpu request.ownedGpu)

namespace PostAdmitted

variable {ledger : ReceiptLedger} {request : PostContextAdmissionRequest}
  {pre : PreContextAdmissionReceipt} {decision : PostContextAdmissionDecision}

section

variable (h : PostAdmitted ledger request pre decision)
include h

theorem gpu_telemetry : gpuTelemetryInvalid request.gpu request.evaluationMonotonicMilliseconds
      request.timing.maximumGuardAgeMilliseconds = false := by
  have := h.telemetry_valid
  simp only [postContextGpuInvalid, Bool.or_eq_false_iff] at this
  exact this.2

theorem toNat_live : decision.postContextLiveCapacityBytes.toNat =
      exactLiveCapacity request.gpu request.ownedGpu := by
  rw [h.live_capacity]
  exact toNat_liveCapacity (usage_le_budget_of_telemetry h.gpu_telemetry) h.cuda_capacity
    h.dxgi_capacity

/-- The reserve of Stage B, in exact arithmetic. -/
theorem toNat_reserve : decision.gpuReserveBytes.toNat =
      max (max pre.preContextGpuReserveBytes.toNat (2 ^ 30))
        (exactLiveCapacity request.gpu request.ownedGpu ⌈/⌉ 10) := by
  obtain ⟨fraction, hfraction, hreserve⟩ := h.reserve
  rw [hreserve, UInt64.toNat_max, UInt64.toNat_max, toNat_kGiB,
    toNat_of_tenPercentUp hfraction, h.toNat_live]

/-- The cap of Stage B, in exact arithmetic. -/
theorem toNat_cap : decision.postContextEffectiveCapBytes.toNat =
      min (min pre.preContextEffectiveCapBytes.toNat request.requestedTierBytes.toNat)
        (min request.policyCeilingBytes.toNat
          (exactLiveCapacity request.gpu request.ownedGpu) - decision.gpuReserveBytes.toNat) := by
  rw [h.effective_cap, UInt64.toNat_min, UInt64.toNat_min, toNat_saturatingSub,
    UInt64.toNat_min, h.toNat_live]

theorem capSafe (hpos : 0 < pre.predictedGpuPeakBytes.toNat) :
    PostCapSafe request pre decision := by
  have hcap := h.toNat_cap
  have hreserve := h.toNat_reserve
  have hpeak := UInt64.le_iff_toNat_le.1 h.peak_le_cap
  exact
    { usage_le_budget := usage_le_budget_of_telemetry h.gpu_telemetry
      live_exact := h.toNat_live
      cap_le_stageA := by omega
      reserve_ge_stageA := by omega
      reserve_ge_tenth := by omega
      owned_le_cap := UInt64.le_iff_toNat_le.1 h.owned_le_cap
      peak_le_cap := hpeak
      limits_fit := by omega }

end

end PostAdmitted

/-! ## The watchdog -/

/-- A receipt that Stage B handed out with an admission against a Stage-A receipt. -/
def IssuedByStageB (receipt : PostContextAdmissionReceipt) : Prop :=
  ∃ ledger request pre, request.preContextReceipt = some pre ∧ IssuedByStageA pre ∧
    (evaluatePostContextAdmission ledger request).1.admitted = true ∧
    (evaluatePostContextAdmission ledger request).1.receipt = some receipt

/-- What a continuing watchdog decision promises, in exact arithmetic. -/
structure WatchdogCapSafe (receipt : PostContextAdmissionReceipt)
    (sample : SupervisorWatchdogSample) (decision : SupervisorWatchdogDecision) : Prop where
  usage_le_budget :
    sample.gpu.dxgiLocalCurrentUsageBytes.toNat ≤ sample.gpu.dxgiLocalBudgetBytes.toNat
  live_exact : decision.currentLiveCapacityBytes.toNat =
    exactLiveCapacity sample.gpu sample.ownedGpu
  cap_le_receipt : decision.effectiveCapBytes.toNat ≤ receipt.effectiveCapBytes.toNat
  owned_le_cap :
    sample.ownedGpu.ownedCurrentBytes.toNat ≤ decision.effectiveCapBytes.toNat
  peak_le_cap : receipt.predictedGpuPeakBytes.toNat ≤ decision.effectiveCapBytes.toNat
  limits_fit : decision.effectiveCapBytes.toNat + receipt.gpuReserveBytes.toNat ≤
    min receipt.policyCeilingBytes.toNat (exactLiveCapacity sample.gpu sample.ownedGpu)

theorem IssuedByStageB.peak_pos {receipt : PostContextAdmissionReceipt}
    (h : IssuedByStageB receipt) : 0 < receipt.predictedGpuPeakBytes.toNat := by
  obtain ⟨ledger, request, pre, hpre, hstageA, hadmitted, hreceipt⟩ := h
  obtain ⟨⟨pre', hpost⟩, -⟩ := postAdmitted_of_admitted hadmitted
  obtain ⟨receiptId, -, hbuilt⟩ := hpost.receipt
  have : pre' = pre := Option.some.inj (hpost.pre_receipt.symm.trans hpre)
  rw [hreceipt, Option.some.injEq, this] at hbuilt
  rw [hbuilt]
  exact hstageA.facts.1

namespace WatchdogPassed

variable {receipt : PostContextAdmissionReceipt} {sample : SupervisorWatchdogSample}

section

variable (h : WatchdogPassed receipt sample)
include h

theorem usage_le_budget :
    sample.gpu.dxgiLocalCurrentUsageBytes.toNat ≤ sample.gpu.dxgiLocalBudgetBytes.toNat := by
  have hgpu := h.gpu_valid
  simp only [watchdogGpuInvalid, Bool.or_eq_false_iff, decide_eq_false_iff_not, gt_iff_lt,
    UInt64.lt_iff_toNat_lt, not_lt] at hgpu
  exact hgpu.2

theorem toNat_live : sample.liveCapacity.toNat = exactLiveCapacity sample.gpu sample.ownedGpu :=
  toNat_liveCapacity h.usage_le_budget (eq_some_getD_of_not_isNone 0 h.owned_plus_free)
    (eq_some_getD_of_not_isNone 0 h.dxgi_owned_capacity)

/-- The watchdog's cap, in exact arithmetic. -/
theorem toNat_liveCap : (receipt.liveCap sample).toNat =
      min receipt.effectiveCapBytes.toNat
        (min receipt.policyCeilingBytes.toNat (exactLiveCapacity sample.gpu sample.ownedGpu) -
          receipt.gpuReserveBytes.toNat) := by
  rw [PostContextAdmissionReceipt.liveCap, UInt64.toNat_min, toNat_saturatingSub,
    UInt64.toNat_min, h.toNat_live]

theorem capSafe (hpos : 0 < receipt.predictedGpuPeakBytes.toNat) :
    WatchdogCapSafe receipt sample (receipt.continuing sample) := by
  have hcap := h.toNat_liveCap
  have hpeak := UInt64.le_iff_toNat_le.1 h.peak_le_cap
  exact
    { usage_le_budget := h.usage_le_budget
      live_exact := h.toNat_live
      cap_le_receipt := hcap ▸ min_le_left _ _
      owned_le_cap := UInt64.le_iff_toNat_le.1 h.owned_le_cap
      peak_le_cap := hpeak
      limits_fit := by
        show (receipt.liveCap sample).toNat + _ ≤ _
        omega }

end

end WatchdogPassed

/-! ## The whole admission -/

/-- **No stage over-commits the adapter.** For all 64-bit inputs, the caps and
reserves of an admitting Stage A, of an admitting Stage B against a receipt of
Stage A, and of a continuing watchdog against a receipt of that Stage B are the
exact natural-number quantities and fit under the limits of their stage. -/
theorem caps_safe :
    (∀ request, (evaluatePreContextAdmission request).admitted = true →
      PreCapSafe request (evaluatePreContextAdmission request)) ∧
    (∀ ledger request pre, request.preContextReceipt = some pre → IssuedByStageA pre →
      (evaluatePostContextAdmission ledger request).1.admitted = true →
      PostCapSafe request pre (evaluatePostContextAdmission ledger request).1) ∧
    (∀ receipt sample, IssuedByStageB receipt →
      (evaluateSupervisorWatchdog receipt sample).continueWork = true →
      WatchdogCapSafe receipt sample (evaluateSupervisorWatchdog receipt sample)) := by
  refine ⟨fun request h => preCapSafe_of_preAdmitted (preAdmitted_of_admitted h), ?_, ?_⟩
  · intro ledger request pre hpre hstageA h
    obtain ⟨⟨pre', hpost⟩, -⟩ := postAdmitted_of_admitted h
    have : pre' = pre := Option.some.inj (hpost.pre_receipt.symm.trans hpre)
    subst this
    exact hpost.capSafe hstageA.facts.1
  · intro receipt sample hstageB h
    have hpassed := continueWork_iff.1 h
    rw [evaluateSupervisorWatchdog_of_passed hpassed]
    exact hpassed.capSafe hstageB.peak_pos

/-! ## The admission of the unit tests -/

namespace Fixture

/-- `cell(1)` of tests/unit/test_admission_token.cpp. -/
def cell : AdmissionCellIdentity :=
  { runSequence := 1
    runContractHash := Vector.replicate 32 1
    thresholdRegistryHash := Vector.replicate 32 2
    hardwareIdentityHash := Vector.replicate 32 3
    runtimeIdentityHash := Vector.replicate 32 4
    artifactIdentityHash := Vector.replicate 32 5
    serviceProfileHash := Vector.replicate 32 6 }

/-- `pre_request()` of tests/unit/test_admission_token.cpp, with the requested
tier, the physical bytes and the DXGI budget and usage left open. -/
def preRequestFor (tier physical budget usage : UInt64) : PreContextAdmissionRequest :=
  { requestedTierBytes := tier
    contextTokens := 8192
    runDeadlineMilliseconds := 60000
    evaluationMonotonicMilliseconds := 10100
    exclusiveGpuLeaseHeld := true
    predictedGpu :=
      { contextRuntime := ⟨some (512 * kMiB), .pinnedRuntimeEstimate⟩
        backend := ⟨some (256 * kMiB), .pinnedRuntimeEstimate⟩
        model := ⟨some (5 * kGiB), .approvedArtifactCensus⟩
        state := ⟨some (256 * kMiB), .approvedArtifactCensus⟩
        workspace := ⟨some (256 * kMiB), .pinnedRuntimeEstimate⟩
        fragmentation := ⟨some (256 * kMiB), .pinnedRuntimeEstimate⟩ }
    gpu :=
      { available := true
        adapterIdentityAvailable := true
        adapterLuidHigh := 7
        adapterLuidLow := 11
        capturedMonotonicMilliseconds := 10000
        physicalOrReportableLocalBytes := physical
        dxgiLocalBudgetBytes := budget
        dxgiLocalCurrentUsageBytes := usage }
    thermal :=
      { available := true
        capturedMonotonicMilliseconds := 10000
        currentCelsius := 55
        reportedTargetCelsius := some 75
        reportedSlowdownCelsius := some 80 }
    storage :=
      { available := true
        freeBytes := 100 * kGiB
        reserveBytes := 10 * kGiB
        requiredIncrementalBytes := 20 * kGiB }
    host :=
      { available := true
        systemCommitSource := "get_performance_info"
        capturedMonotonicMilliseconds := 10000
        systemMemoryTotalBytes := 32 * kGiB
        systemMemoryAvailableBytes := 16 * kGiB
        systemCommitTotalBytes := 16 * kGiB
        systemCommitLimitBytes := 64 * kGiB
        systemCommitAvailableBytes := 48 * kGiB }
    hostPolicy := defaultHostReservePolicy .developmentNonPromotable
    hostRequest :=
      { plannedIncrementalResidentBytes := 4 * kGiB
        plannedIncrementalCommitBytes := 4 * kGiB }
    cell := cell }

/-- `pre_request()`. -/
def preRequest : PreContextAdmissionRequest :=
  preRequestFor (8 * kGiB) (16 * kGiB) (15 * kGiB) (1 * kGiB)

/-- The Stage-B request that `post_receipt()` builds from a Stage-A request, with
the DXGI budget and usage and the CUDA report left open. -/
def postRequestFor (request : PreContextAdmissionRequest) (budget usage free total : UInt64) :
    PostContextAdmissionRequest :=
  { preContextReceipt := (evaluatePreContextAdmission request).receipt
    policyCeilingBytes := request.policyCeilingBytes
    requestedTierBytes := request.requestedTierBytes
    evaluationMonotonicMilliseconds := 10300
    timing := request.timing
    gpu :=
      { request.gpu with
        capturedMonotonicMilliseconds := 10200
        dxgiLocalBudgetBytes := budget
        dxgiLocalCurrentUsageBytes := usage }
    thermal := { request.thermal with capturedMonotonicMilliseconds := 10200 }
    ownedGpu :=
      { available := true
        capturedMonotonicMilliseconds := 10200
        reconciled := true
        processDeviceCorroborationAvailable := true
        processDeviceSource := "wddm-process"
        processId := 42
        processDeviceCapturedMonotonicMilliseconds := 10200
        processDeviceCurrentBytes := 512 * kMiB
        adapterIdentityAvailable := true
        adapterLuidHigh := 7
        adapterLuidLow := 11
        hardCapBytes := (evaluatePreContextAdmission request).preContextEffectiveCapBytes
        ownedCurrentBytes := 512 * kMiB
        ownedPeakBytes := 512 * kMiB
        cudaContextRuntimeCurrentBytes := 512 * kMiB
        cudaMemInfoFreeBytes := free
        cudaMemInfoTotalBytes := total }
    host := { request.host with capturedMonotonicMilliseconds := 10200 }
    hostPolicy := request.hostPolicy
    hostRequest := request.hostRequest
    cell := cell }

/-- The Stage-B request of `post_receipt()`. -/
def postRequest : PostContextAdmissionRequest :=
  postRequestFor preRequest (14 * kGiB) (2 * kGiB) (12 * kGiB) (16 * kGiB)

theorem preRequest_admitted : (evaluatePreContextAdmission preRequest).admitted = true := by
  decide

theorem postRequest_admitted : (evaluatePostContextAdmission {} postRequest).1.admitted = true := by
  decide

/-- `post_receipt()`: the receipt that the first Stage B of a process hands out. -/
def postReceipt : PostContextAdmissionReceipt :=
  (evaluatePostContextAdmission {} postRequest).1.receipt.get (by decide)

theorem postRequest_receipt :
    (evaluatePostContextAdmission {} postRequest).1.receipt = some postReceipt :=
  (Option.some_get _).symm

/-- `watchdog_sample()`, with the DXGI budget left open. -/
def watchdogSampleFor (budget : UInt64) : SupervisorWatchdogSample :=
  { evaluatedMonotonicMilliseconds := 10400
    runDeadlineMonotonicMilliseconds := 70100
    workerHeartbeatMonotonicMilliseconds := 10300
    workerAlive := true
    gpu :=
      { preRequest.gpu with
        capturedMonotonicMilliseconds := 10300
        dxgiLocalBudgetBytes := budget
        dxgiLocalCurrentUsageBytes := 2 * kGiB }
    ownedGpu :=
      { postRequest.ownedGpu with
        capturedMonotonicMilliseconds := 10300
        processDeviceCapturedMonotonicMilliseconds := 10300
        hardCapBytes := 8 * kGiB }
    thermal := { preRequest.thermal with capturedMonotonicMilliseconds := 10300 }
    host := { preRequest.host with capturedMonotonicMilliseconds := 10300 } }

/-- The Stage-A receipt of `pre_request()`. -/
theorem postRequest_pre : ∃ pre, postRequest.preContextReceipt = some pre ∧ IssuedByStageA pre := by
  obtain ⟨deadline, -, -, hreceipt⟩ := (preAdmitted_of_admitted preRequest_admitted).receipt
  exact ⟨_, hreceipt, preRequest, preRequest_admitted, hreceipt⟩

theorem postReceipt_issued : IssuedByStageB postReceipt := by
  obtain ⟨pre, hpre, hissued⟩ := postRequest_pre
  exact ⟨{}, postRequest, pre, hpre, hissued, postRequest_admitted, postRequest_receipt⟩

end Fixture

/-- The admission and the watchdog sample of the unit tests meet every premise. -/
theorem caps_safe_on_fixture :
    PreCapSafe Fixture.preRequest (evaluatePreContextAdmission Fixture.preRequest) ∧
    (∃ pre, PostCapSafe Fixture.postRequest pre
      (evaluatePostContextAdmission {} Fixture.postRequest).1) ∧
    WatchdogCapSafe Fixture.postReceipt (Fixture.watchdogSampleFor (14 * kGiB))
      (evaluateSupervisorWatchdog Fixture.postReceipt
        (Fixture.watchdogSampleFor (14 * kGiB))) := by
  obtain ⟨pre, hpre, hissued⟩ := Fixture.postRequest_pre
  exact ⟨caps_safe.1 _ Fixture.preRequest_admitted,
    ⟨pre, caps_safe.2.1 {} _ pre hpre hissued Fixture.postRequest_admitted⟩,
    caps_safe.2.2 _ _ Fixture.postReceipt_issued (by decide)⟩

/-! ## Two reports of free device memory -/

/-- The same Stage-B request with another report of free device memory. -/
def PostContextAdmissionRequest.withFreeBytes (request : PostContextAdmissionRequest)
    (free : UInt64) : PostContextAdmissionRequest :=
  { request with ownedGpu := { request.ownedGpu with cudaMemInfoFreeBytes := free } }

/-- The live capacity that a report of `free` bytes gives. -/
theorem exactLiveCapacity_mono_free (request : PostContextAdmissionRequest)
    {free free' : UInt64} (h : free ≤ free') :
    exactLiveCapacity (request.withFreeBytes free).gpu (request.withFreeBytes free).ownedGpu ≤
      exactLiveCapacity (request.withFreeBytes free').gpu
        (request.withFreeBytes free').ownedGpu := by
  have := UInt64.le_iff_toNat_le.1 h
  simp only [exactLiveCapacity, PostContextAdmissionRequest.withFreeBytes]
  omega

/-- What the ceiling leaves beside the reserve grows with the live capacity, as
long as either the ceiling does not cut the capacity or the fractional reserve
does not exceed the floor. -/
theorem reserveAdjusted_mono (ceiling floor : ℕ) {live live' : ℕ} (hlive : live ≤ live')
    (h : live' ≤ ceiling ∨ live' ⌈/⌉ 10 ≤ floor) : min ceiling live - max floor (live ⌈/⌉ 10) ≤
      min ceiling live' - max floor (live' ⌈/⌉ 10) := by
  rw [Nat.ceilDiv_eq_add_pred_div] at *
  rw [Nat.ceilDiv_eq_add_pred_div]
  omega

/-- A report of fewer free bytes never gets a larger cap, unless the live
capacity of the larger report exceeds the policy ceiling and a tenth of it
exceeds the Stage-A reserve. In no case does a report lift the cap above that of
Stage A. -/
theorem postContext_cap_le_of_less_free {ledger ledger' : ReceiptLedger}
    {request : PostContextAdmissionRequest} {pre : PreContextAdmissionReceipt}
    {free free' : UInt64} (hpre : request.preContextReceipt = some pre) (hfree : free ≤ free')
    (hadmitted : (evaluatePostContextAdmission ledger
      (request.withFreeBytes free)).1.admitted = true)
    (hadmitted' : (evaluatePostContextAdmission ledger'
      (request.withFreeBytes free')).1.admitted = true) :
    ((exactLiveCapacity request.gpu (request.withFreeBytes free').ownedGpu ≤
          request.policyCeilingBytes.toNat ∨
        exactLiveCapacity request.gpu (request.withFreeBytes free').ownedGpu ⌈/⌉ 10 ≤
          pre.preContextGpuReserveBytes.toNat) →
      (evaluatePostContextAdmission ledger
          (request.withFreeBytes free)).1.postContextEffectiveCapBytes ≤
        (evaluatePostContextAdmission ledger'
          (request.withFreeBytes free')).1.postContextEffectiveCapBytes) ∧
    (evaluatePostContextAdmission ledger
      (request.withFreeBytes free)).1.postContextEffectiveCapBytes ≤
        pre.preContextEffectiveCapBytes := by
  obtain ⟨⟨pre₁, h⟩, -⟩ := postAdmitted_of_admitted hadmitted
  obtain ⟨⟨pre₂, h'⟩, -⟩ := postAdmitted_of_admitted hadmitted'
  obtain rfl : pre₁ = pre := Option.some.inj (h.pre_receipt.symm.trans hpre)
  obtain rfl : pre₂ = pre₁ := Option.some.inj (h'.pre_receipt.symm.trans hpre)
  have hcap := h.toNat_cap
  have hcap' := h'.toNat_cap
  rw [h.toNat_reserve] at hcap
  rw [h'.toNat_reserve] at hcap'
  constructor
  · intro hroom
    have hlive := exactLiveCapacity_mono_free request hfree
    have hmono := reserveAdjusted_mono request.policyCeilingBytes.toNat
      (max pre₂.preContextGpuReserveBytes.toNat (2 ^ 30)) hlive
      (hroom.imp id fun hr => hr.trans (le_max_left _ _))
    rw [UInt64.le_iff_toNat_le, hcap, hcap']
    exact min_le_min le_rfl hmono
  · rw [UInt64.le_iff_toNat_le, hcap]
    exact (min_le_left _ _).trans (min_le_left _ _)

namespace Fixture

/-- An adapter of 24 GiB whose DXGI budget was 16 GiB at Stage A. -/
def largePreRequest : PreContextAdmissionRequest :=
  preRequestFor (16 * kGiB) (24 * kGiB) (16 * kGiB) 0

/-- Stage B on that adapter after the budget has grown to 24 GiB. -/
def largePostRequest (free : UInt64) : PostContextAdmissionRequest :=
  postRequestFor largePreRequest (24 * kGiB) (512 * kMiB) free (24 * kGiB)

end Fixture

/-- On a 24 GiB adapter whose budget grows from 16 GiB to 24 GiB between the
stages, a report of 16.5 GiB free bytes gets a larger cap than one of 23.5 GiB:
the fractional reserve follows the reported capacity, the ceiling does not. -/
theorem less_free_can_raise_cap :
    ∃ (ledger : ReceiptLedger) (request : PostContextAdmissionRequest)
      (pre : PreContextAdmissionReceipt) (free free' : UInt64),
      request.preContextReceipt = some pre ∧ IssuedByStageA pre ∧ free < free' ∧
      (evaluatePostContextAdmission ledger (request.withFreeBytes free)).1.admitted = true ∧
      (evaluatePostContextAdmission ledger (request.withFreeBytes free')).1.admitted = true ∧
      (evaluatePostContextAdmission ledger
          (request.withFreeBytes free')).1.postContextEffectiveCapBytes <
        (evaluatePostContextAdmission ledger
          (request.withFreeBytes free)).1.postContextEffectiveCapBytes := by
  have hadmitted : (evaluatePreContextAdmission Fixture.largePreRequest).admitted = true := by
    decide
  obtain ⟨deadline, -, -, hreceipt⟩ := (preAdmitted_of_admitted hadmitted).receipt
  refine ⟨{}, Fixture.largePostRequest 0, _, 16 * kGiB + 512 * kMiB, 23 * kGiB + 512 * kMiB,
    hreceipt, ⟨_, hadmitted, hreceipt⟩, ?_, ?_, ?_, ?_⟩ <;> decide

/-- Two reports of the unit tests' request that are both admitted. -/
theorem postContext_cap_le_of_less_free_on_fixture :
    (evaluatePostContextAdmission {}
        (Fixture.postRequest.withFreeBytes (10 * kGiB))).1.postContextEffectiveCapBytes ≤
      (evaluatePostContextAdmission {}
        (Fixture.postRequest.withFreeBytes (12 * kGiB))).1.postContextEffectiveCapBytes := by
  obtain ⟨pre, hpre, -⟩ := Fixture.postRequest_pre
  exact (postContext_cap_le_of_less_free hpre (by decide) (by decide)
    (by decide)).1 (.inl (by decide))

end PrismInfer.Governor
