import PrismInfer.Governor.CapSafety

/-!
# The watchdog agrees with Stage B

Stage B and the watchdog are two separately written decisions. Replayed on the
evidence of a Stage-B admission (`asWatchdogSample`), every check of the watchdog
is passed, and its cap is the receipt's: `watchdog_continues_at_admission`.

Most checks ask for no more than Stage B did; the thermal bounds need the open temperature
range of the watchdog (`WithinWatchdogRange`), and the stop temperature the
bounds of the Stage-A receipt.

The stop temperature is the receipt's also when the device has lowered its limits since:
`implied_stop_enforced_iff`.
-/

namespace PrismInfer.Governor

/-- The watchdog sample made of the evidence of a Stage-B request: the same GPU,
owned-memory, thermal and host evidence at the same time, with the receipt's
deadline and the receipt's cap as the owned hard cap. -/
def PostContextAdmissionRequest.asWatchdogSample (request : PostContextAdmissionRequest)
    (receipt : PostContextAdmissionReceipt) (heartbeat : UInt64) : SupervisorWatchdogSample :=
  { evaluatedMonotonicMilliseconds := request.evaluationMonotonicMilliseconds
    runDeadlineMonotonicMilliseconds := receipt.runDeadlineMonotonicMilliseconds
    workerHeartbeatMonotonicMilliseconds := heartbeat
    workerAlive := true
    contextFatalError := false
    gpu := request.gpu
    ownedGpu := { request.ownedGpu with hardCapBytes := receipt.effectiveCapBytes }
    thermal := request.thermal
    host := request.host }

theorem fresh_of_sampleIsFresh {captured evaluated maximumAge : UInt64}
    (h : sampleIsFresh captured evaluated maximumAge = true) :
    fresh captured evaluated maximumAge = true := by
  simp only [sampleIsFresh, Bool.and_eq_true, decide_eq_true_eq] at h
  simp only [fresh, Bool.and_eq_true, decide_eq_true_eq, bne_iff_ne]
  obtain ⟨⟨⟨hpos, -⟩, hle⟩, hage⟩ := h
  refine ⟨⟨?_, hle⟩, hage⟩
  rintro rfl
  exact absurd hpos (by decide)

variable {receipt : PostContextAdmissionReceipt}

/-- The replayed owned evidence passes the watchdog's check: it is what Stage B
checked, apart from the hard cap and the peak. -/
theorem watchdogOwned_of_stageB {request : PostContextAdmissionRequest}
    {pre : PreContextAdmissionReceipt}
    (hhigh : request.gpu.adapterLuidHigh = receipt.adapterLuidHigh)
    (hlow : request.gpu.adapterLuidLow = receipt.adapterLuidLow)
    (h : ownedEvidenceInvalid request pre = false)
    (hpeak : request.ownedGpu.ownedPeakBytes ≤ receipt.effectiveCapBytes) (heartbeat : UInt64) :
    watchdogOwnedInvalid receipt (request.asWatchdogSample receipt heartbeat)
      request.timing.maximumGuardAgeMilliseconds = false := by
  simp only [ownedEvidenceInvalid, Bool.or_eq_false_iff, Bool.not_eq_false', and_assoc] at h
  obtain ⟨available, reconciled, corroborated, source, process, captured, device, identity,
    sampled, high, low, unknown, some, total, context, -, -, -, -, -, -, -, peak, -, -,
    cudaTotal, cudaFree, usage⟩ := h
  have high := (bne_eq_false_iff_eq.1 high).trans hhigh
  have low := (bne_eq_false_iff_eq.1 low).trans hlow
  simp only [watchdogOwnedInvalid, Bool.or_eq_false_iff, Bool.not_eq_false', and_assoc]
  exact ⟨available, reconciled, corroborated, source, process, captured, device, identity, some,
    fresh_of_sampleIsFresh sampled, total, unknown, context, bne_eq_false_iff_eq.2 high,
    bne_eq_false_iff_eq.2 low, bne_eq_false_iff_eq.2 rfl, peak,
    decide_eq_false (UInt64.not_lt.2 hpeak), cudaTotal, cudaFree, usage⟩

/-- The replayed adapter telemetry passes the watchdog's check. -/
theorem watchdogGpu_of_stageB {request : PostContextAdmissionRequest} {maximumAge : UInt64}
    (receipt : PostContextAdmissionReceipt) (heartbeat : UInt64)
    (h : gpuTelemetryInvalid request.gpu request.evaluationMonotonicMilliseconds
      maximumAge = false) :
    watchdogGpuInvalid (request.asWatchdogSample receipt heartbeat) maximumAge = false := by
  simp only [gpuTelemetryInvalid, Bool.or_eq_false_iff, Bool.not_eq_false', and_assoc] at h
  obtain ⟨available, identity, sampled, physical, budget, usage⟩ := h
  simp only [watchdogGpuInvalid, Bool.or_eq_false_iff, Bool.not_eq_false', and_assoc]
  exact ⟨available, identity, fresh_of_sampleIsFresh sampled, physical, budget, usage⟩

variable (thermal : GpuThermalSample)

/-- All reported temperatures of a sample lie strictly between -100 and 200. -/
def GpuThermalSample.WithinWatchdogRange : Prop :=
  (-100 < thermal.currentCelsius ∧ thermal.currentCelsius < 200) ∧
  (∀ target ∈ thermal.reportedTargetCelsius, -100 < target ∧ target < 200) ∧
  (∀ slowdown ∈ thermal.reportedSlowdownCelsius, -100 < slowdown ∧ slowdown < 200)

/-- What `evaluate_thermal` found safe, within the watchdog's temperature range,
has the same bounds in `thermal_bounds`. -/
theorem thermal_of_stageB {thermal : GpuThermalSample} {evaluated maximumAge : UInt64}
    {warning stop : Int}
    (h : evaluateThermal thermal evaluated maximumAge = some ⟨warning, stop, true⟩)
    (hrange : thermal.WithinWatchdogRange) (hpos : 0 < warning) (hlt : warning < stop) :
    thermal.available = true ∧
    fresh thermal.capturedMonotonicMilliseconds evaluated maximumAge = true ∧
    thermalBounds thermal = some ⟨warning, stop⟩ ∧ thermal.currentCelsius < warning ∧
    thermal.thermalThrottling = false ∧ thermal.powerBrakeSlowdown = false := by
  unfold evaluateThermal at h
  split at h
  · cases h
  rename_i hvalid
  simp only [Bool.not_eq_true, Bool.or_eq_false_iff, Bool.not_eq_false'] at hvalid
  extract_lets bounds at h
  split at h
  · cases h
  simp only [Option.some.injEq, ThermalDecision.mk.injEq, Bool.and_eq_true, Bool.not_eq_true',
    decide_eq_true_eq] at h
  obtain ⟨hwarning, hstop, ⟨hthrottling, hbrake⟩, hcurrent⟩ := h
  refine ⟨hvalid.1.1.1.1, fresh_of_sampleIsFresh hvalid.1.1.1.2, ?_, hwarning ▸ hcurrent,
    hthrottling, hbrake⟩
  have hin : ¬ (!watchdogValidTemperature thermal.currentCelsius ||
      thermal.reportedTargetCelsius.any (fun target => !watchdogValidTemperature target) ||
      thermal.reportedSlowdownCelsius.any
        (fun slowdown => !watchdogValidTemperature slowdown)) = true := by
    simp only [watchdogValidTemperature, Bool.or_eq_true, Option.any_eq_true, not_or, not_exists,
      not_and, Bool.not_eq_true', Bool.not_eq_false, Bool.and_eq_true, decide_eq_true_eq]
    exact ⟨⟨hrange.1, hrange.2.1⟩, hrange.2.2⟩
  refine (if_neg hin).trans ((if_pos ?_).trans ?_)
  · show bounds.1 > 0 ∧ bounds.2 > 0 ∧ bounds.1 < bounds.2
    omega
  · show some (ThermalBounds.mk bounds.1 bounds.2) = _
    rw [hwarning, hstop]

namespace PostAdmitted

variable {ledger : ReceiptLedger} {request : PostContextAdmissionRequest}
  {pre : PreContextAdmissionReceipt} {decision : PostContextAdmissionDecision}

section

variable (h : PostAdmitted ledger request pre decision)
include h

theorem before_deadline :
    request.evaluationMonotonicMilliseconds < pre.runDeadlineMonotonicMilliseconds := by
  have := h.pre_matched
  simp only [preAdmissionMismatched, Bool.or_eq_false_iff, and_assoc] at this
  obtain ⟨-, -, -, -, -, -, hdeadline, -⟩ := this
  exact UInt64.not_le.1 (of_decide_eq_false hdeadline)

theorem host_replayed : request.hostPolicy = pre.hostPolicy ∧
      ∀ evaluated maximumAge, request.hostRequest.replayedAt evaluated maximumAge =
        pre.hostRequest.replayedAt evaluated maximumAge := by
  have := h.pre_matched
  simp only [preAdmissionMismatched, Bool.or_eq_false_iff, Bool.not_eq_false',
    and_assoc] at this
  obtain ⟨-, -, -, hpolicy, hworkload, -⟩ := this
  exact ⟨(sameHostPolicy_iff _ _).1 hpolicy,
    fun evaluated maximumAge => replayedAt_eq_of_sameHostWorkload hworkload evaluated maximumAge⟩

theorem evaluated_pos : request.evaluationMonotonicMilliseconds ≠ 0 := by
  have := h.gpu_telemetry
  simp only [gpuTelemetryInvalid, sampleIsFresh, Bool.or_eq_false_iff, Bool.not_eq_false',
    Bool.and_eq_true, decide_eq_true_eq, and_assoc] at this
  obtain ⟨-, -, -, hpos, -⟩ := this
  rintro h0
  rw [h0] at hpos
  exact absurd hpos (by decide)

theorem deadline_not_reached
    (hreceipt : receipt.runDeadlineMonotonicMilliseconds = pre.runDeadlineMonotonicMilliseconds)
    (heartbeat : UInt64) :
    deadlineReached receipt (request.asWatchdogSample receipt heartbeat) = false := by
  have hlt := h.before_deadline
  rw [← hreceipt] at hlt
  simp only [deadlineReached, PostContextAdmissionRequest.asWatchdogSample, Bool.or_eq_false_iff,
    beq_eq_false_iff_ne, bne_self_eq_false, decide_eq_false_iff_not, ge_iff_le, UInt64.not_le,
    and_true]
  refine ⟨⟨h.evaluated_pos, ?_⟩, hlt⟩
  rintro h0
  rw [h0] at hlt
  exact absurd hlt (by simp)

theorem ownedPlusFree_replayed (receipt : PostContextAdmissionReceipt) (heartbeat : UInt64) :
    (request.asWatchdogSample receipt heartbeat).ownedPlusFree =
      some decision.cudaOwnedCapacityBytes :=
  h.cuda_capacity

theorem dxgiOwnedCapacity_replayed (receipt : PostContextAdmissionReceipt) (heartbeat : UInt64) :
    (request.asWatchdogSample receipt heartbeat).dxgiOwnedCapacity =
      some decision.dxgiOwnedCapacityBytes :=
  h.dxgi_capacity

/-- The watchdog's cap on the evidence of the admission is the receipt's. -/
theorem liveCap_replayed (hceiling : receipt.policyCeilingBytes = request.policyCeilingBytes)
    (hreserve : receipt.gpuReserveBytes = decision.gpuReserveBytes)
    (hcap : receipt.effectiveCapBytes = decision.postContextEffectiveCapBytes)
    (heartbeat : UInt64) : receipt.liveCap (request.asWatchdogSample receipt heartbeat) =
      receipt.effectiveCapBytes := by
  have hlive : (request.asWatchdogSample receipt heartbeat).liveCapacity =
      decision.postContextLiveCapacityBytes := by
    rw [SupervisorWatchdogSample.liveCapacity, h.ownedPlusFree_replayed,
      h.dxgiOwnedCapacity_replayed, h.live_capacity]
    rfl
  rw [PostContextAdmissionReceipt.liveCap, hlive, hceiling, hreserve, hcap,
    ← UInt64.toNat_inj, UInt64.toNat_min, min_eq_left]
  rw [h.effective_cap, UInt64.toNat_min]
  exact min_le_right _ _

end

end PostAdmitted

/-- **The watchdog agrees with Stage B.** Replayed on the evidence of a Stage-B
admission, the watchdog continues work at exactly the receipt's cap. -/
theorem watchdog_continues_at_admission {ledger : ReceiptLedger}
    {request : PostContextAdmissionRequest} {pre : PreContextAdmissionReceipt}
    {receipt : PostContextAdmissionReceipt} {heartbeat : UInt64}
    (hpre : request.preContextReceipt = some pre) (hstageA : IssuedByStageA pre)
    (hadmitted : (evaluatePostContextAdmission ledger request).1.admitted = true)
    (hreceipt : (evaluatePostContextAdmission ledger request).1.receipt = some receipt)
    (hheartbeat : fresh heartbeat request.evaluationMonotonicMilliseconds
      receipt.timing.maximumGuardAgeMilliseconds = true)
    (hpeak : request.ownedGpu.ownedPeakBytes ≤ receipt.effectiveCapBytes)
    (hrange : request.thermal.WithinWatchdogRange) :
    (evaluateSupervisorWatchdog receipt
        (request.asWatchdogSample receipt heartbeat)).continueWork = true ∧
      (evaluateSupervisorWatchdog receipt
        (request.asWatchdogSample receipt heartbeat)).effectiveCapBytes =
          receipt.effectiveCapBytes := by
  obtain ⟨⟨pre', hpost⟩, -⟩ := postAdmitted_of_admitted hadmitted
  obtain rfl : pre' = pre := Option.some.inj (hpost.pre_receipt.symm.trans hpre)
  obtain ⟨receiptId, -, hbuilt⟩ := hpost.receipt
  have hr := Option.some.inj (hreceipt.symm.trans hbuilt)
  obtain ⟨warning, stop, hthermal, hpos, hlt, hwarning, hstop⟩ := hpost.thermal
  obtain ⟨-, -, hstageAbounds, -⟩ := hstageA.facts
  obtain ⟨available, sampled, bounds, current, throttling, brake⟩ :=
    thermal_of_stageB hthermal hrange hpos hlt
  have hcap : receipt.liveCap (request.asWatchdogSample receipt heartbeat) =
      receipt.effectiveCapBytes := by
    refine hpost.liveCap_replayed ?_ ?_ ?_ heartbeat <;> rw [hr] <;> rfl
  have htiming : receipt.timing = request.timing := congrArg (·.timing) hr
  have hhigh : request.gpu.adapterLuidHigh = receipt.adapterLuidHigh :=
    (congrArg (·.adapterLuidHigh) hr).symm
  have hlow : request.gpu.adapterLuidLow = receipt.adapterLuidLow :=
    (congrArg (·.adapterLuidLow) hr).symm
  have hdeadline : receipt.runDeadlineMonotonicMilliseconds =
      pre'.runDeadlineMonotonicMilliseconds := congrArg (·.runDeadlineMonotonicMilliseconds) hr
  have hhost : (evaluateHostAdmission request.host receipt.hostPolicy
      (receipt.hostRequest.replayedAt request.evaluationMonotonicMilliseconds
        request.timing.maximumGuardAgeMilliseconds)).admitted = true := by
    have := hpost.host_admitted
    rw [hpost.host_replayed.1, hpost.host_replayed.2] at this
    rw [hr]
    exact this
  have hpassed : WatchdogPassed receipt (request.asWatchdogSample receipt heartbeat) :=
    { worker_alive := rfl
      no_fatal_error := rfl
      before_deadline := hpost.deadline_not_reached hdeadline heartbeat
      heartbeat_fresh := hheartbeat
      gpu_valid := htiming ▸ watchdogGpu_of_stageB receipt heartbeat hpost.gpu_telemetry
      adapter_matched := Bool.or_eq_false_iff.2
        ⟨bne_eq_false_iff_eq.2 hhigh, bne_eq_false_iff_eq.2 hlow⟩
      owned_valid := htiming ▸ watchdogOwned_of_stageB hhigh hlow hpost.owned_valid hpeak heartbeat
      owned_plus_free := by
        rw [hpost.ownedPlusFree_replayed]
        exact Bool.false_ne_true
      dxgi_owned_capacity := by
        rw [hpost.dxgiOwnedCapacity_replayed]
        exact Bool.false_ne_true
      cuda_consistent := by
        rw [hpost.ownedPlusFree_replayed]
        exact hpost.cuda_consistent
      owned_le_cap := by
        rw [hcap, hr]
        exact hpost.owned_le_cap
      peak_le_cap := by
        rw [hcap, hr]
        exact hpost.peak_le_cap
      thermal_available := available
      thermal_fresh := htiming ▸ sampled
      thermal_bounded := by
        rw [hr]
        exact ⟨_, bounds, hwarning, hstop⟩
      below_stop := by
        rw [hr]
        exact current.trans (lt_of_le_of_lt hwarning hstageAbounds)
      not_throttling := throttling
      no_power_brake := brake
      host_admitted := htiming ▸ hhost }
  rw [evaluateSupervisorWatchdog_of_passed hpassed]
  exact ⟨rfl, hcap⟩

/-- The Stage-B request of the unit tests meets every premise. -/
theorem watchdog_continues_at_admission_on_fixture :
    (evaluateSupervisorWatchdog Fixture.postReceipt
        (Fixture.postRequest.asWatchdogSample Fixture.postReceipt 10250)).continueWork = true ∧
      (evaluateSupervisorWatchdog Fixture.postReceipt
        (Fixture.postRequest.asWatchdogSample Fixture.postReceipt 10250)).effectiveCapBytes =
          Fixture.postReceipt.effectiveCapBytes := by
  obtain ⟨pre, hpre, hissued⟩ := Fixture.postRequest_pre
  refine watchdog_continues_at_admission hpre hissued Fixture.postRequest_admitted
    Fixture.postRequest_receipt (by decide) (by decide) ⟨by decide, ?_, ?_⟩
  · intro target htarget
    obtain rfl : (75 : Int) = target := Option.some.inj htarget
    decide
  · intro slowdown hslowdown
    obtain rfl : (80 : Int) = slowdown := Option.some.inj hslowdown
    decide

/-! ## The stop temperature of a sample

The watchdog recomputes the thermal bounds of every sample and refuses bounds above those
of the receipt. The temperature itself it compares with the receipt's stop temperature. -/

/-- The stop temperature that the reported limits imply: the lowest of 82 degrees, five below
the target and five below the slowdown. -/
def GpuThermalSample.impliedStop : Int :=
  min 82 (min (thermal.reportedTargetCelsius.elim 82 (· - 5))
    (thermal.reportedSlowdownCelsius.elim 82 (· - 5)))

theorem snd_tightenedBounds : (tightenedBounds thermal).2 = thermal.impliedStop := by
  rw [tightenedBounds, GpuThermalSample.impliedStop]
  cases thermal.reportedTargetCelsius <;> cases thermal.reportedSlowdownCelsius <;>
    simp only [Option.elim] <;> omega

theorem impliedStop_of_thermalBounds {thermal : GpuThermalSample} {bounds : ThermalBounds}
    (h : thermalBounds thermal = some bounds) :
    bounds.stop = thermal.impliedStop ∧ 0 < thermal.impliedStop := by
  unfold thermalBounds at h
  split at h
  · cases h
  extract_lets limits at h
  split at h
  · rename_i hpos
    obtain rfl := Option.some.inj h
    rw [← snd_tightenedBounds]
    exact ⟨rfl, hpos.2.1⟩
  · cases h

/-- The sample with another current temperature. -/
def SupervisorWatchdogSample.withCurrent (sample : SupervisorWatchdogSample) (celsius : Int) :
    SupervisorWatchdogSample :=
  { sample with thermal := { sample.thermal with currentCelsius := celsius } }

theorem thermalBounds_withCurrent {sample : SupervisorWatchdogSample} {celsius : Int}
    {bounds : ThermalBounds} (hvalid : watchdogValidTemperature celsius = true)
    (h : thermalBounds sample.thermal = some bounds) :
    thermalBounds (sample.withCurrent celsius).thermal = some bounds := by
  unfold thermalBounds at h ⊢
  split at h
  · cases h
  · rename_i hreported
    refine (if_neg fun hinvalid => hreported ?_).trans h
    rw [Bool.or_assoc, Bool.or_eq_true] at hinvalid ⊢
    have hcurrent : ¬ (!watchdogValidTemperature celsius) = true := by simp [hvalid]
    exact .inr (hinvalid.resolve_left hcurrent)

/-- Every valid temperature below the receipt's stop passes when one does. -/
theorem WatchdogPassed.withCurrent {admission : PostContextAdmissionReceipt}
    {sample : SupervisorWatchdogSample} (h : WatchdogPassed admission sample) {celsius : Int}
    (hvalid : watchdogValidTemperature celsius = true) (hlt : celsius < admission.gpuStopCelsius) :
    WatchdogPassed admission (sample.withCurrent celsius) := by
  obtain ⟨bounds, hbounds, hle⟩ := h.thermal_bounded
  exact { h with
    below_stop := hlt
    thermal_bounded := ⟨bounds, thermalBounds_withCurrent hvalid hbounds, hle⟩ }

/-- Among the temperatures of a sample with which work continues, all lie below the stop
temperature that the sample implies exactly when the device has not tightened its limits
below those of the receipt. -/
theorem implied_stop_enforced_iff (admission : PostContextAdmissionReceipt)
    (sample : SupervisorWatchdogSample)
    (hcontinues : (evaluateSupervisorWatchdog admission sample).continueWork = true) :
    (∀ celsius, (evaluateSupervisorWatchdog admission
        (sample.withCurrent celsius)).continueWork = true →
      celsius < sample.thermal.impliedStop ∧ celsius < admission.gpuStopCelsius) ↔
      sample.thermal.impliedStop = admission.gpuStopCelsius := by
  have hpassed := continueWork_iff.1 hcontinues
  obtain ⟨bounds, hbounds, -, hle⟩ := hpassed.thermal_bounded
  obtain ⟨hstop, hpos⟩ := impliedStop_of_thermalBounds hbounds
  rw [hstop] at hle
  constructor
  · intro henforced
    refine le_antisymm hle (not_lt.1 fun htightened => ?_)
    -- the implied stop temperature itself still continues
    have hvalid : watchdogValidTemperature sample.thermal.impliedStop = true := by
      have hle82 : sample.thermal.impliedStop ≤ 82 := min_le_left _ _
      simp only [watchdogValidTemperature, Bool.and_eq_true, decide_eq_true_eq]
      omega
    have hself := henforced _ (continueWork_iff.2 (hpassed.withCurrent hvalid htightened))
    exact lt_irrefl _ hself.1
  · intro hequal celsius hcelsius
    have hbelow : celsius < admission.gpuStopCelsius := (continueWork_iff.1 hcelsius).below_stop
    exact ⟨hequal ▸ hbelow, hbelow⟩

/-- A later sample of the device of the unit tests, which has lowered its target by a degree. -/
def Fixture.tightenedSample : SupervisorWatchdogSample :=
  let sample := Fixture.postRequest.asWatchdogSample Fixture.postReceipt 10250
  { sample with thermal := { sample.thermal with reportedTargetCelsius := some 74 } }

/-- Work continues at the stop temperature that the sample implies, a degree below the
receipt's. -/
theorem tightened_stop_ignored :
    Fixture.tightenedSample.thermal.impliedStop = 69 ∧ Fixture.postReceipt.gpuStopCelsius = 70 ∧
      (evaluateSupervisorWatchdog Fixture.postReceipt
        (Fixture.tightenedSample.withCurrent 69)).continueWork = true := by
  decide

/-- With the limits of the receipt the stop temperature is enforced. -/
theorem implied_stop_enforced_on_fixture :
    (evaluateSupervisorWatchdog Fixture.postReceipt
        ((Fixture.postRequest.asWatchdogSample Fixture.postReceipt 10250).withCurrent
          60)).continueWork = true ∧
      60 < Fixture.postRequest.thermal.impliedStop ∧ 60 < Fixture.postReceipt.gpuStopCelsius := by
  have hcontinue : (evaluateSupervisorWatchdog Fixture.postReceipt
      ((Fixture.postRequest.asWatchdogSample Fixture.postReceipt 10250).withCurrent
        60)).continueWork = true := by decide
  refine ⟨hcontinue, ?_⟩
  exact (implied_stop_enforced_iff Fixture.postReceipt
    (Fixture.postRequest.asWatchdogSample Fixture.postReceipt 10250) (by decide)).2
    (by decide) 60 hcontinue

end PrismInfer.Governor
