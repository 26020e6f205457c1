import PrismInfer.Governor.WatchdogAgreement

/-!
# The two thermal rules

Admission (`evaluate_thermal`) and the watchdog (`thermal_bounds`) each turn a
thermal sample into a warning and a stop temperature. The bounds are the same
expression, the guards in front of it are not: admission includes both ends of its
temperature range, the watchdog excludes them.

The rules agree on an available, fresh sample unless it is one that admission can use and that
reports a temperature at an end of the range: `thermal_sides_agree_iff`. Such samples occur, since
the NVML reader passes 200 degrees on (`makeAdaTlimitThermalSample`).
-/

namespace PrismInfer.Governor

/-- `make_ada_tlimit_thermal_sample` (gpu_thermal.cpp:75–104): the absolute limits are
the target specification less the two offsets. -/
def makeAdaTlimitThermalSample (currentCelsius targetSpecificationCelsius : UInt32)
    (gpuMaxTlimitOffset slowdownTlimitOffset : Int32)
    (capturedMonotonicMilliseconds : UInt64) (thermalThrottling powerBrakeSlowdown : Bool) :
    Option GpuThermalSample :=
  let targetAbsolute : Int := targetSpecificationCelsius.toNat - gpuMaxTlimitOffset.toInt
  let slowdownAbsolute : Int := targetSpecificationCelsius.toNat - slowdownTlimitOffset.toInt
  if capturedMonotonicMilliseconds = 0 ∨ currentCelsius > 200 ∨
      targetSpecificationCelsius > 200 ∨ targetAbsolute < 0 ∨ targetAbsolute > 200 ∨
      slowdownAbsolute < 0 ∨ slowdownAbsolute > 200 then
    none
  else
    some
      { available := true
        capturedMonotonicMilliseconds := capturedMonotonicMilliseconds
        currentCelsius := currentCelsius.toNat
        reportedTargetCelsius := some targetAbsolute
        reportedSlowdownCelsius := some slowdownAbsolute
        thermalThrottling := thermalThrottling
        powerBrakeSlowdown := powerBrakeSlowdown }

/-- A warning and a stop temperature that can be enforced: both positive, the warning
below the stop. -/
def UsableBounds (warning stop : Int) : Prop :=
  0 < warning ∧ 0 < stop ∧ warning < stop
  deriving Decidable

/-! ## Conditions on the reported temperatures -/

namespace GpuThermalSample

/-- All reported temperatures lie in the range of the admission side, ends included. -/
def WithinAdmissionRange (thermal : GpuThermalSample) : Prop :=
  (-100 ≤ thermal.currentCelsius ∧ thermal.currentCelsius ≤ 200) ∧
  (∀ target ∈ thermal.reportedTargetCelsius, -100 ≤ target ∧ target ≤ 200) ∧
  (∀ slowdown ∈ thermal.reportedSlowdownCelsius, -100 ≤ slowdown ∧ slowdown ≤ 200)

/-- The reported limits leave room for enforceable bounds: a target above 8 degrees, and
a slowdown temperature above 83 degrees or less than 3 degrees below the target. -/
def LimitsUsable (thermal : GpuThermalSample) : Prop :=
  (∀ target ∈ thermal.reportedTargetCelsius, 8 < target) ∧
  (∀ slowdown ∈ thermal.reportedSlowdownCelsius,
    83 < slowdown ∨ ∃ target ∈ thermal.reportedTargetCelsius, target - 3 < slowdown)

/-- Some temperature is an end of the admission range. Limits of -100 degrees are left
out: they leave no enforceable bounds. -/
def AtRangeEnd (thermal : GpuThermalSample) : Prop :=
  thermal.currentCelsius = -100 ∨ thermal.currentCelsius = 200 ∨
  thermal.reportedTargetCelsius = some 200 ∨ thermal.reportedSlowdownCelsius = some 200

end GpuThermalSample

variable {thermal : GpuThermalSample} {evaluated maximumAge : UInt64}

theorem usable_tightenedBounds_iff (thermal : GpuThermalSample) :
    UsableBounds (tightenedBounds thermal).1 (tightenedBounds thermal).2 ↔
      thermal.LimitsUsable := by
  unfold UsableBounds GpuThermalSample.LimitsUsable tightenedBounds
  cases thermal.reportedTargetCelsius with
  | none =>
    cases thermal.reportedSlowdownCelsius with
    | none => simp
    | some slowdown =>
      simp only [Option.mem_def, Option.some.injEq, reduceCtorEq, false_and, exists_false,
        or_false, forall_eq', IsEmpty.forall_iff, implies_true, true_and]
      omega
  | some target =>
    cases thermal.reportedSlowdownCelsius with
    | none =>
      simp only [Option.mem_def, Option.some.injEq, forall_eq', reduceCtorEq, IsEmpty.forall_iff,
        implies_true, and_true]
      omega
    | some slowdown =>
      simp only [Option.mem_def, Option.some.injEq, forall_eq', exists_eq_left']
      omega

/-- With enforceable bounds, the watchdog's range is the admission range without its ends. -/
theorem withinWatchdogRange_iff (hlimits : thermal.LimitsUsable) :
    thermal.WithinWatchdogRange ↔ thermal.WithinAdmissionRange ∧ ¬ thermal.AtRangeEnd := by
  obtain ⟨htarget, hslowdown⟩ := hlimits
  revert htarget hslowdown
  unfold GpuThermalSample.WithinWatchdogRange GpuThermalSample.WithinAdmissionRange
    GpuThermalSample.AtRangeEnd
  cases thermal.reportedTargetCelsius <;> cases thermal.reportedSlowdownCelsius <;>
    simp only [Option.mem_def, Option.some.injEq, forall_eq', exists_eq_left', reduceCtorEq,
      IsEmpty.forall_iff, implies_true, and_true, true_and, false_and, exists_false, or_false,
      false_or, forall_const] <;>
    omega

/-! ## Each side as a condition -/

theorem validTemperature_iff (value : Int) :
    validTemperature value = true ↔ -100 ≤ value ∧ value ≤ 200 := by
  simp [validTemperature]

theorem watchdogValidTemperature_iff (value : Int) :
    watchdogValidTemperature value = true ↔ -100 < value ∧ value < 200 := by
  simp [watchdogValidTemperature]

/-- On an available, fresh sample, admission finds a decision within its range only, and
that decision has the tightened bounds. -/
theorem evaluateThermal_bounds (havailable : thermal.available = true)
    (hfresh : sampleIsFresh thermal.capturedMonotonicMilliseconds evaluated maximumAge = true)
    (warning stop : Int) : (∃ decision ∈ evaluateThermal thermal evaluated maximumAge,
        decision.warningCelsius = warning ∧ decision.stopCelsius = stop) ↔
      thermal.WithinAdmissionRange ∧ tightenedBounds thermal = (warning, stop) := by
  have hguard : (!thermal.available ||
      !sampleIsFresh thermal.capturedMonotonicMilliseconds evaluated maximumAge ||
      !validTemperature thermal.currentCelsius ||
      thermal.reportedTargetCelsius.any (fun target => !validTemperature target) ||
      thermal.reportedSlowdownCelsius.any (fun slowdown => !validTemperature slowdown)) = false ↔
        thermal.WithinAdmissionRange := by
    simp only [havailable, hfresh, Bool.not_true, Bool.false_or, Bool.or_eq_false_iff,
      Option.any_eq_false, Bool.not_eq_false', validTemperature_iff, and_assoc,
      GpuThermalSample.WithinAdmissionRange]
    rfl
  rw [← hguard]
  unfold evaluateThermal
  split
  next hinvalid => simp [hinvalid]
  next hvalid =>
    simp only [Bool.not_eq_true] at hvalid
    dsimp only
    -- Both branches carry the same bounds; they differ in `safe_for_admission`.
    split <;> simp [hvalid, Prod.ext_iff]

theorem thermalBounds_eq_some_iff (thermal : GpuThermalSample) (bounds : ThermalBounds) :
    thermalBounds thermal = some bounds ↔
      thermal.WithinWatchdogRange ∧ thermal.LimitsUsable ∧
        tightenedBounds thermal = (bounds.warning, bounds.stop) := by
  have hguard : (!watchdogValidTemperature thermal.currentCelsius ||
      thermal.reportedTargetCelsius.any (fun target => !watchdogValidTemperature target) ||
      thermal.reportedSlowdownCelsius.any
        (fun slowdown => !watchdogValidTemperature slowdown)) = false ↔
        thermal.WithinWatchdogRange := by
    simp only [Bool.or_eq_false_iff, Option.any_eq_false, Bool.not_eq_false',
      watchdogValidTemperature_iff, and_assoc, GpuThermalSample.WithinWatchdogRange]
    rfl
  obtain ⟨warning, stop⟩ := bounds
  rw [← hguard, ← usable_tightenedBounds_iff]
  unfold thermalBounds UsableBounds
  split
  next hinvalid => simp [hinvalid]
  next hvalid =>
    simp only [Bool.not_eq_true] at hvalid
    dsimp only
    split
    next husable =>
      simp only [gt_iff_lt] at husable
      simp [hvalid, husable, Prod.ext_iff]
    next hunusable =>
      simp only [gt_iff_lt] at hunusable
      simp [hunusable]

theorem exists_usable_iff (havailable : thermal.available = true)
    (hfresh : sampleIsFresh thermal.capturedMonotonicMilliseconds evaluated maximumAge = true) :
    (∃ decision ∈ evaluateThermal thermal evaluated maximumAge,
        UsableBounds decision.warningCelsius decision.stopCelsius) ↔
      thermal.WithinAdmissionRange ∧ thermal.LimitsUsable := by
  have hbounds := evaluateThermal_bounds havailable hfresh
  rw [← usable_tightenedBounds_iff]
  constructor
  · rintro ⟨decision, hdecision, husable⟩
    obtain ⟨hrange, heq⟩ := (hbounds _ _).1 ⟨decision, hdecision, rfl, rfl⟩
    rw [heq]
    exact ⟨hrange, husable⟩
  · rintro ⟨hrange, husable⟩
    obtain ⟨decision, hdecision, hwarning, hstop⟩ := (hbounds (tightenedBounds thermal).1
      (tightenedBounds thermal).2).2 ⟨hrange, rfl⟩
    rw [← hwarning, ← hstop] at husable
    exact ⟨decision, hdecision, husable⟩

theorem thermalBounds_isSome_iff (thermal : GpuThermalSample) :
    (thermalBounds thermal).isSome = true ↔
      thermal.WithinWatchdogRange ∧ thermal.LimitsUsable := by
  rw [Option.isSome_iff_exists]
  simp only [thermalBounds_eq_some_iff]
  constructor
  · rintro ⟨-, hrange, hlimits, -⟩
    exact ⟨hrange, hlimits⟩
  · rintro ⟨hrange, hlimits⟩
    exact ⟨⟨_, _⟩, hrange, hlimits, rfl⟩

/-! ## Agreement -/

/-- The two rules agree on a sample: admission finds enforceable bounds exactly when the
watchdog finds bounds, and the bounds are the same. -/
def ThermalSidesAgree (thermal : GpuThermalSample) (evaluated maximumAge : UInt64) : Prop :=
  ((∃ decision ∈ evaluateThermal thermal evaluated maximumAge,
      UsableBounds decision.warningCelsius decision.stopCelsius) ↔
    (thermalBounds thermal).isSome = true) ∧
  ∀ decision ∈ evaluateThermal thermal evaluated maximumAge, ∀ bounds ∈ thermalBounds thermal,
    decision.warningCelsius = bounds.warning ∧ decision.stopCelsius = bounds.stop

/-- Where both sides find bounds, they find the same. -/
theorem bounds_eq_of_both (havailable : thermal.available = true)
    (hfresh : sampleIsFresh thermal.capturedMonotonicMilliseconds evaluated maximumAge = true)
    {decision : ThermalDecision} {bounds : ThermalBounds}
    (hdecision : evaluateThermal thermal evaluated maximumAge = some decision)
    (hbounds : thermalBounds thermal = some bounds) :
    decision.warningCelsius = bounds.warning ∧ decision.stopCelsius = bounds.stop := by
  obtain ⟨-, hadmission⟩ :=
    (evaluateThermal_bounds havailable hfresh _ _).1 ⟨decision, hdecision, rfl, rfl⟩
  obtain ⟨-, -, hwatchdog⟩ := (thermalBounds_eq_some_iff thermal bounds).1 hbounds
  exact Prod.ext_iff.1 (hadmission.symm.trans hwatchdog)

/-- **The two thermal rules.** On an available, fresh sample admission and the watchdog
agree, unless admission finds enforceable bounds in a sample with a temperature at an
end of its range. -/
theorem thermal_sides_agree_iff (havailable : thermal.available = true)
    (hfresh : sampleIsFresh thermal.capturedMonotonicMilliseconds evaluated maximumAge = true) :
    ThermalSidesAgree thermal evaluated maximumAge ↔
      ¬ (thermal.WithinAdmissionRange ∧ thermal.LimitsUsable ∧ thermal.AtRangeEnd) := by
  unfold ThermalSidesAgree
  rw [exists_usable_iff havailable hfresh, thermalBounds_isSome_iff]
  constructor
  · rintro ⟨hagree, -⟩ ⟨hrange, hlimits, hend⟩
    have hwatchdog := (hagree.1 ⟨hrange, hlimits⟩).1
    exact ((withinWatchdogRange_iff hlimits).1 hwatchdog).2 hend
  · intro hoff
    refine ⟨⟨?_, ?_⟩, fun decision hdecision bounds hbounds =>
      bounds_eq_of_both havailable hfresh hdecision hbounds⟩
    · rintro ⟨hrange, hlimits⟩
      have hend : ¬ thermal.AtRangeEnd := fun hend => hoff ⟨hrange, hlimits, hend⟩
      exact ⟨(withinWatchdogRange_iff hlimits).2 ⟨hrange, hend⟩, hlimits⟩
    · rintro ⟨hrange, hlimits⟩
      exact ⟨((withinWatchdogRange_iff hlimits).1 hrange).1, hlimits⟩

/-- A GPU at 40 degrees with a target of 85 and a slowdown temperature of 95 degrees. -/
theorem thermal_sides_agree_at_forty_degrees :
    ThermalSidesAgree
      { available := true, capturedMonotonicMilliseconds := 1000, currentCelsius := 40,
        reportedTargetCelsius := some 85, reportedSlowdownCelsius := some 95 } 1200 500 := by
  refine (thermal_sides_agree_iff rfl (by decide)).2 ?_
  rintro ⟨-, -, hend⟩
  simp [GpuThermalSample.AtRangeEnd] at hend

/-- A sample the NVML reader makes, with a slowdown temperature of 200 degrees: admission
finds it safe with bounds 77 and 80, the watchdog finds no bounds. -/
theorem slowdown_at_two_hundred_degrees_disagrees :
    ∃ thermal, makeAdaTlimitThermalSample 40 85 0 (-115) 1000 false false = some thermal ∧
      thermal.available = true ∧
      sampleIsFresh thermal.capturedMonotonicMilliseconds 1200 500 = true ∧
      evaluateThermal thermal 1200 500 = some ⟨77, 80, true⟩ ∧
      thermalBounds thermal = none ∧ ¬ ThermalSidesAgree thermal 1200 500 := by
  refine ⟨_, rfl, by decide, by decide, by decide, by decide, ?_⟩
  rintro ⟨hagree, -⟩
  exact absurd (hagree.1 ⟨⟨77, 80, true⟩, by decide, by decide⟩) (by decide)

end PrismInfer.Governor
