import PrismInfer.Governor.HostAdmission

/-!
# Host admission in exact arithmetic

`evaluate_host_admission` is a chain of checked sums, rounded fractions and subtractions on
64-bit values. Here the decision is stated over the natural numbers
(`HostAdmissible`): what is planned, with its uncertainty, the pinned bytes and the reserve,
fits in what is available. `evaluateHostAdmission_admitted_iff` says that the code decides
exactly that.

The rest is read off the exact form, in which every term of a policy or a request stands on
the smaller side of an inequality: raising one never admits what was rejected.
-/

namespace PrismInfer.Governor

open HostAdmissionDecision

/-! ## The exact decision -/

/-- The telemetry is available, fresh for the request, authoritative and free of
contradictions. -/
structure HostSampleUsable (sample : HostTelemetrySample) (request : HostAdmissionRequest) :
    Prop where
  available : sample.available = true
  captured : sample.capturedMonotonicMilliseconds ≠ 0
  evaluated : request.evaluationMonotonicMilliseconds ≠ 0
  age_set : request.maxTelemetryAgeMilliseconds ≠ 0
  age_bounded : request.maxTelemetryAgeMilliseconds ≤ kMaximumTelemetryAgeMilliseconds
  clock : sample.capturedMonotonicMilliseconds ≤ request.evaluationMonotonicMilliseconds
  fresh : request.evaluationMonotonicMilliseconds - sample.capturedMonotonicMilliseconds ≤
    request.maxTelemetryAgeMilliseconds
  authoritative : sample.systemCommitSource = "get_performance_info"
  memory_known : sample.systemMemoryTotalBytes ≠ 0
  memory : sample.systemMemoryAvailableBytes ≤ sample.systemMemoryTotalBytes
  commit : sample.systemCommitTotalBytes ≤ sample.systemCommitLimitBytes
  headroom : sample.systemCommitAvailableBytes =
    sample.systemCommitLimitBytes - sample.systemCommitTotalBytes

/-- The lane is one of the two enumerators. -/
def HostAdmissionLane.Valid (lane : HostAdmissionLane) : Prop :=
  lane = .developmentNonPromotable ∨ lane = .evidencePromotable

namespace HostReservePolicy

/-- The physical reserve a policy asks for: its floor or its fraction of the memory,
rounded up. -/
def physicalReserve (policy : HostReservePolicy) (sample : HostTelemetrySample) : ℕ :=
  max policy.physicalReserveFloorBytes.toNat
    (basisPointRatio sample.systemMemoryTotalBytes.toNat
      policy.physicalReserveBasisPoints.toNat .up)

/-- The commit reserve a policy asks for: its floor, its fraction of the commit limit or its
fraction of the memory. -/
def commitReserve (policy : HostReservePolicy) (sample : HostTelemetrySample) : ℕ :=
  max (max policy.commitReserveFloorBytes.toNat
    (basisPointRatio sample.systemCommitLimitBytes.toNat
      policy.commitLimitReserveBasisPoints.toNat .up))
    (basisPointRatio sample.systemMemoryTotalBytes.toNat
      policy.commitPhysicalReserveBasisPoints.toNat .up)

/-- All fractions of the policy are at most the whole. -/
structure BasisPointsValid (policy : HostReservePolicy) : Prop where
  physical : policy.physicalReserveBasisPoints.toNat ≤ 10000
  commitLimit : policy.commitLimitReserveBasisPoints.toNat ≤ 10000
  commitPhysical : policy.commitPhysicalReserveBasisPoints.toNat ≤ 10000

end HostReservePolicy

/-- The physical reserve of a decision: the larger of the lane's canonical one, the policy's
and the explicit one. -/
def exactPhysicalReserve (sample : HostTelemetrySample) (policy : HostReservePolicy)
    (request : HostAdmissionRequest) : ℕ :=
  max (max ((defaultHostReservePolicy policy.lane).physicalReserve sample)
    (policy.physicalReserve sample)) request.explicitPhysicalReserveBytes.toNat

/-- The commit reserve of a decision. -/
def exactCommitReserve (sample : HostTelemetrySample) (policy : HostReservePolicy)
    (request : HostAdmissionRequest) : ℕ :=
  max (max ((defaultHostReservePolicy policy.lane).commitReserve sample)
    (policy.commitReserve sample)) request.explicitCommitReserveBytes.toNat

/-- What host admission is for, over the natural numbers. -/
structure HostAdmissible (sample : HostTelemetrySample) (policy : HostReservePolicy)
    (request : HostAdmissionRequest) : Prop where
  resident : request.plannedIncrementalResidentBytes.toNat +
    request.residentUncertaintyBytes.toNat + request.pinnedHostBytes.toNat +
    exactPhysicalReserve sample policy request ≤ sample.systemMemoryAvailableBytes.toNat
  commit : request.plannedIncrementalCommitBytes.toNat +
    request.commitUncertaintyBytes.toNat + request.pinnedHostBytes.toNat +
    exactCommitReserve sample policy request ≤
      sample.systemCommitLimitBytes.toNat - sample.systemCommitTotalBytes.toNat
  pinned : request.pinnedHostBytes.toNat ≤
    min (512 * 2 ^ 20) (sample.systemMemoryTotalBytes.toNat * 2 / 100)
  basis_points : policy.BasisPointsValid
  promotion : ¬ (request.promotionRequested = true ∧ policy.lane = .developmentNonPromotable)

/-! ## The helpers of the decision -/

theorem basisPointRatio_mono (value : ℕ) {low high : ℕ} (h : low ≤ high) :
    basisPointRatio value low .up ≤ basisPointRatio value high .up := by
  have hmul : value * low ≤ value * high := Nat.mul_le_mul_left _ h
  simp only [basisPointRatio, Nat.ceilDiv_eq_add_pred_div]
  omega

/-- The fraction of the larger override is the larger of the fractions. -/
theorem basisPointRatio_max (value low high : ℕ) : basisPointRatio value (max low high) .up =
      max (basisPointRatio value low .up) (basisPointRatio value high .up) :=
  (show Monotone fun bp => basisPointRatio value bp .up from
    fun _ _ h => basisPointRatio_mono value h).map_max

theorem checkedBasisPointsU64_isNone_iff (value : UInt64) (basisPoints : UInt32)
    (rounding : RatioRounding) : (checkedBasisPointsU64 value basisPoints rounding).isNone = true ↔
      10000 < basisPoints.toNat := by
  by_cases h : basisPoints.toNat ≤ 10000
  · obtain ⟨ratio, hratio, -⟩ := checkedBasisPointsU64_spec value h rounding
    simp [hratio, h]
  · have hover : basisPoints.toUInt64 > kBasisPointDenominator := by
      rw [gt_iff_lt, UInt64.lt_iff_toNat_lt, UInt32.toNat_toUInt64, toNat_kBasisPointDenominator]
      omega
    simp [checkedBasisPointsU64, hover]
    omega

theorem checkedBasisPointsU64_getD {value : UInt64} {basisPoints : UInt32}
    (h : basisPoints.toNat ≤ 10000) (rounding : RatioRounding) :
    ((checkedBasisPointsU64 value basisPoints rounding).getD 0).toNat =
      basisPointRatio value.toNat basisPoints.toNat rounding := by
  obtain ⟨ratio, hratio, hvalue⟩ := checkedBasisPointsU64_spec value h rounding
  rw [hratio]
  exact hvalue

theorem requiredHostBytes_eq_some {planned uncertainty pinned total : UInt64} :
    requiredHostBytes planned uncertainty pinned = some total ↔
      total.toNat = planned.toNat + uncertainty.toNat + pinned.toNat := by
  simp only [requiredHostBytes, Option.bind_eq_bind, Option.bind_eq_some_iff,
    checkedAddU64_eq_some]
  constructor
  · rintro ⟨withoutPinned, hwithoutPinned, htotal⟩
    omega
  · intro htotal
    have hfits := total.toNat_lt
    exact ⟨planned + uncertainty, toNat_add_of_lt (by omega), by
      rw [toNat_add_of_lt (by omega)]; exact htotal⟩

/-! ## The decision -/

namespace HostAdmissionDecision

variable {c : Prop} [Decidable c] {decision rest : HostAdmissionDecision} {reason : String}

/-- One check of the decision: it is passed, and the rest admits. -/
theorem admitted_ite_iff (h : decision.admitted = false) :
    (if c then decision.reject reason else rest).admitted = true ↔
      ¬ c ∧ rest.admitted = true := by
  by_cases hc : c
  · simp [hc, reject, h]
  · simp [hc]

end HostAdmissionDecision

variable {sample : HostTelemetrySample} {policy policy' : HostReservePolicy}
  {request request' : HostAdmissionRequest}

/-- The canonical fractions are valid, so the larger of the two is valid when the policy's
is. -/
theorem canonical_basisPointsValid (lane : HostAdmissionLane) :
    (defaultHostReservePolicy lane).BasisPointsValid := by
  cases lane with
  | developmentNonPromotable | evidencePromotable | invalid =>
    exact ⟨by decide, by decide, by decide⟩

/-- The reserves as the code takes them: the larger basis points first, then the larger of
the floors, the fraction and the explicit reserve. -/
theorem toNat_physicalReserve (h : policy.BasisPointsValid) :
    (max (max (max (defaultHostReservePolicy policy.lane).physicalReserveFloorBytes
        policy.physicalReserveFloorBytes)
        ((checkedBasisPointsU64 sample.systemMemoryTotalBytes
          (max (defaultHostReservePolicy policy.lane).physicalReserveBasisPoints
            policy.physicalReserveBasisPoints) .up).getD 0))
        request.explicitPhysicalReserveBytes).toNat =
      exactPhysicalReserve sample policy request := by
  have hcanonical := canonical_basisPointsValid policy.lane
  rw [UInt64.toNat_max, UInt64.toNat_max, UInt64.toNat_max, checkedBasisPointsU64_getD (by
    rw [UInt32.toNat_max]; exact max_le hcanonical.physical h.physical), UInt32.toNat_max,
    basisPointRatio_max]
  unfold exactPhysicalReserve HostReservePolicy.physicalReserve
  ac_rfl

theorem toNat_commitReserve (h : policy.BasisPointsValid) :
    (max (max (max (max (defaultHostReservePolicy policy.lane).commitReserveFloorBytes
        policy.commitReserveFloorBytes)
        ((checkedBasisPointsU64 sample.systemCommitLimitBytes
          (max (defaultHostReservePolicy policy.lane).commitLimitReserveBasisPoints
            policy.commitLimitReserveBasisPoints) .up).getD 0))
        ((checkedBasisPointsU64 sample.systemMemoryTotalBytes
          (max (defaultHostReservePolicy policy.lane).commitPhysicalReserveBasisPoints
            policy.commitPhysicalReserveBasisPoints) .up).getD 0))
        request.explicitCommitReserveBytes).toNat =
      exactCommitReserve sample policy request := by
  have hcanonical := canonical_basisPointsValid policy.lane
  rw [UInt64.toNat_max, UInt64.toNat_max, UInt64.toNat_max, UInt64.toNat_max,
    checkedBasisPointsU64_getD (by
      rw [UInt32.toNat_max]; exact max_le hcanonical.commitLimit h.commitLimit),
    checkedBasisPointsU64_getD (by
      rw [UInt32.toNat_max]; exact max_le hcanonical.commitPhysical h.commitPhysical),
    UInt32.toNat_max, UInt32.toNat_max, basisPointRatio_max, basisPointRatio_max]
  unfold exactCommitReserve HostReservePolicy.commitReserve
  ac_rfl

theorem basisPoints_max_le_iff (policy : HostReservePolicy) :
    ¬ (10000 < (max (defaultHostReservePolicy policy.lane).physicalReserveBasisPoints
          policy.physicalReserveBasisPoints).toNat ∨
        10000 < (max (defaultHostReservePolicy policy.lane).commitLimitReserveBasisPoints
          policy.commitLimitReserveBasisPoints).toNat ∨
        10000 < (max (defaultHostReservePolicy policy.lane).commitPhysicalReserveBasisPoints
          policy.commitPhysicalReserveBasisPoints).toNat) ↔ policy.BasisPointsValid := by
  have hcanonical := canonical_basisPointsValid policy.lane
  simp only [UInt32.toNat_max, lt_max_iff, not_or, not_lt]
  constructor
  · rintro ⟨⟨-, hphysical⟩, ⟨-, hlimit⟩, -, hcommit⟩
    exact ⟨hphysical, hlimit, hcommit⟩
  · rintro ⟨hphysical, hlimit, hcommit⟩
    exact ⟨⟨hcanonical.physical, hphysical⟩, ⟨hcanonical.commitLimit, hlimit⟩,
      hcanonical.commitPhysical, hcommit⟩

/-- A requirement fits above a reserve exactly when their exact sum fits: the two checked
additions, the comparison with the reserve and the subtraction are one inequality. -/
theorem required_fits_iff {planned uncertainty pinned reserve room : UInt64} :
    (¬ room < reserve ∧ ¬ (requiredHostBytes planned uncertainty pinned).isNone = true ∧
      ¬ (requiredHostBytes planned uncertainty pinned).getD 0 > room - reserve) ↔
      planned.toNat + uncertainty.toNat + pinned.toNat + reserve.toNat ≤ room.toNat := by
  constructor
  · rintro ⟨hreserve, hsome, hfits⟩
    rw [UInt64.not_lt] at hreserve
    obtain ⟨total, htotal⟩ :
        ∃ total, requiredHostBytes planned uncertainty pinned = some total := by
      simpa [Option.ne_none_iff_exists'] using hsome
    rw [htotal, Option.getD_some, gt_iff_lt, UInt64.not_lt, UInt64.le_iff_toNat_le,
      UInt64.toNat_sub_of_le _ _ hreserve, requiredHostBytes_eq_some.1 htotal] at hfits
    have := UInt64.le_iff_toNat_le.1 hreserve
    omega
  · intro hsum
    have hroom := room.toNat_lt
    have hreserve : reserve ≤ room := UInt64.le_iff_toNat_le.2 (by omega)
    have htotal : requiredHostBytes planned uncertainty pinned =
        some (planned + uncertainty + pinned) := by
      rw [requiredHostBytes_eq_some, toNat_add_of_lt (by rw [toNat_add_of_lt] <;> omega),
        toNat_add_of_lt (by omega)]
    refine ⟨UInt64.not_lt.2 hreserve, by simp [htotal], ?_⟩
    rw [htotal, Option.getD_some, gt_iff_lt, UInt64.not_lt, UInt64.le_iff_toNat_le,
      UInt64.toNat_sub_of_le _ _ hreserve, requiredHostBytes_eq_some.1 htotal]
    omega

theorem pinnedCap_iff (pinned total : UInt64) :
    (¬ (checkedBasisPointsU64 total 200 .down).isNone = true ∧
      ¬ pinned > min (512 * kMiB) ((checkedBasisPointsU64 total 200 .down).getD 0)) ↔
      pinned.toNat ≤ min (512 * 2 ^ 20) (total.toNat * 2 / 100) := by
  have hbasis : (200 : UInt32).toNat ≤ 10000 := by decide
  have hfloor : basisPointRatio total.toNat (200 : UInt32).toNat .down =
      total.toNat * 2 / 100 := by
    show total.toNat * 200 / 10000 = _
    omega
  rw [checkedBasisPointsU64_isNone_iff, gt_iff_lt, UInt64.not_lt, UInt64.le_iff_toNat_le,
    UInt64.toNat_min, checkedBasisPointsU64_getD hbasis, hfloor]
  exact and_iff_right (by decide)

/-- **Host admission is exact.** The decision admits exactly for a valid lane, usable
telemetry and a request that fits over the natural numbers. -/
theorem evaluateHostAdmission_admitted_iff (sample : HostTelemetrySample)
    (policy : HostReservePolicy) (request : HostAdmissionRequest) :
    (evaluateHostAdmission sample policy request).admitted = true ↔
      policy.lane.Valid ∧ HostSampleUsable sample request ∧
        HostAdmissible sample policy request := by
  unfold evaluateHostAdmission
  extract_lets decision commitHeadroom decision₁ canonicalPolicy physicalBasisPoints
    commitLimitBasisPoints commitPhysicalBasisPoints physicalFraction commitLimitFraction
    commitPhysicalFraction decision₂ physicalPayload commitPayload decision₃ pinnedCap decision₄
    requiredResident decision₅ requiredCommit decision₆
  iterate 19 rw [admitted_ite_iff rfl]
  have hphysicalReserve (hbasis : policy.BasisPointsValid) :
      decision₂.physicalReserveBytes.toNat = exactPhysicalReserve sample policy request :=
    toNat_physicalReserve hbasis
  have hcommitReserve (hbasis : policy.BasisPointsValid) :
      decision₂.commitReserveBytes.toNat = exactCommitReserve sample policy request :=
    toNat_commitReserve hbasis
  have hbasis_iff : ¬ (physicalFraction.isNone = true ∨ commitLimitFraction.isNone = true ∨
      commitPhysicalFraction.isNone = true) ↔ policy.BasisPointsValid := by
    simp only [physicalFraction, commitLimitFraction, commitPhysicalFraction,
      checkedBasisPointsU64_isNone_iff]
    exact basisPoints_max_le_iff policy
  constructor
  · rintro ⟨hlane, havailable, hstamps, hage, hclock, hfresh, hsource, hcontradiction, hheadroom,
      hfractions, hphysical, hcommit, hpinnedCap, hpinned, hresident, hrequired, hresidentFits,
      hcommitFits, hpromotion, -⟩
    have hbasis := hbasis_iff.1 hfractions
    have hcommitSample := UInt64.not_lt.1 fun h => hcontradiction (.inr (.inr h))
    have hresidentExact := required_fits_iff.1 ⟨hphysical, hresident, hresidentFits⟩
    have hcommitExact := required_fits_iff.1 ⟨hcommit, hrequired, hcommitFits⟩
    rw [hphysicalReserve hbasis] at hresidentExact
    rw [hcommitReserve hbasis, UInt64.toNat_sub_of_le _ _ hcommitSample] at hcommitExact
    refine ⟨?_, ?_, hresidentExact, hcommitExact, (pinnedCap_iff _ _).1 ⟨hpinnedCap, hpinned⟩,
      hbasis, hpromotion⟩
    · simpa [HostAdmissionLane.Valid, Classical.or_iff_not_imp_left] using hlane
    · exact
        { available := by simpa using havailable
          captured := fun h => hstamps (.inl h)
          evaluated := fun h => hstamps (.inr h)
          age_set := fun h => hage (.inl h)
          age_bounded := UInt64.not_lt.1 fun h => hage (.inr h)
          clock := UInt64.not_lt.1 hclock
          fresh := UInt64.not_lt.1 hfresh
          authoritative := not_not.1 hsource
          memory_known := fun h => hcontradiction (.inl h)
          memory := UInt64.not_lt.1 fun h => hcontradiction (.inr (.inl h))
          commit := hcommitSample
          headroom := not_not.1 hheadroom }
  · rintro ⟨hlane, husable, hfits⟩
    have hresidentExact := hfits.resident
    have hcommitExact := hfits.commit
    rw [← hphysicalReserve hfits.basis_points] at hresidentExact
    rw [← hcommitReserve hfits.basis_points, ← UInt64.toNat_sub_of_le _ _ husable.commit]
      at hcommitExact
    obtain ⟨hphysical, hresident, hresidentFits⟩ := required_fits_iff.2 hresidentExact
    obtain ⟨hcommit, hrequired, hcommitFits⟩ := required_fits_iff.2 hcommitExact
    obtain ⟨hpinnedCap, hpinned⟩ := (pinnedCap_iff _ _).2 hfits.pinned
    refine ⟨?_, ?_, ?_, ?_, UInt64.not_lt.2 husable.clock, UInt64.not_lt.2 husable.fresh,
      not_not.2 husable.authoritative, ?_, not_not.2 husable.headroom,
      hbasis_iff.2 hfits.basis_points, hphysical, hcommit, hpinnedCap, hpinned, hresident,
      hrequired, hresidentFits, hcommitFits, hfits.promotion, rfl⟩
    · rintro ⟨hdevelopment, hevidence⟩
      exact hlane.elim hdevelopment hevidence
    · simp [husable.available]
    · exact not_or.2 ⟨husable.captured, husable.evaluated⟩
    · exact not_or.2 ⟨husable.age_set, UInt64.not_lt.2 husable.age_bounded⟩
    · exact not_or.2 ⟨husable.memory_known,
        not_or.2 ⟨UInt64.not_lt.2 husable.memory, UInt64.not_lt.2 husable.commit⟩⟩

/-! ## The reserves of a decision -/

namespace HostAdmissionDecision

/-- The two reserves that a decision reports. -/
def reserves (decision : HostAdmissionDecision) : UInt64 × UInt64 :=
  (decision.physicalReserveBytes, decision.commitReserveBytes)

variable {c : Prop} [Decidable c] {decision rest : HostAdmissionDecision} {reason : String}
  {expected : UInt64 × UInt64}

theorem reserves_ite_neg (hc : ¬ c) (hrest : rest.reserves = expected) :
    (if c then decision.reject reason else rest).reserves = expected := by
  rw [if_neg hc]
  exact hrest

/-- A check made after the reserves are set leaves them alone. -/
theorem reserves_ite (hdecision : decision.reserves = expected) (hrest : rest.reserves = expected) :
    (if c then decision.reject reason else rest).reserves = expected := by
  split
  · exact hdecision
  · exact hrest

end HostAdmissionDecision

/-- With usable telemetry and valid fractions, every decision, admitted or not, reports the
exact reserves. -/
theorem reserves_eq_exact (hlane : policy.lane.Valid) (husable : HostSampleUsable sample request)
    (hbasis : policy.BasisPointsValid) :
    ∃ reserves, (evaluateHostAdmission sample policy request).reserves = reserves ∧
      reserves.1.toNat = exactPhysicalReserve sample policy request ∧
      reserves.2.toNat = exactCommitReserve sample policy request := by
  have hlane' : ¬ (policy.lane ≠ .developmentNonPromotable ∧
      policy.lane ≠ .evidencePromotable) := fun h => hlane.elim h.1 h.2
  refine ⟨(_, _), ?_, toNat_physicalReserve hbasis, toNat_commitReserve hbasis⟩
  unfold evaluateHostAdmission
  extract_lets _ _ _ _ _ _ _ physicalFraction commitLimitFraction commitPhysicalFraction
  refine reserves_ite_neg hlane' ?_
  refine reserves_ite_neg (by simp [husable.available]) ?_
  refine reserves_ite_neg
    (not_or.2 ⟨husable.captured, husable.evaluated⟩) ?_
  refine reserves_ite_neg
    (not_or.2 ⟨husable.age_set, UInt64.not_lt.2 husable.age_bounded⟩) ?_
  refine reserves_ite_neg (UInt64.not_lt.2 husable.clock) ?_
  refine reserves_ite_neg (UInt64.not_lt.2 husable.fresh) ?_
  refine reserves_ite_neg (not_not.2 husable.authoritative) ?_
  refine reserves_ite_neg (not_or.2 ⟨husable.memory_known,
    not_or.2 ⟨UInt64.not_lt.2 husable.memory, UInt64.not_lt.2 husable.commit⟩⟩) ?_
  refine reserves_ite_neg (not_not.2 husable.headroom) ?_
  refine reserves_ite_neg ?_ ?_
  · simp only [physicalFraction, commitLimitFraction, commitPhysicalFraction,
      checkedBasisPointsU64_isNone_iff]
    exact (basisPoints_max_le_iff policy).2 hbasis
  -- The later checks read the reserves and never write them.
  iterate 9 refine reserves_ite rfl ?_
  rfl

theorem canonical_le_exactPhysicalReserve (sample : HostTelemetrySample)
    (policy : HostReservePolicy) (request : HostAdmissionRequest) :
    (defaultHostReservePolicy policy.lane).physicalReserve sample ≤
      exactPhysicalReserve sample policy request :=
  (le_max_left _ _).trans (le_max_left _ _)

theorem canonical_le_exactCommitReserve (sample : HostTelemetrySample) (policy : HostReservePolicy)
    (request : HostAdmissionRequest) : (defaultHostReservePolicy policy.lane).commitReserve sample ≤
      exactCommitReserve sample policy request :=
  (le_max_left _ _).trans (le_max_left _ _)

/-! ## Raising a term -/

/-- The second policy is the first with some overrides raised. -/
structure HostReservePolicy.RaisedTo (policy policy' : HostReservePolicy) : Prop where
  lane : policy'.lane = policy.lane
  physicalFloor : policy.physicalReserveFloorBytes ≤ policy'.physicalReserveFloorBytes
  physical : policy.physicalReserveBasisPoints ≤ policy'.physicalReserveBasisPoints
  commitFloor : policy.commitReserveFloorBytes ≤ policy'.commitReserveFloorBytes
  commitLimit : policy.commitLimitReserveBasisPoints ≤ policy'.commitLimitReserveBasisPoints
  commitPhysical : policy.commitPhysicalReserveBasisPoints ≤
    policy'.commitPhysicalReserveBasisPoints

/-- The second request is the first with some terms or explicit reserves raised. -/
structure HostAdmissionRequest.RaisedTo (request request' : HostAdmissionRequest) : Prop where
  resident : request.plannedIncrementalResidentBytes ≤ request'.plannedIncrementalResidentBytes
  commit : request.plannedIncrementalCommitBytes ≤ request'.plannedIncrementalCommitBytes
  residentUncertainty : request.residentUncertaintyBytes ≤ request'.residentUncertaintyBytes
  commitUncertainty : request.commitUncertaintyBytes ≤ request'.commitUncertaintyBytes
  pinned : request.pinnedHostBytes ≤ request'.pinnedHostBytes
  physicalReserve : request.explicitPhysicalReserveBytes ≤ request'.explicitPhysicalReserveBytes
  commitReserve : request.explicitCommitReserveBytes ≤ request'.explicitCommitReserveBytes
  evaluated : request'.evaluationMonotonicMilliseconds = request.evaluationMonotonicMilliseconds
  age : request'.maxTelemetryAgeMilliseconds = request.maxTelemetryAgeMilliseconds
  promotion : request'.promotionRequested = request.promotionRequested

theorem exactPhysicalReserve_mono (sample : HostTelemetrySample) (hpolicy : policy.RaisedTo policy')
    (hrequest : request.RaisedTo request') : exactPhysicalReserve sample policy request ≤
      exactPhysicalReserve sample policy' request' := by
  unfold exactPhysicalReserve HostReservePolicy.physicalReserve
  rw [hpolicy.lane]
  have hratio := basisPointRatio_mono sample.systemMemoryTotalBytes.toNat
    (UInt32.le_iff_toNat_le.1 hpolicy.physical)
  have hfloor := UInt64.le_iff_toNat_le.1 hpolicy.physicalFloor
  have hexplicit := UInt64.le_iff_toNat_le.1 hrequest.physicalReserve
  gcongr

theorem exactCommitReserve_mono (sample : HostTelemetrySample) (hpolicy : policy.RaisedTo policy')
    (hrequest : request.RaisedTo request') :
    exactCommitReserve sample policy request ≤ exactCommitReserve sample policy' request' := by
  unfold exactCommitReserve HostReservePolicy.commitReserve
  rw [hpolicy.lane]
  have hlimit := basisPointRatio_mono sample.systemCommitLimitBytes.toNat
    (UInt32.le_iff_toNat_le.1 hpolicy.commitLimit)
  have hphysical := basisPointRatio_mono sample.systemMemoryTotalBytes.toNat
    (UInt32.le_iff_toNat_le.1 hpolicy.commitPhysical)
  have hfloor := UInt64.le_iff_toNat_le.1 hpolicy.commitFloor
  have hexplicit := UInt64.le_iff_toNat_le.1 hrequest.commitReserve
  gcongr

/-- What fits with raised terms fits without. -/
theorem HostAdmissible.of_raised (hpolicy : policy.RaisedTo policy')
    (hrequest : request.RaisedTo request') (h : HostAdmissible sample policy' request') :
    HostAdmissible sample policy request := by
  have hphysical := exactPhysicalReserve_mono sample hpolicy hrequest
  have hcommit := exactCommitReserve_mono sample hpolicy hrequest
  have hresident := UInt64.le_iff_toNat_le.1 hrequest.resident
  have huncertainty := UInt64.le_iff_toNat_le.1 hrequest.residentUncertainty
  have hplanned := UInt64.le_iff_toNat_le.1 hrequest.commit
  have hcommitUncertainty := UInt64.le_iff_toNat_le.1 hrequest.commitUncertainty
  have hpinned := UInt64.le_iff_toNat_le.1 hrequest.pinned
  refine ⟨?_, ?_, hpinned.trans h.pinned, ?_, ?_⟩
  · have := h.resident
    omega
  · have := h.commit
    omega
  · exact ⟨(UInt32.le_iff_toNat_le.1 hpolicy.physical).trans h.basis_points.physical,
      (UInt32.le_iff_toNat_le.1 hpolicy.commitLimit).trans h.basis_points.commitLimit,
      (UInt32.le_iff_toNat_le.1 hpolicy.commitPhysical).trans h.basis_points.commitPhysical⟩
  · have := h.promotion
    rwa [hrequest.promotion, hpolicy.lane] at this

theorem HostSampleUsable.of_raised (hrequest : request.RaisedTo request')
    (h : HostSampleUsable sample request') : HostSampleUsable sample request := by
  obtain ⟨available, captured, evaluated, ageSet, ageBounded, clock, fresh, authoritative,
    known, memory, commit, headroom⟩ := h
  rw [hrequest.evaluated] at evaluated clock fresh
  rw [hrequest.age] at ageSet ageBounded fresh
  exact ⟨available, captured, evaluated, ageSet, ageBounded, clock, fresh, authoritative,
    known, memory, commit, headroom⟩

/-- Raising terms never admits what was rejected, whatever the telemetry and the lane. -/
theorem admitted_of_raised (hpolicy : policy.RaisedTo policy')
    (hrequest : request.RaisedTo request')
    (h : (evaluateHostAdmission sample policy' request').admitted = true) :
    (evaluateHostAdmission sample policy request).admitted = true := by
  rw [evaluateHostAdmission_admitted_iff] at h ⊢
  obtain ⟨hlane, husable, hfits⟩ := h
  rw [hpolicy.lane] at hlane
  exact ⟨hlane, husable.of_raised hrequest, hfits.of_raised hpolicy hrequest⟩

/-- **Host admission.** For a valid lane and usable telemetry the decision admits exactly
what fits over the natural numbers; raising policy overrides, explicit reserves and workload
terms never turns a rejection into an admission; and the reserves of the decision are the
exact ones and never below those of the lane's canonical policy. -/
theorem host_admission_is_exact (hlane : policy.lane.Valid)
    (husable : HostSampleUsable sample request) :
    ((evaluateHostAdmission sample policy request).admitted = true ↔
      HostAdmissible sample policy request) ∧
    (∀ policy' request', policy.RaisedTo policy' → request.RaisedTo request' →
      (evaluateHostAdmission sample policy request).admitted = false →
      (evaluateHostAdmission sample policy' request').admitted = false) ∧
    (policy.BasisPointsValid →
      (evaluateHostAdmission sample policy request).physicalReserveBytes.toNat =
        exactPhysicalReserve sample policy request ∧
      (evaluateHostAdmission sample policy request).commitReserveBytes.toNat =
        exactCommitReserve sample policy request) ∧
    (policy.BasisPointsValid →
      (defaultHostReservePolicy policy.lane).physicalReserve sample ≤
        (evaluateHostAdmission sample policy request).physicalReserveBytes.toNat ∧
      (defaultHostReservePolicy policy.lane).commitReserve sample ≤
        (evaluateHostAdmission sample policy request).commitReserveBytes.toNat) := by
  have hreserves (hbasis : policy.BasisPointsValid) :
      (evaluateHostAdmission sample policy request).physicalReserveBytes.toNat =
        exactPhysicalReserve sample policy request ∧
      (evaluateHostAdmission sample policy request).commitReserveBytes.toNat =
        exactCommitReserve sample policy request := by
    obtain ⟨reserves, hreport, hphysical, hcommit⟩ := reserves_eq_exact hlane husable hbasis
    rw [← hreport] at hphysical hcommit
    exact ⟨hphysical, hcommit⟩
  refine ⟨?_, ?_, hreserves, ?_⟩
  · rw [evaluateHostAdmission_admitted_iff]
    constructor
    · rintro ⟨-, -, hfits⟩
      exact hfits
    · intro hfits
      exact ⟨hlane, husable, hfits⟩
  · intro policy' request' hpolicy hrequest hrejected
    rw [← Bool.not_eq_true] at hrejected ⊢
    exact fun hadmitted => hrejected (admitted_of_raised hpolicy hrequest hadmitted)
  · intro hbasis
    obtain ⟨hphysical, hcommit⟩ := hreserves hbasis
    rw [hphysical, hcommit]
    exact ⟨canonical_le_exactPhysicalReserve sample policy request,
      canonical_le_exactCommitReserve sample policy request⟩

/-- The development lane on a host with 32 GiB of memory, 20 GiB of it available, and 16 GiB
of commit headroom: 4 GiB of each are admitted, 18 GiB of resident memory are not. -/
theorem host_admission_is_exact_for_four_gib :
    ∃ (sample : HostTelemetrySample) (request raised : HostAdmissionRequest),
      HostSampleUsable sample request ∧ request.RaisedTo raised ∧
      (evaluateHostAdmission sample {} request).admitted = true ∧
      HostAdmissible sample {} request ∧
      (evaluateHostAdmission sample {} raised).admitted = false := by
  have husable : HostSampleUsable
      { available := true, systemCommitSource := "get_performance_info",
        capturedMonotonicMilliseconds := 1000, systemMemoryTotalBytes := 32 * kGiB,
        systemMemoryAvailableBytes := 20 * kGiB, systemCommitTotalBytes := 16 * kGiB,
        systemCommitLimitBytes := 32 * kGiB, systemCommitAvailableBytes := 16 * kGiB }
      { plannedIncrementalResidentBytes := 4 * kGiB, plannedIncrementalCommitBytes := 4 * kGiB,
        evaluationMonotonicMilliseconds := 1100, maxTelemetryAgeMilliseconds := 500 } := by
    constructor <;> decide
  have hadmitted := (@host_admission_is_exact _ {} _ (.inl rfl) husable).1
  let raised : HostAdmissionRequest :=
    { plannedIncrementalResidentBytes := 18 * kGiB, plannedIncrementalCommitBytes := 4 * kGiB,
      evaluationMonotonicMilliseconds := 1100, maxTelemetryAgeMilliseconds := 500 }
  refine ⟨_, _, raised, husable, ?_, ?_, hadmitted.1 ?_, ?_⟩
  · constructor <;> decide
  · decide
  · decide
  · decide

end PrismInfer.Governor
