import PrismInfer.Governor.CheckedArithmetic

/-!
# Host admission (host_admission.cpp)

The host decision that Stage A, Stage B and the watchdog all replay: a telemetry
sample, a reserve policy and a workload request give a decision record with the
reserves and payloads it computed, or the reason of the first check that failed.

The admission stages need of it that two workloads which agree where
`same_host_workload` compares them, replayed at the same time, get the same decision.
-/

namespace PrismInfer.Governor

/-- `kGiB`, `kOneGiB`. -/
def kGiB : UInt64 := 1073741824

/-- `kMiB`. -/
def kMiB : UInt64 := 1048576

@[simp] theorem toNat_kGiB : kGiB.toNat = 2 ^ 30 := rfl

/-- `kMaximumTelemetryAgeMilliseconds`. -/
def kMaximumTelemetryAgeMilliseconds : UInt64 := 500

/-- `HostAdmissionLane`. The enumeration has two enumerators; `invalid` stands
for every other value of its underlying integer, which the code checks for. -/
inductive HostAdmissionLane
  | developmentNonPromotable
  | evidencePromotable
  | invalid
  deriving DecidableEq

/-- The fields of `HostTelemetrySample` that admission reads. -/
structure HostTelemetrySample where
  available : Bool := false
  systemCommitSource : String := ""
  (capturedMonotonicMilliseconds systemMemoryTotalBytes systemMemoryAvailableBytes
    systemCommitTotalBytes systemCommitLimitBytes systemCommitAvailableBytes : UInt64 := 0)
  deriving DecidableEq

/-- `HostReservePolicy`: tightening overrides of the lane's canonical floor. -/
structure HostReservePolicy where
  lane : HostAdmissionLane := .developmentNonPromotable
  physicalReserveFloorBytes : UInt64 := 0
  physicalReserveBasisPoints : UInt32 := 0
  commitReserveFloorBytes : UInt64 := 0
  commitLimitReserveBasisPoints : UInt32 := 0
  commitPhysicalReserveBasisPoints : UInt32 := 0
  deriving DecidableEq

/-- `HostAdmissionRequest`. -/
structure HostAdmissionRequest where
  (plannedIncrementalResidentBytes plannedIncrementalCommitBytes residentUncertaintyBytes
    commitUncertaintyBytes pinnedHostBytes explicitPhysicalReserveBytes explicitCommitReserveBytes
    evaluationMonotonicMilliseconds maxTelemetryAgeMilliseconds : UInt64 := 0)
  promotionRequested : Bool := false
  deriving DecidableEq

/-- `HostAdmissionDecision`. -/
structure HostAdmissionDecision where
  admitted : Bool := false
  promotable : Bool := false
  reason : String := ""
  lane : HostAdmissionLane := .developmentNonPromotable
  (physicalReserveBytes commitReserveBytes commitHeadroomBytes physicalPayloadBytes
    commitPayloadBytes effectivePayloadBytes requiredResidentBytes requiredCommitBytes
    pinnedHostCapBytes : UInt64 := 0)
  deriving DecidableEq

/-- `reject` of host_admission.cpp: keep what was computed, name the check. -/
def HostAdmissionDecision.reject (decision : HostAdmissionDecision) (reason : String) :
    HostAdmissionDecision :=
  { decision with reason := reason }

/-- `default_host_reserve_policy`: the canonical floor of a lane. -/
def defaultHostReservePolicy (lane : HostAdmissionLane) : HostReservePolicy :=
  if lane = .evidencePromotable then
    { lane := lane
      physicalReserveFloorBytes := 4 * kGiB
      physicalReserveBasisPoints := 1500
      commitReserveFloorBytes := 4 * kGiB
      commitLimitReserveBasisPoints := 1000
      commitPhysicalReserveBasisPoints := 1500 }
  else
    { lane := lane
      physicalReserveFloorBytes := 2 * kGiB
      physicalReserveBasisPoints := 800
      commitReserveFloorBytes := 2 * kGiB
      commitLimitReserveBasisPoints := 500
      commitPhysicalReserveBasisPoints := 0 }

/-- A three-term requirement, charged through two checked additions
(host_admission.cpp:146–152 for residency, 158–164 for commit). -/
def requiredHostBytes (planned uncertainty pinned : UInt64) : Option UInt64 := do
  let withoutPinned ← checkedAddU64 planned uncertainty
  checkedAddU64 withoutPinned pinned

/-- `evaluate_host_admission` (host_admission.cpp:40–186). -/
def evaluateHostAdmission (sample : HostTelemetrySample) (policy : HostReservePolicy)
    (request : HostAdmissionRequest) : HostAdmissionDecision :=
  let decision : HostAdmissionDecision := { lane := policy.lane }
  if policy.lane ≠ .developmentNonPromotable ∧ policy.lane ≠ .evidencePromotable then
    decision.reject "host_admission_lane_invalid"
  else if !sample.available then
    decision.reject "host_telemetry_unavailable"
  else if sample.capturedMonotonicMilliseconds = 0 ∨
      request.evaluationMonotonicMilliseconds = 0 then
    decision.reject "host_telemetry_timestamp_unavailable"
  else if request.maxTelemetryAgeMilliseconds = 0 ∨
      request.maxTelemetryAgeMilliseconds > kMaximumTelemetryAgeMilliseconds then
    decision.reject "host_telemetry_freshness_policy_invalid"
  else if request.evaluationMonotonicMilliseconds < sample.capturedMonotonicMilliseconds then
    decision.reject "host_telemetry_clock_anomaly"
  else if request.evaluationMonotonicMilliseconds - sample.capturedMonotonicMilliseconds >
      request.maxTelemetryAgeMilliseconds then
    decision.reject "host_telemetry_stale"
  else if sample.systemCommitSource ≠ "get_performance_info" then
    decision.reject "system_commit_source_not_authoritative"
  else if sample.systemMemoryTotalBytes = 0 ∨
      sample.systemMemoryAvailableBytes > sample.systemMemoryTotalBytes ∨
      sample.systemCommitTotalBytes > sample.systemCommitLimitBytes then
    decision.reject "host_telemetry_contradictory"
  else
  let commitHeadroom := sample.systemCommitLimitBytes - sample.systemCommitTotalBytes
  if sample.systemCommitAvailableBytes ≠ commitHeadroom then
    decision.reject "host_commit_headroom_mismatch"
  else
  let decision := { decision with commitHeadroomBytes := commitHeadroom }
  let canonicalPolicy := defaultHostReservePolicy policy.lane
  let physicalBasisPoints :=
    max canonicalPolicy.physicalReserveBasisPoints policy.physicalReserveBasisPoints
  let commitLimitBasisPoints :=
    max canonicalPolicy.commitLimitReserveBasisPoints policy.commitLimitReserveBasisPoints
  let commitPhysicalBasisPoints :=
    max canonicalPolicy.commitPhysicalReserveBasisPoints
      policy.commitPhysicalReserveBasisPoints
  let physicalFraction :=
    checkedBasisPointsU64 sample.systemMemoryTotalBytes physicalBasisPoints .up
  let commitLimitFraction :=
    checkedBasisPointsU64 sample.systemCommitLimitBytes commitLimitBasisPoints .up
  let commitPhysicalFraction :=
    checkedBasisPointsU64 sample.systemMemoryTotalBytes commitPhysicalBasisPoints .up
  if physicalFraction.isNone ∨ commitLimitFraction.isNone ∨
      commitPhysicalFraction.isNone then
    decision.reject "host_reserve_policy_invalid_or_overflowed"
  else
  let decision :=
    { decision with
      physicalReserveBytes :=
        max (max (max canonicalPolicy.physicalReserveFloorBytes
          policy.physicalReserveFloorBytes) (physicalFraction.getD 0))
          request.explicitPhysicalReserveBytes
      commitReserveBytes :=
        max (max (max (max canonicalPolicy.commitReserveFloorBytes
          policy.commitReserveFloorBytes) (commitLimitFraction.getD 0))
          (commitPhysicalFraction.getD 0)) request.explicitCommitReserveBytes }
  if sample.systemMemoryAvailableBytes < decision.physicalReserveBytes then
    decision.reject "host_physical_reserve_unavailable"
  else if commitHeadroom < decision.commitReserveBytes then
    decision.reject "host_commit_reserve_unavailable"
  else
  let physicalPayload := sample.systemMemoryAvailableBytes - decision.physicalReserveBytes
  let commitPayload := commitHeadroom - decision.commitReserveBytes
  let decision :=
    { decision with
      physicalPayloadBytes := physicalPayload
      commitPayloadBytes := commitPayload
      effectivePayloadBytes := min physicalPayload commitPayload }
  let pinnedCap := checkedBasisPointsU64 sample.systemMemoryTotalBytes 200 .down
  if pinnedCap.isNone then
    decision.reject "pinned_host_cap_overflowed"
  else
  let decision :=
    { decision with pinnedHostCapBytes := min (512 * kMiB) (pinnedCap.getD 0) }
  if request.pinnedHostBytes > decision.pinnedHostCapBytes then
    decision.reject "pinned_host_cap_exceeded"
  else
  let requiredResident := requiredHostBytes request.plannedIncrementalResidentBytes
    request.residentUncertaintyBytes request.pinnedHostBytes
  if requiredResident.isNone then
    decision.reject "required_resident_bytes_overflowed"
  else
  let decision := { decision with requiredResidentBytes := requiredResident.getD 0 }
  let requiredCommit := requiredHostBytes request.plannedIncrementalCommitBytes
    request.commitUncertaintyBytes request.pinnedHostBytes
  if requiredCommit.isNone then
    decision.reject "required_commit_bytes_overflowed"
  else
  let decision := { decision with requiredCommitBytes := requiredCommit.getD 0 }
  if decision.requiredResidentBytes > decision.physicalPayloadBytes then
    decision.reject "planned_resident_peak_exceeds_payload"
  else if decision.requiredCommitBytes > decision.commitPayloadBytes then
    decision.reject "planned_commit_peak_exceeds_payload"
  else if request.promotionRequested ∧ policy.lane = .developmentNonPromotable then
    decision.reject "development_lane_is_nonpromotable"
  else
    { decision with
      admitted := true
      promotable := decide (policy.lane = .evidencePromotable) && request.promotionRequested
      reason := "admitted" }

/-- The replay of a workload at an evaluation time: Stage A, Stage B and the
watchdog all overwrite the two time fields before they ask the host decision
(supervisor_admission.cpp:565–569, 735–739, supervisor_watchdog.cpp:194–197). -/
def HostAdmissionRequest.replayedAt (request : HostAdmissionRequest)
    (evaluated maximumAge : UInt64) : HostAdmissionRequest :=
  { request with
    evaluationMonotonicMilliseconds := evaluated
    maxTelemetryAgeMilliseconds := maximumAge }

/-- `same_host_policy`: every field of the policy is compared. -/
def sameHostPolicy (left right : HostReservePolicy) : Bool :=
  left.lane == right.lane &&
  left.physicalReserveFloorBytes == right.physicalReserveFloorBytes &&
  left.physicalReserveBasisPoints == right.physicalReserveBasisPoints &&
  left.commitReserveFloorBytes == right.commitReserveFloorBytes &&
  left.commitLimitReserveBasisPoints == right.commitLimitReserveBasisPoints &&
  left.commitPhysicalReserveBasisPoints == right.commitPhysicalReserveBasisPoints

/-- `same_host_workload`: every field but the two replayed times. -/
def sameHostWorkload (left right : HostAdmissionRequest) : Bool :=
  left.plannedIncrementalResidentBytes == right.plannedIncrementalResidentBytes &&
  left.plannedIncrementalCommitBytes == right.plannedIncrementalCommitBytes &&
  left.residentUncertaintyBytes == right.residentUncertaintyBytes &&
  left.commitUncertaintyBytes == right.commitUncertaintyBytes &&
  left.pinnedHostBytes == right.pinnedHostBytes &&
  left.explicitPhysicalReserveBytes == right.explicitPhysicalReserveBytes &&
  left.explicitCommitReserveBytes == right.explicitCommitReserveBytes &&
  left.promotionRequested == right.promotionRequested

/-- The field-by-field policy comparison is equality. -/
theorem sameHostPolicy_iff (left right : HostReservePolicy) :
    sameHostPolicy left right = true ↔ left = right := by
  obtain ⟨_, _, _, _, _, _⟩ := left
  obtain ⟨_, _, _, _, _, _⟩ := right
  simp only [sameHostPolicy, Bool.and_eq_true, beq_iff_eq, HostReservePolicy.mk.injEq,
    and_assoc]

/-- Workloads that pass the comparison are the same request once replayed. -/
theorem replayedAt_eq_of_sameHostWorkload {left right : HostAdmissionRequest}
    (h : sameHostWorkload left right = true) (evaluated maximumAge : UInt64) :
    left.replayedAt evaluated maximumAge = right.replayedAt evaluated maximumAge := by
  simp only [sameHostWorkload, Bool.and_eq_true, beq_iff_eq] at h
  obtain ⟨⟨⟨⟨⟨⟨⟨h₁, h₂⟩, h₃⟩, h₄⟩, h₅⟩, h₆⟩, h₇⟩, h₈⟩ := h
  simp only [HostAdmissionRequest.replayedAt, h₁, h₂, h₃, h₄, h₅, h₆, h₇, h₈]

end PrismInfer.Governor
