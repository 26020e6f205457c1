import PrismInfer.Governor.AdmissionTypes
import PrismInfer.Governor.CheckedArithmetic
import PrismInfer.Lib.Run
import PrismInfer.Lib.Tally
import PrismInfer.Telemetry.Jsonl

/-!
# The capped allocator tracker and the cap certification

`CappedAllocatorTracker` (allocator_tracker.cpp) keeps the bytes in use below a hard cap. A
rejected reservation does not change the count but is remembered as a rejected peak, and
`certify_cap` (memory_cap.cpp) judges a memory sample whose allocator peak is the larger of
the two peaks.

A rejected reservation is never certified again, whatever is released afterwards.
-/

namespace PrismInfer.Governor

open Lib Telemetry

/-! ## Certification -/

/-- `CapTolerances`. -/
structure CapTolerances where
  allocatorProcessToleranceBytes : UInt64 := 16 * 1024 * 1024
  deviceDeltaToleranceBytes : UInt64 := 64 * 1024 * 1024

/-- `CapCertificationResult`. -/
structure CapCertificationResult where
  certified : Bool := false
  failureReason : String := ""

def absDiff (lhs rhs : UInt64) : UInt64 :=
  if lhs > rhs then lhs - rhs else rhs - lhs

/-- `certify_cap` (memory_cap.cpp:18–58). Without tolerances it is called with the default
ones. -/
def certifyCap (sample : MemorySample) (hardCapBytes : UInt64)
    (tolerances : CapTolerances := {}) : CapCertificationResult :=
  if !sample.requiredTelemetryPresent then ⟨false, "required_telemetry_missing"⟩
  else if !sample.telemetryAgreement then ⟨false, "telemetry_disagreement"⟩
  else if sample.unifiedMemoryEnabled then ⟨false, "unified_memory_enabled"⟩
  else if sample.allocatorPeakBytes > hardCapBytes then ⟨false, "allocator_peak_exceeded_cap"⟩
  else if sample.processGpuPeakBytes > hardCapBytes then
    ⟨false, "process_gpu_peak_exceeded_cap"⟩
  else if sample.deviceDeltaBytes > hardCapBytes then ⟨false, "device_delta_exceeded_cap"⟩
  else if sample.warmupPeakBytes > hardCapBytes then ⟨false, "warmup_peak_exceeded_cap"⟩
  else if sample.kvGpuPeakBytes > hardCapBytes then ⟨false, "kv_gpu_peak_exceeded_cap"⟩
  else if sample.unknownPostWarmupBytes > 0 then ⟨false, "unknown_post_warmup_allocation"⟩
  else if absDiff sample.allocatorPeakBytes sample.processGpuPeakBytes >
      tolerances.allocatorProcessToleranceBytes then
    ⟨false, "allocator_process_peak_disagreement"⟩
  else if sample.deviceDeltaBytes > sample.processGpuPeakBytes ∧
      sample.deviceDeltaBytes - sample.processGpuPeakBytes >
        tolerances.deviceDeltaToleranceBytes then
    ⟨false, "device_delta_process_disagreement"⟩
  else ⟨true, ""⟩

section Chain

variable {c : Prop} [Decidable c] {reason text : String} {rest : CapCertificationResult}

/-- One refusal of the chain: it is not met, and the rest of the chain certifies. -/
theorem certified_ite_iff :
    (if c then ⟨false, reason⟩ else rest : CapCertificationResult).certified = true ↔
      ¬ c ∧ rest.certified = true := by
  by_cases hc : c
  · simp [hc]
  · simp [hc]

theorem failureReason_ite_iff :
    (if c then ⟨false, reason⟩ else rest : CapCertificationResult).failureReason = text ↔
      (c ∧ reason = text) ∨ (¬ c ∧ rest.failureReason = text) := by
  by_cases hc : c
  · simp [hc]
  · simp [hc]

end Chain

section Certified

variable {sample : MemorySample} {hardCapBytes : UInt64} {tolerances : CapTolerances}

/-- A certified sample has every peak within the cap. -/
theorem peaks_le_of_certified (h : (certifyCap sample hardCapBytes tolerances).certified = true) :
    sample.allocatorPeakBytes ≤ hardCapBytes ∧ sample.processGpuPeakBytes ≤ hardCapBytes ∧
      sample.deviceDeltaBytes ≤ hardCapBytes ∧ sample.warmupPeakBytes ≤ hardCapBytes ∧
      sample.kvGpuPeakBytes ≤ hardCapBytes := by
  simp only [certifyCap, certified_ite_iff, gt_iff_lt, UInt64.not_lt] at h
  obtain ⟨-, -, -, hallocator, hprocess, hdevice, hwarmup, hkv, -⟩ := h
  exact ⟨hallocator, hprocess, hdevice, hwarmup, hkv⟩

theorem exceeds_of_failureReason
    (h : (certifyCap sample hardCapBytes tolerances).failureReason =
      "allocator_peak_exceeded_cap") :
    hardCapBytes < sample.allocatorPeakBytes := by
  by_contra hwithin
  simp only [certifyCap, failureReason_ite_iff, gt_iff_lt, hwithin, String.reduceEq, and_false,
    false_or, reduceIte] at h

end Certified

/-! ## The tracker -/

/-- `AllocationResult`. -/
structure AllocationResult where
  accepted : Bool := false
  failureReason : String := ""

/-- `CappedAllocatorTracker`, with the private members under the source's names. -/
structure CappedAllocatorTracker where
  (hardCapBytes_ currentBytes_ peakBytes_ rejectedPeakBytes_ : UInt64 := 0)

namespace CappedAllocatorTracker

variable (tracker : CappedAllocatorTracker)

/-- `observe_rejected_peak`. -/
def observeRejectedPeak (attemptedPeakBytes : UInt64) : CappedAllocatorTracker :=
  { tracker with rejectedPeakBytes_ := max tracker.rejectedPeakBytes_ attemptedPeakBytes }

/-- `reserve` (allocator_tracker.cpp:11–27). -/
def reserve (bytes : UInt64) : CappedAllocatorTracker × AllocationResult :=
  if bytes > uint64Max - tracker.currentBytes_ then
    ({ tracker with rejectedPeakBytes_ := uint64Max }, ⟨false, "allocator_size_overflow"⟩)
  else
    let attempted := tracker.currentBytes_ + bytes
    if attempted > tracker.hardCapBytes_ then
      (tracker.observeRejectedPeak attempted, ⟨false, "allocator_cap_would_be_exceeded"⟩)
    else
      ({ tracker with currentBytes_ := attempted, peakBytes_ := max tracker.peakBytes_ attempted },
        ⟨true, ""⟩)

/-- `release` (allocator_tracker.cpp:29–35). -/
def release (bytes : UInt64) : CappedAllocatorTracker × AllocationResult :=
  if bytes > tracker.currentBytes_ then (tracker, ⟨false, "allocator_release_exceeds_current"⟩)
  else ({ tracker with currentBytes_ := tracker.currentBytes_ - bytes }, ⟨true, ""⟩)

/-- `current_bytes`. -/
def currentBytes : UInt64 :=
  tracker.currentBytes_

/-- `peak_bytes`: a rejected attempt counts as a peak. -/
def peakBytes : UInt64 :=
  max tracker.peakBytes_ tracker.rejectedPeakBytes_

/-- `sample`. -/
def sample : MemorySample :=
  { allocatorBytes := tracker.currentBytes_
    allocatorPeakBytes := tracker.peakBytes }

/-! ### What a call can do -/

theorem reserve_cases (bytes : UInt64) : -- accepted
    (tracker.currentBytes_.toNat + bytes.toNat ≤ tracker.hardCapBytes_.toNat ∧
      ∃ attempted : UInt64, attempted.toNat = tracker.currentBytes_.toNat + bytes.toNat ∧
        tracker.reserve bytes =
          ({ tracker with
              currentBytes_ := attempted, peakBytes_ := max tracker.peakBytes_ attempted },
            ⟨true, ""⟩)) ∨
    -- rejected: a rejected peak above the cap or the largest value is left behind
    (tracker.hardCapBytes_.toNat < tracker.currentBytes_.toNat + bytes.toNat ∧
      ∃ (rejected : UInt64) (reason : String),
        (tracker.hardCapBytes_.toNat < rejected.toNat ∨ rejected = uint64Max) ∧
        tracker.rejectedPeakBytes_.toNat ≤ rejected.toNat ∧
        tracker.reserve bytes =
          ({ tracker with rejectedPeakBytes_ := rejected }, ⟨false, reason⟩)) := by
  have hmax : tracker.hardCapBytes_.toNat < 2 ^ 64 := tracker.hardCapBytes_.toNat_lt
  unfold reserve
  split
  next hoverflow =>
    rw [checkedAddU64_overflow_iff, Nat.add_comm] at hoverflow
    refine .inr ⟨by omega, uint64Max, _, .inr rfl, ?_, rfl⟩
    rw [toNat_uint64Max]
    have := tracker.rejectedPeakBytes_.toNat_lt
    omega
  next hfits =>
    rw [checkedAddU64_overflow_iff, Nat.add_comm, not_le] at hfits
    have hattempted := toNat_add_of_lt hfits
    dsimp only
    split
    next habove =>
      rw [gt_iff_lt, UInt64.lt_iff_toNat_lt, hattempted] at habove
      refine .inr ⟨habove, _, _, .inl ?_, ?_, rfl⟩
      · rw [UInt64.toNat_max, hattempted]
        exact lt_max_of_lt_right habove
      · rw [UInt64.toNat_max]
        exact le_max_left _ _
    next hwithin =>
      rw [gt_iff_lt, UInt64.lt_iff_toNat_lt, hattempted, not_lt] at hwithin
      exact .inl ⟨hwithin, _, hattempted, rfl⟩

theorem release_cases (bytes : UInt64) :
    (bytes.toNat ≤ tracker.currentBytes_.toNat ∧
      ∃ left : UInt64, left.toNat + bytes.toNat = tracker.currentBytes_.toNat ∧
        tracker.release bytes = ({ tracker with currentBytes_ := left }, ⟨true, ""⟩)) ∨
    (tracker.currentBytes_.toNat < bytes.toNat ∧
      tracker.release bytes = (tracker, ⟨false, "allocator_release_exceeds_current"⟩)) := by
  unfold release
  split
  next hmore => exact .inr ⟨UInt64.lt_iff_toNat_lt.1 hmore, rfl⟩
  next hle =>
    rw [gt_iff_lt, UInt64.not_lt] at hle
    have hle' := UInt64.le_iff_toNat_le.1 hle
    refine .inl ⟨hle', _, ?_, rfl⟩
    rw [UInt64.toNat_sub_of_le _ _ hle]
    omega

end CappedAllocatorTracker

/-! ## Sequences of calls -/

/-- A call on a tracker. -/
inductive TrackerCall
  | reserve (bytes : UInt64)
  | release (bytes : UInt64)

variable {tracker' : CappedAllocatorTracker} {result : AllocationResult}

namespace TrackerCall

/-- A call always returns. -/
def exec (tracker : CappedAllocatorTracker) :
    TrackerCall → Option (CappedAllocatorTracker × AllocationResult)
  | .reserve bytes => some (tracker.reserve bytes)
  | .release bytes => some (tracker.release bytes)

/-- The bytes of an accepted reservation. -/
def reserved : TrackerCall × AllocationResult → ℕ
  | (.reserve bytes, result) => if result.accepted then bytes.toNat else 0
  | (.release _, _) => 0

/-- The bytes of an accepted release. -/
def released : TrackerCall × AllocationResult → ℕ
  | (.reserve _, _) => 0
  | (.release bytes, result) => if result.accepted then bytes.toNat else 0

/-- The call is a reservation that was rejected. -/
def rejectedReservation : TrackerCall × AllocationResult → Bool
  | (.reserve _, result) => !result.accepted
  | (.release _, _) => false

theorem exec_reserve {tracker : CappedAllocatorTracker} {bytes : UInt64} :
    exec tracker (.reserve bytes) = some (tracker', result) ↔
      tracker.reserve bytes = (tracker', result) :=
  Option.some_inj

theorem exec_release {tracker : CappedAllocatorTracker} {bytes : UInt64} :
    exec tracker (.release bytes) = some (tracker', result) ↔
      tracker.release bytes = (tracker', result) :=
  Option.some_inj

end TrackerCall

open TrackerCall (reserved released rejectedReservation exec_reserve exec_release)

/-- The tracker that the constructor makes. -/
def CappedAllocatorTracker.new (hardCapBytes : UInt64) : CappedAllocatorTracker :=
  { hardCapBytes_ := hardCapBytes }

/-- A run of calls on a fresh tracker. -/
abbrev TrackerRun (hardCapBytes : UInt64) :
    List (TrackerCall × AllocationResult) → CappedAllocatorTracker → Prop :=
  Run TrackerCall.exec (CappedAllocatorTracker.new hardCapBytes)

/-- What holds of a tracker after the calls of a trace. -/
structure TrackerInv (hardCapBytes : UInt64) (trace : List (TrackerCall × AllocationResult))
    (tracker : CappedAllocatorTracker) : Prop where
  cap : tracker.hardCapBytes_ = hardCapBytes
  /-- The count is what was reserved less what was released. -/
  balance : tracker.currentBytes_.toNat + tally released trace =
    tally reserved trace
  within : tracker.currentBytes_.toNat ≤ hardCapBytes.toNat
  peak_within : tracker.peakBytes_.toNat ≤ hardCapBytes.toNat
  unrejected : trace.any rejectedReservation = false → tracker.rejectedPeakBytes_ = 0
  rejected : trace.any rejectedReservation = true →
    hardCapBytes.toNat < tracker.rejectedPeakBytes_.toNat ∨ tracker.rejectedPeakBytes_ = uint64Max

namespace TrackerInv

variable {hardCapBytes : UInt64} {trace : List (TrackerCall × AllocationResult)}
  {tracker : CappedAllocatorTracker}

theorem new (hardCapBytes : UInt64) :
    TrackerInv hardCapBytes [] (CappedAllocatorTracker.new hardCapBytes) where
  cap := rfl
  balance := rfl
  within := Nat.zero_le _
  peak_within := Nat.zero_le _
  unrejected _ := rfl
  rejected h := absurd h Bool.false_ne_true

theorem reserve (h : TrackerInv hardCapBytes trace tracker) (bytes : UInt64) :
    TrackerInv hardCapBytes (trace ++ [(.reserve bytes, (tracker.reserve bytes).2)])
      (tracker.reserve bytes).1 := by
  have hbalance := h.balance
  rcases tracker.reserve_cases bytes with
    ⟨hle, attempted, hattempted, hcall⟩ | ⟨-, rejected, reason, habove, hmono, hcall⟩
  · rw [h.cap] at hle
    rw [hcall]
    refine ⟨h.cap, ?_, ?_, ?_, ?_, ?_⟩
    · simp [reserved, released]
      omega
    · exact hattempted.trans_le hle
    · rw [UInt64.toNat_max]
      exact max_le h.peak_within (hattempted.trans_le hle)
    · intro hnone
      exact h.unrejected (by simpa [rejectedReservation] using hnone)
    · intro hsome
      exact h.rejected (by simpa [rejectedReservation] using hsome)
  · rw [h.cap] at habove
    rw [hcall]
    refine ⟨h.cap, ?_, h.within, h.peak_within, ?_, fun _ => habove⟩
    · simpa [reserved, released] using hbalance
    · intro hnone
      simp [rejectedReservation] at hnone

theorem release (h : TrackerInv hardCapBytes trace tracker) (bytes : UInt64) :
    TrackerInv hardCapBytes (trace ++ [(.release bytes, (tracker.release bytes).2)])
      (tracker.release bytes).1 := by
  have hbalance := h.balance
  have hsame (result : AllocationResult) :
      (trace ++ [(TrackerCall.release bytes, result)]).any rejectedReservation =
        trace.any rejectedReservation := by
    simp [rejectedReservation]
  rcases tracker.release_cases bytes with ⟨hle, left, hleft, hcall⟩ | ⟨-, hcall⟩
  · rw [hcall]
    refine ⟨h.cap, ?_, ?_, h.peak_within, ?_, ?_⟩
    · simp [reserved, released]
      omega
    · have hwithin := h.within
      show left.toNat ≤ _
      omega
    · rw [hsame]
      exact h.unrejected
    · rw [hsame]
      exact h.rejected
  · rw [hcall]
    refine ⟨h.cap, ?_, h.within, h.peak_within, ?_, ?_⟩
    · simpa [reserved, released] using hbalance
    · rw [hsame]
      exact h.unrejected
    · rw [hsame]
      exact h.rejected

theorem of_run (run : TrackerRun hardCapBytes trace tracker) :
    TrackerInv hardCapBytes trace tracker := by
  refine run.history (new hardCapBytes) ?_
  intro trace tracker call tracker' result hinv hexec
  cases call with
  | reserve bytes =>
    have hnext := hinv.reserve bytes
    rwa [exec_reserve.1 hexec] at hnext
  | release bytes =>
    have hnext := hinv.release bytes
    rwa [exec_release.1 hexec] at hnext

end TrackerInv

section Runs

variable {hardCapBytes : UInt64} {trace : List (TrackerCall × AllocationResult)}
  {tracker : CappedAllocatorTracker}

/-- The counts a run went through. -/
def visitedCounts (hardCapBytes : UInt64) (trace : List (TrackerCall × AllocationResult)) :
    Set ℕ :=
  {count | ∃ tracker, Run.Visits TrackerCall.exec (CappedAllocatorTracker.new hardCapBytes)
    trace tracker ∧ tracker.currentBytes.toNat = count}

variable {call : TrackerCall}

theorem visitedCounts_snoc (run : TrackerRun hardCapBytes trace tracker)
    (step : TrackerCall.exec tracker call = some (tracker', result)) :
    visitedCounts hardCapBytes (trace ++ [(call, result)]) =
      insert tracker'.currentBytes.toNat (visitedCounts hardCapBytes trace) := by
  ext count
  simp only [visitedCounts, Set.mem_ofPred_eq, Set.mem_insert_iff, Run.visits_snoc run step]
  constructor
  · rintro ⟨visited, hvisited | rfl, rfl⟩
    · exact .inr ⟨visited, hvisited, rfl⟩
    · exact .inl rfl
  · rintro (rfl | ⟨visited, hvisited, rfl⟩)
    · exact ⟨tracker', .inr rfl, rfl⟩
    · exact ⟨visited, .inl hvisited, rfl⟩

/-- A call raises the accepted peak to its count, and only a call that raises the count can
raise it further. -/
theorem peakBytes_step (hle : tracker.currentBytes_.toNat ≤ tracker.peakBytes_.toNat)
    (step : TrackerCall.exec tracker call = some (tracker', result)) :
    tracker'.peakBytes_.toNat = max tracker'.currentBytes_.toNat tracker.peakBytes_.toNat := by
  cases call with
  | reserve bytes =>
    rw [exec_reserve] at step
    rcases tracker.reserve_cases bytes with
      ⟨-, attempted, -, hcall⟩ | ⟨-, rejected, reason, -, -, hcall⟩
    · obtain ⟨rfl, -⟩ := Prod.mk.inj (hcall.symm.trans step)
      show (max tracker.peakBytes_ attempted).toNat = _
      rw [UInt64.toNat_max, max_comm]
    · obtain ⟨rfl, -⟩ := Prod.mk.inj (hcall.symm.trans step)
      exact (max_eq_right hle).symm
  | release bytes =>
    rw [exec_release] at step
    rcases tracker.release_cases bytes with ⟨-, left, hleft, hcall⟩ | ⟨-, hcall⟩
    · obtain ⟨rfl, -⟩ := Prod.mk.inj (hcall.symm.trans step)
      refine (max_eq_right ?_).symm
      show left.toNat ≤ tracker.peakBytes_.toNat
      omega
    · obtain ⟨rfl, -⟩ := Prod.mk.inj (hcall.symm.trans step)
      exact (max_eq_right hle).symm

/-- The accepted peak is the greatest count of the run. -/
theorem isGreatest_peakBytes (run : TrackerRun hardCapBytes trace tracker) :
    IsGreatest (visitedCounts hardCapBytes trace) tracker.peakBytes_.toNat := by
  induction run with
  | nil =>
    constructor
    · exact ⟨_, Run.visits_nil.2 rfl, rfl⟩
    · rintro _ ⟨visited, hvisited, rfl⟩
      rw [Run.visits_nil.1 hvisited]
      exact le_rfl
  | @snoc trace tracker tracker' call result run step ih =>
    have hle : tracker.currentBytes_.toNat ≤ tracker.peakBytes_.toNat :=
      ih.2 ⟨tracker, ⟨trace, [], (List.append_nil _).symm, run⟩, rfl⟩
    rw [visitedCounts_snoc run step, peakBytes_step hle step]
    exact ih.insert _

/-- A call that is not accepted leaves the count alone. -/
theorem currentBytes_of_not_accepted
    (step : TrackerCall.exec tracker call = some (tracker', result))
    (hresult : result.accepted = false) : tracker'.currentBytes = tracker.currentBytes := by
  cases call with
  | reserve bytes =>
    rw [exec_reserve] at step
    rcases tracker.reserve_cases bytes with
      ⟨-, attempted, -, hcall⟩ | ⟨-, rejected, reason, -, -, hcall⟩
    · obtain ⟨-, rfl⟩ := Prod.mk.inj (hcall.symm.trans step)
      cases hresult
    · obtain ⟨rfl, -⟩ := Prod.mk.inj (hcall.symm.trans step)
      rfl
  | release bytes =>
    rw [exec_release] at step
    rcases tracker.release_cases bytes with ⟨-, left, -, hcall⟩ | ⟨-, hcall⟩
    · obtain ⟨-, rfl⟩ := Prod.mk.inj (hcall.symm.trans step)
      cases hresult
    · obtain ⟨rfl, -⟩ := Prod.mk.inj (hcall.symm.trans step)
      rfl

theorem peakBytes_of_unrejected (run : TrackerRun hardCapBytes trace tracker)
    (hnone : trace.any rejectedReservation = false) :
    tracker.peakBytes.toNat = tracker.peakBytes_.toNat := by
  rw [CappedAllocatorTracker.peakBytes, (TrackerInv.of_run run).unrejected hnone,
    UInt64.toNat_max]
  exact max_eq_left (Nat.zero_le _)

/-- Under a validated cap, a rejected reservation leaves a peak above the cap for good: a
validated cap is below the largest 64-bit value. -/
theorem cap_lt_peakBytes_of_rejected (run : TrackerRun hardCapBytes trace tracker)
    (hcap : (validateGpuHardCap hardCapBytes).accepted = true)
    (hsome : trace.any rejectedReservation = true) :
    hardCapBytes.toNat < tracker.peakBytes.toNat := by
  have hvalid : hardCapBytes.toNat ≤ 17179869184 := by
    unfold validateGpuHardCap at hcap
    split at hcap
    · cases hcap
    split at hcap
    · cases hcap
    next hle => exact UInt64.le_iff_toNat_le.1 (UInt64.not_lt.1 hle)
  rw [CappedAllocatorTracker.peakBytes, UInt64.toNat_max]
  refine lt_max_of_lt_right ?_
  rcases (TrackerInv.of_run run).rejected hsome with habove | hmax
  · exact habove
  · rw [hmax, toNat_uint64Max]
    omega

/-- **The ledger of the capped tracker.** After every sequence of calls on a fresh tracker
the count is what was reserved less what was released, lies within the cap and is left alone
by a rejected call; without a rejected reservation the peak is the greatest count so far and
is never found above the cap; after a rejected reservation no sample with this peak is
certified under a validated cap. -/
theorem tracker_ledger_certified (run : TrackerRun hardCapBytes trace tracker) :
    (tally released trace ≤ tally reserved trace ∧
      tracker.currentBytes.toNat =
        tally reserved trace - tally released trace) ∧
    tracker.currentBytes ≤ hardCapBytes ∧
    (∀ call tracker' result, TrackerCall.exec tracker call = some (tracker', result) →
      result.accepted = false → tracker'.currentBytes = tracker.currentBytes) ∧
    (trace.any rejectedReservation = false →
      IsGreatest (visitedCounts hardCapBytes trace) tracker.peakBytes.toNat) ∧
    ((validateGpuHardCap hardCapBytes).accepted = true →
      trace.any rejectedReservation = true →
      ∀ sample tolerances, sample.allocatorPeakBytes = tracker.peakBytes →
        (certifyCap sample hardCapBytes tolerances).certified = false) ∧
    (trace.any rejectedReservation = false →
      ∀ sample tolerances, sample.allocatorPeakBytes = tracker.peakBytes →
        (certifyCap sample hardCapBytes tolerances).failureReason ≠
          "allocator_peak_exceeded_cap") := by
  have hinv := TrackerInv.of_run run
  have hbalance := hinv.balance
  have hcurrent : tracker.currentBytes.toNat = tracker.currentBytes_.toNat := rfl
  refine ⟨by omega, UInt64.le_iff_toNat_le.2 hinv.within,
    fun call tracker' result step => currentBytes_of_not_accepted step, ?_, ?_, ?_⟩
  · intro hnone
    rw [peakBytes_of_unrejected run hnone]
    exact isGreatest_peakBytes run
  · intro hcap hsome sample tolerances hsample
    rw [← Bool.not_eq_true]
    intro hcertified
    have hle := (peaks_le_of_certified hcertified).1
    rw [hsample] at hle
    have hlt := cap_lt_peakBytes_of_rejected run hcap hsome
    exact absurd (UInt64.le_iff_toNat_le.1 hle) (by omega)
  · intro hnone sample tolerances hsample hreason
    have hlt := exceeds_of_failureReason hreason
    rw [hsample, UInt64.lt_iff_toNat_lt, peakBytes_of_unrejected run hnone] at hlt
    have := hinv.peak_within
    omega

end Runs

/-- With a cap of 100 bytes, 60 bytes are reserved, 50 more are rejected and the 60 are
released again: the count is back at 0 and nothing is certified. -/
theorem tracker_ledger_certified_after_rejection :
    ∃ trace tracker, TrackerRun 100 trace tracker ∧ tracker.currentBytes = 0 ∧
      ∀ sample tolerances, sample.allocatorPeakBytes = tracker.peakBytes →
        (certifyCap sample 100 tolerances).certified = false := by
  obtain ⟨trace, tracker, run, hcheck⟩ := Run.exists_of_runActions
    [TrackerCall.reserve 60, .reserve 50, .release 60]
    (fun r => r.1.any rejectedReservation && r.2.currentBytes == 0)
    (show (runActions TrackerCall.exec (CappedAllocatorTracker.new 100) _).any _ = true by decide)
  rw [Bool.and_eq_true, beq_iff_eq] at hcheck
  obtain ⟨hrejected, hcurrent⟩ := hcheck
  obtain ⟨-, -, -, -, hnever, -⟩ := tracker_ledger_certified run
  exact ⟨trace, tracker, run, hcurrent, hnever (by decide) hrejected⟩

end PrismInfer.Governor
