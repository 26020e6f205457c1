import PrismInfer.Kv.CacheProfile
import PrismInfer.Lib.Run

/-!
# The KV cache ledger (kv_cache_ledger.cpp)

A `KvCacheLedger` keeps the sample with the largest sum over its five tiers as its peak. Two
things come in between: the sum is a 64-bit one, and a sample over the metadata budget is
written over the peak without a comparison.

The peak after one call is the larger of the old peak and the sample exactly under `KeepsPeak`, a
condition on the sample, the budget and the peak before the call; over a run, the peak is the
maximum of all samples at every point exactly when every call meets the condition
(`peak_tracks_maximum_iff`).
-/

namespace PrismInfer.Kv

open Lib

/-- `KvCacheSample`. -/
structure KvCacheSample where
  (logicalTokens activeBlocks reusableBlocks evictedBlocks gpuBytes hostBytes compressedBytes
    metadataBytes unknownBytes : UInt64 := 0)
  evidenceStatus : String := "estimated"
  deriving DecidableEq

/-- `KvCacheLedgerResult`. -/
structure KvCacheLedgerResult where
  ok : Bool := false
  failureReason : String := ""
  deriving DecidableEq

namespace KvCacheSample

/-- `tier_total`: the sum wraps. -/
def tierTotal (sample : KvCacheSample) : UInt64 :=
  sample.gpuBytes + sample.hostBytes + sample.compressedBytes + sample.metadataBytes +
    sample.unknownBytes

/-- The sum of the tiers over the natural numbers. -/
def exactTotal (sample : KvCacheSample) : ℕ :=
  sample.gpuBytes.toNat + sample.hostBytes.toNat + sample.compressedBytes.toNat +
    sample.metadataBytes.toNat + sample.unknownBytes.toNat

theorem toNat_tierTotal (sample : KvCacheSample) :
    sample.tierTotal.toNat = sample.exactTotal % 2 ^ 64 := by
  simp only [tierTotal, exactTotal, UInt64.toNat_add, Nat.mod_add_mod]

end KvCacheSample

/-- `KvCacheLedger`. -/
structure KvCacheLedger where
  profile_ : KvCacheProfile := {}
  peakSample_ : KvCacheSample := {}
  hasProfile_ : Bool := false
  deriving DecidableEq

namespace KvCacheLedger

/-- `record_profile`. -/
def recordProfile (ledger : KvCacheLedger) (profile : KvCacheProfile) :
    KvCacheLedger × KvCacheLedgerResult :=
  if profile.bytesPerToken = 0 ∨ profile.bytesPerBlock = 0 then
    (ledger, ⟨false, "kv_profile_invalid"⟩)
  else ({ ledger with profile_ := profile, hasProfile_ := true }, ⟨true, ""⟩)

/-- `sample` (kv_cache_ledger.cpp:71–86). -/
def sample (ledger : KvCacheLedger) (sample : KvCacheSample) (metadataBudgetBytes : UInt64) :
    KvCacheLedger × KvCacheLedgerResult :=
  if !ledger.hasProfile_ then (ledger, ⟨false, "kv_profile_required"⟩)
  else if metadataBudgetBytes > 0 ∧ sample.metadataBytes > metadataBudgetBytes then
    ({ ledger with peakSample_ := sample }, ⟨false, "kv_metadata_budget_exceeded"⟩)
  else if sample.tierTotal > ledger.peakSample_.tierTotal then
    ({ ledger with peakSample_ := sample }, ⟨true, ""⟩)
  else (ledger, ⟨true, ""⟩)

/-- `peak_sample`. -/
def peakSample (ledger : KvCacheLedger) : KvCacheSample :=
  ledger.peakSample_

end KvCacheLedger

/-! ## One call -/

/-- A call of `sample`. -/
structure SampleCall where
  sample : KvCacheSample
  metadataBudgetBytes : UInt64 := 0

/-- A call always returns. -/
def SampleCall.exec (ledger : KvCacheLedger) (call : SampleCall) :
    Option (KvCacheLedger × KvCacheLedgerResult) :=
  some (ledger.sample call.sample call.metadataBudgetBytes)

/-- The sample is over a metadata budget. -/
def SampleCall.OverBudget (call : SampleCall) : Prop :=
  call.metadataBudgetBytes > 0 ∧ call.sample.metadataBytes > call.metadataBudgetBytes
  deriving Decidable

/-- The condition, on a call and the peak before it, for the call to leave the larger of the
two as the peak. Over the budget the sample must not be smaller than the peak; within it, the
comparison modulo `2 ^ 64` must agree with the exact one. -/
def KeepsPeak (peak : KvCacheSample) (call : SampleCall) : Prop :=
  (call.OverBudget → peak.exactTotal ≤ call.sample.exactTotal) ∧
  (¬ call.OverBudget →
    if peak.exactTotal % 2 ^ 64 < call.sample.exactTotal % 2 ^ 64 then
      peak.exactTotal ≤ call.sample.exactTotal
    else call.sample.exactTotal ≤ peak.exactTotal)

/-- Totals that fit in 64 bits are compared exactly. -/
theorem keepsPeak_of_fits {peak : KvCacheSample} {call : SampleCall}
    (hpeak : peak.exactTotal < 2 ^ 64) (hsample : call.sample.exactTotal < 2 ^ 64)
    (hbudget : ¬ call.OverBudget) : KeepsPeak peak call := by
  refine ⟨fun h => absurd h hbudget, fun _ => ?_⟩
  rw [Nat.mod_eq_of_lt hpeak, Nat.mod_eq_of_lt hsample]
  split
  · omega
  · omega

variable {ledger ledger' start : KvCacheLedger} {call : SampleCall}
  {result : KvCacheLedgerResult} {trace : List (SampleCall × KvCacheLedgerResult)}

/-- All a call on a ledger with a profile can do. -/
theorem sample_cases (hprofile : ledger.hasProfile_ = true)
    (step : call.exec ledger = some (ledger', result)) : ledger'.hasProfile_ = true ∧
    ((call.OverBudget ∧ ledger'.peakSample = call.sample ∧ result.ok = false) ∨
      (¬ call.OverBudget ∧ result.ok = true ∧
        ((ledger.peakSample.exactTotal % 2 ^ 64 < call.sample.exactTotal % 2 ^ 64 ∧
            ledger'.peakSample = call.sample) ∨
          (¬ ledger.peakSample.exactTotal % 2 ^ 64 < call.sample.exactTotal % 2 ^ 64 ∧
            ledger'.peakSample = ledger.peakSample)))) := by
  have hstep : ledger.sample call.sample call.metadataBudgetBytes = (ledger', result) :=
    Option.some.inj step
  rw [KvCacheLedger.sample, if_neg (by simp [hprofile])] at hstep
  split at hstep
  next hover =>
    obtain ⟨rfl, rfl⟩ := Prod.mk.inj hstep
    exact ⟨hprofile, .inl ⟨hover, rfl, rfl⟩⟩
  next hover =>
    split at hstep
    next hmore =>
      obtain ⟨rfl, rfl⟩ := Prod.mk.inj hstep
      rw [gt_iff_lt, UInt64.lt_iff_toNat_lt, KvCacheSample.toNat_tierTotal,
        KvCacheSample.toNat_tierTotal] at hmore
      exact ⟨hprofile, .inr ⟨hover, rfl, .inl ⟨hmore, rfl⟩⟩⟩
    next hless =>
      obtain ⟨rfl, rfl⟩ := Prod.mk.inj hstep
      rw [gt_iff_lt, UInt64.lt_iff_toNat_lt, KvCacheSample.toNat_tierTotal,
        KvCacheSample.toNat_tierTotal] at hless
      exact ⟨hprofile, .inr ⟨hover, rfl, .inr ⟨hless, rfl⟩⟩⟩

/-- The condition is exact for one call. -/
theorem peak_eq_max_iff (hprofile : ledger.hasProfile_ = true)
    (step : call.exec ledger = some (ledger', result)) :
    ledger'.peakSample.exactTotal = max ledger.peakSample.exactTotal call.sample.exactTotal ↔
      KeepsPeak ledger.peakSample call := by
  obtain ⟨-, ⟨hover, hpeak, -⟩ | ⟨hover, -, ⟨hmore, hpeak⟩ | ⟨hless, hpeak⟩⟩⟩ :=
    sample_cases hprofile step
  · rw [hpeak, KeepsPeak]
    simp only [hover, not_true_eq_false, true_imp_iff, false_imp_iff, and_true]
    omega
  · rw [hpeak, KeepsPeak]
    simp only [hover, hmore, not_false_eq_true, true_imp_iff, false_imp_iff, true_and, if_true]
    omega
  · rw [hpeak, KeepsPeak]
    simp only [hover, hless, not_false_eq_true, true_imp_iff, false_imp_iff, true_and, if_false]
    omega

/-! ## Sequences of calls -/

/-- The largest exact total among the peak at the start and the samples of a trace. -/
def recordedMaximum (start : KvCacheLedger) (trace : List (SampleCall × KvCacheLedgerResult)) :
    ℕ :=
  (trace.map fun entry => entry.1.sample.exactTotal).foldl max start.peakSample.exactTotal

theorem recordedMaximum_snoc (start : KvCacheLedger)
    (trace : List (SampleCall × KvCacheLedgerResult)) (call : SampleCall)
    (result : KvCacheLedgerResult) : recordedMaximum start (trace ++ [(call, result)]) =
      max (recordedMaximum start trace) call.sample.exactTotal := by
  simp [recordedMaximum]

/-- Along a trace, the peak is always the maximum of what was recorded, and no call lowers
it. -/
def PeakTracksMaximum (start : KvCacheLedger)
    (trace : List (SampleCall × KvCacheLedgerResult)) : Prop :=
  (∀ before after ledger, trace = before ++ after → Run SampleCall.exec start before ledger →
    ledger.peakSample.exactTotal = recordedMaximum start before) ∧
  (∀ before call result after ledger ledger', trace = before ++ (call, result) :: after →
    Run SampleCall.exec start before ledger → call.exec ledger = some (ledger', result) →
    ledger.peakSample.exactTotal ≤ ledger'.peakSample.exactTotal)

/-- The condition of one call, at every call of a trace. -/
def EveryCallKeepsPeak (start : KvCacheLedger)
    (trace : List (SampleCall × KvCacheLedgerResult)) : Prop :=
  Run.EveryStep SampleCall.exec start (fun _ ledger call => KeepsPeak ledger.peakSample call)
    trace

theorem hasProfile_of_run (hprofile : start.hasProfile_ = true)
    (run : Run SampleCall.exec start trace ledger) : ledger.hasProfile_ = true := by
  refine run.invariant (P := fun ledger => ledger.hasProfile_ = true) hprofile ?_
  intro ledger call ledger' result hledger step
  exact (sample_cases hledger step).1

/-- What one call keeps, a run keeps. -/
theorem peak_eq_recordedMaximum (hprofile : start.hasProfile_ = true)
    (run : Run SampleCall.exec start trace ledger) (hkeeps : EveryCallKeepsPeak start trace) :
    ledger.peakSample.exactTotal = recordedMaximum start trace := by
  induction run with
  | nil => rfl
  | @snoc trace ledger ledger' call result run step ih =>
    obtain ⟨hbefore, hlast⟩ := (Run.everyStep_snoc run).1 hkeeps
    rw [recordedMaximum_snoc, ← ih hbefore]
    exact (peak_eq_max_iff (hasProfile_of_run hprofile run) step).2 hlast

/-- **The peak of the ledger.** Along a run on a ledger with a profile the peak is always the
maximum of the recorded totals and never decreases, exactly when every call keeps the peak. -/
theorem peak_tracks_maximum_iff (hprofile : start.hasProfile_ = true)
    (run : Run SampleCall.exec start trace ledger) :
    PeakTracksMaximum start trace ↔ EveryCallKeepsPeak start trace := by
  constructor
  · rintro ⟨hmaximum, -⟩ before call result after ledger₁ hsplit hbefore
    rw [hsplit] at run
    obtain ⟨ledger₀, ledger₂, hrun₀, step, -⟩ := run.split_at
    obtain rfl := hrun₀.unique hbefore
    have hafter := hmaximum (before ++ [(call, result)]) after ledger₂ (by simp [hsplit])
      (hbefore.snoc step)
    rw [recordedMaximum_snoc, ← hmaximum before _ ledger₀ hsplit hbefore] at hafter
    exact (peak_eq_max_iff (hasProfile_of_run hprofile hbefore) step).1 hafter
  · intro hkeeps
    refine ⟨?_, ?_⟩
    · rintro before after ledger₁ rfl hbefore
      exact peak_eq_recordedMaximum hprofile hbefore hkeeps.left
    · rintro before call result after ledger₁ ledger₂ hsplit hbefore step
      have hkeep := hkeeps before call result after ledger₁ hsplit hbefore
      rw [(peak_eq_max_iff (hasProfile_of_run hprofile hbefore) step).2 hkeep]
      exact le_max_left _ _

/-- A ledger with a profile. -/
def profiledLedger : KvCacheLedger :=
  ({} : KvCacheLedger).recordProfile { bytesPerToken := 256, bytesPerBlock := 4096 } |>.1

/-- Two samples without a metadata budget. -/
theorem peak_tracks_maximum_of_two_samples :
    ∃ trace ledger, Run SampleCall.exec profiledLedger trace ledger ∧
      ledger.peakSample.exactTotal = 8192 ∧ PeakTracksMaximum profiledLedger trace := by
  have first : SampleCall.exec profiledLedger ⟨{ gpuBytes := 8192 }, 0⟩ =
      some ({ profiledLedger with peakSample_ := { gpuBytes := 8192 } }, ⟨true, ""⟩) := by decide
  have second : SampleCall.exec { profiledLedger with peakSample_ := { gpuBytes := 8192 } }
      ⟨{ hostBytes := 4096 }, 0⟩ =
        some ({ profiledLedger with peakSample_ := { gpuBytes := 8192 } }, ⟨true, ""⟩) := by decide
  have run := Run.single first
  refine ⟨_, _, run.snoc second, by decide,
    (peak_tracks_maximum_iff (by decide) (run.snoc second)).2 ?_⟩
  refine (Run.everyStep_snoc run).2 ⟨?_, keepsPeak_of_fits (by decide) (by decide) (by decide)⟩
  exact (Run.everyStep_snoc Run.nil).2
    ⟨Run.everyStep_nil _, keepsPeak_of_fits (by decide) (by decide) (by decide)⟩

/-- A run that ends with another peak than the maximum does not track it. -/
theorem exists_untracked (calls : List SampleCall) {peak maximum : ℕ} (hne : peak ≠ maximum)
    (h : (runActions SampleCall.exec profiledLedger calls).any (fun r =>
      r.2.peakSample.exactTotal == peak && recordedMaximum profiledLedger r.1 == maximum) = true) :
    ∃ trace ledger, Run SampleCall.exec profiledLedger trace ledger ∧
      ledger.peakSample.exactTotal = peak ∧ recordedMaximum profiledLedger trace = maximum ∧
      ¬ PeakTracksMaximum profiledLedger trace := by
  obtain ⟨trace, ledger, run, hcheck⟩ := Run.exists_of_runActions calls _ h
  simp only [Bool.and_eq_true, beq_iff_eq] at hcheck
  refine ⟨trace, ledger, run, hcheck.1, hcheck.2, ?_⟩
  rintro ⟨hmaximum, -⟩
  have := hmaximum trace [] ledger (by simp) run
  omega

/-- Two runs in which the peak is not the maximum. A sample of 100 bytes is followed by one of 2
bytes over a metadata budget of 1 byte: the peak falls to 2 bytes. A sample of `2 ^ 64 - 1` bytes
is followed by one of `2 ^ 64 + 1` bytes, whose sum wraps to 1: the peak stays. -/
theorem peak_is_not_maximum :
    (∃ trace ledger, Run SampleCall.exec profiledLedger trace ledger ∧
      ledger.peakSample.exactTotal = 2 ∧ recordedMaximum profiledLedger trace = 100 ∧
      ¬ PeakTracksMaximum profiledLedger trace) ∧
    (∃ trace ledger, Run SampleCall.exec profiledLedger trace ledger ∧
      ledger.peakSample.exactTotal = 2 ^ 64 - 1 ∧
      recordedMaximum profiledLedger trace = 2 ^ 64 + 1 ∧
      ¬ PeakTracksMaximum profiledLedger trace) := by
  constructor
  · exact exists_untracked [⟨{ gpuBytes := 100 }, 0⟩, ⟨{ metadataBytes := 2 }, 1⟩] (by decide)
      (by decide)
  · exact exists_untracked [⟨{ gpuBytes := 18446744073709551615 }, 0⟩,
      ⟨{ gpuBytes := 18446744073709551615, hostBytes := 2 }, 0⟩] (by decide) (by decide)

end PrismInfer.Kv
