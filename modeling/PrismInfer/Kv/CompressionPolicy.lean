import PrismInfer.Governor.CheckedArithmetic

/-!
# KV compression claims (kv_compression_policy.cpp, quality_gate.cpp)

A compression is accepted when it passed a quality gate and saves memory: the compressed bytes
and their metadata are fewer than the baseline. The sum of the two is a 64-bit one, so that a
compressed size far above every baseline can be found to save memory;
`compression_exact_iff` says for which inputs.
-/

namespace PrismInfer.Kv

open Governor

/-! ## The quality gate -/

/-- `QualityGateResult`, without the observed delta, which is only printed. -/
structure QualityGateResult where
  passed : Bool := true
  status : String := "skipped"
  failureReason : String := ""

/-- `QualityGateInput`. The scores are read in one comparison only: `deltaExceeded` says that
their distance is greater than `max_delta`. -/
structure QualityGateInput where
  gate : String := "none"
  deltaExceeded : Bool := false
  deterministicMatch : Bool := true
  retrievalPassed : Bool := true

/-- `valid_quality_gate`. -/
def validQualityGate (gate : String) : Bool :=
  gate == "none" || gate == "smoke" || gate == "retrieval" || gate == "long-context"

/-- `evaluate_quality_gate` (quality_gate.cpp). -/
def evaluateQualityGate (input : QualityGateInput) : QualityGateResult :=
  if !validQualityGate input.gate then ⟨false, "failed", "quality_gate_invalid"⟩
  else if input.gate == "none" then ⟨true, "skipped", ""⟩
  else if !input.deterministicMatch then ⟨false, "failed", "deterministic_prompt_mismatch"⟩
  else if (input.gate == "retrieval" || input.gate == "long-context") &&
      !input.retrievalPassed then
    ⟨false, "failed", "retrieval_gate_failed"⟩
  else if input.deltaExceeded then ⟨false, "failed", "quality_delta_exceeded"⟩
  else ⟨true, "passed", ""⟩

/-! ## The claim -/

/-- `KvCompressionInput`. -/
structure KvCompressionInput where
  policy : String := "none"
  (baselineBytes compressedBytes metadataBytes : UInt64 := 0)
  quality : QualityGateResult := {}

/-- `KvCompressionResult`. -/
structure KvCompressionResult where
  accepted : Bool := true
  status : String := "none"
  failureReason : String := ""
  savedBytes : UInt64 := 0
  deriving DecidableEq

/-- `valid_kv_compression_policy`. -/
def validKvCompressionPolicy (policy : String) : Bool :=
  policy == "none" || policy == "accounting-only" || policy == "reference" ||
  policy == "experimental"

/-- The two policies that compress. -/
def Compresses (policy : String) : Prop :=
  policy = "reference" ∨ policy = "experimental"

instance (policy : String) : Decidable (Compresses policy) :=
  inferInstanceAs (Decidable (_ ∨ _))

/-- `evaluate_kv_compression_claim` (kv_compression_policy.cpp:10–30). -/
def evaluateKvCompressionClaim (input : KvCompressionInput) : KvCompressionResult :=
  if !validKvCompressionPolicy input.policy then
    ⟨false, "rejected", "kv_compression_policy_invalid", 0⟩
  else if input.policy = "none" ∨ input.policy = "accounting-only" then
    ⟨true, input.policy, "", 0⟩
  else if input.quality.status = "skipped" then
    ⟨false, "rejected", "quality_gate_required_for_compression", 0⟩
  else if !input.quality.passed then
    ⟨false, "rejected", input.quality.failureReason, 0⟩
  else
    let compressedTotal := input.compressedBytes + input.metadataBytes
    if compressedTotal ≥ input.baselineBytes then
      ⟨false, "rejected", "kv_compression_no_memory_savings", 0⟩
    else ⟨true, "accepted", "", input.baselineBytes - compressedTotal⟩

namespace KvCompressionInput

/-- A quality gate was run and passed. -/
def GatePassed (input : KvCompressionInput) : Prop :=
  input.quality.status ≠ "skipped" ∧ input.quality.passed = true

/-- The compressed size with its metadata, over the natural numbers. -/
def exactCompressed (input : KvCompressionInput) : ℕ :=
  input.compressedBytes.toNat + input.metadataBytes.toNat

end KvCompressionInput

variable {input : KvCompressionInput}

theorem valid_of_compresses (h : Compresses input.policy) :
    ¬ (!validKvCompressionPolicy input.policy) = true ∧
      ¬ (input.policy = "none" ∨ input.policy = "accounting-only") := by
  rcases h with h | h
  · rw [h]
    decide
  · rw [h]
    decide

/-- What a policy that compresses decides: the sum is taken modulo `2 ^ 64`. -/
theorem evaluate_compressing (h : Compresses input.policy) :
    ((evaluateKvCompressionClaim input).accepted = true ↔
      input.GatePassed ∧ input.exactCompressed % 2 ^ 64 < input.baselineBytes.toNat) ∧
    ((evaluateKvCompressionClaim input).accepted = true →
      (evaluateKvCompressionClaim input).savedBytes.toNat =
        input.baselineBytes.toNat - input.exactCompressed % 2 ^ 64) := by
  obtain ⟨hvalid, hcompresses⟩ := valid_of_compresses h
  have htotal : (input.compressedBytes + input.metadataBytes).toNat =
      input.exactCompressed % 2 ^ 64 := UInt64.toNat_add _ _
  rw [evaluateKvCompressionClaim, if_neg hvalid, if_neg hcompresses]
  split
  next hskipped => simp [KvCompressionInput.GatePassed, hskipped]
  next hrun =>
    split
    next hfailed =>
      have hpassed : input.quality.passed = false := by simpa using hfailed
      simp [KvCompressionInput.GatePassed, hpassed]
    next hpassed =>
      have hgate : input.GatePassed := ⟨hrun, by simpa using hpassed⟩
      dsimp only
      split
      next hmore =>
        rw [ge_iff_le, UInt64.le_iff_toNat_le, htotal] at hmore
        refine ⟨⟨nofun, ?_⟩, nofun⟩
        rintro ⟨-, hless⟩
        exact absurd hmore (not_le.2 hless)
      next hless =>
        rw [ge_iff_le, UInt64.not_le] at hless
        have hsaved := UInt64.toNat_sub_of_le _ _ (UInt64.le_of_lt hless)
        rw [UInt64.lt_iff_toNat_lt, htotal] at hless
        rw [htotal] at hsaved
        exact ⟨⟨fun _ => ⟨hgate, hless⟩, fun _ => rfl⟩, fun _ => hsaved⟩

/-- The decision is the exact one: accepted exactly after a passed gate and with fewer bytes
than the baseline, and then the saved bytes are the difference. -/
def CompressionExact (input : KvCompressionInput) : Prop :=
  ((evaluateKvCompressionClaim input).accepted = true ↔
    input.GatePassed ∧ input.exactCompressed < input.baselineBytes.toNat) ∧
  ((evaluateKvCompressionClaim input).accepted = true →
    (evaluateKvCompressionClaim input).savedBytes.toNat =
      input.baselineBytes.toNat - input.exactCompressed)

/-- **KV compression claims.** For a policy that compresses the decision is exact, unless the
gate has passed and the sum of compressed and metadata bytes wraps to less than the
baseline. -/
theorem compression_exact_iff (h : Compresses input.policy) :
    CompressionExact input ↔
      ¬ (input.GatePassed ∧ 2 ^ 64 ≤ input.exactCompressed ∧
        input.exactCompressed - 2 ^ 64 < input.baselineBytes.toNat) := by
  obtain ⟨haccepted, hsaved⟩ := evaluate_compressing h
  have hbaseline := input.baselineBytes.toNat_lt
  have hsum : input.exactCompressed < 2 ^ 65 := by
    have := input.compressedBytes.toNat_lt
    have := input.metadataBytes.toNat_lt
    unfold KvCompressionInput.exactCompressed
    omega
  by_cases hwrap : 2 ^ 64 ≤ input.exactCompressed
  · have hmod : input.exactCompressed % 2 ^ 64 = input.exactCompressed - 2 ^ 64 := by omega
    rw [hmod] at haccepted
    constructor
    · rintro ⟨hexact, -⟩ ⟨hgate, -, hless⟩
      have := (hexact.1 (haccepted.2 ⟨hgate, hless⟩)).2
      omega
    · intro hsafe
      have hrejected : ¬ (evaluateKvCompressionClaim input).accepted = true := by
        intro haccept
        obtain ⟨hgate, hless⟩ := haccepted.1 haccept
        exact hsafe ⟨hgate, hwrap, hless⟩
      refine ⟨⟨fun haccept => absurd haccept hrejected, ?_⟩,
        fun haccept => absurd haccept hrejected⟩
      rintro ⟨-, hless⟩
      omega
  · have hmod : input.exactCompressed % 2 ^ 64 = input.exactCompressed :=
      Nat.mod_eq_of_lt (not_le.1 hwrap)
    rw [hmod] at haccepted hsaved
    exact ⟨fun _ hbad => hwrap hbad.2.1, fun _ => ⟨haccepted, hsaved⟩⟩

/-- A compression from 1000 to 400 bytes with 100 bytes of metadata. -/
theorem compression_exact_of_half :
    CompressionExact ⟨"reference", 1000, 400, 100, ⟨true, "passed", ""⟩⟩ := by
  refine (compression_exact_iff (.inl rfl)).2 ?_
  rintro ⟨-, hwrap, -⟩
  exact absurd hwrap (by decide)

/-- A compressed size of `2 ^ 64 - 1` bytes with 2 bytes of metadata is accepted against a
baseline of 1000 bytes, with 999 bytes saved. -/
theorem wrapped_compression_accepted :
    (evaluateKvCompressionClaim
        ⟨"reference", 1000, 18446744073709551615, 2, ⟨true, "passed", ""⟩⟩) =
      ⟨true, "accepted", "", 999⟩ ∧
    ¬ CompressionExact ⟨"reference", 1000, 18446744073709551615, 2, ⟨true, "passed", ""⟩⟩ := by
  refine ⟨by decide, ?_⟩
  rintro ⟨hexact, -⟩
  exact absurd (hexact.1 (by decide)).2 (by decide)

end PrismInfer.Kv
