import PrismInfer.Governor.MemoryCap
import PrismInfer.Kv.CacheLedger
import PrismInfer.Kv.CompressionPolicy
import PrismInfer.Lib.TextStream

/-!
# The KV phase of prism-probe (main.cpp, config.cpp)

With KV accounting on, `main` places the KV cache of all tokens on the GPU, on the host or in
an unknown tier, checks the sample and in the end certifies the memory under the cap. The
sizes are 32- and 64-bit sums and products without a check.

The placed size is smaller than the exact one for the configurations of `Shrinks`. Some of
them fail closed; the rest is certified (`certified_run_places_cache_iff`).
-/

namespace PrismInfer.Probe

open Governor Kv Telemetry Lib

/-! ## The configuration -/

/-- `RuntimeConfig` with the fields that the phase reads. `qualityDeltaExceeded` stands for the
scores of the quality gate, as in `QualityGateInput`. -/
structure KvConfig extends RuntimeConfig where
  (kvLayerCount kvHeadCount kvHeadDim : UInt32 := 0)
  (kvBlockTokens kvKeyBits kvValueBits : UInt32 := 16)
  kvMetadataBudgetBytes : UInt64 := 0
  qualityDeltaExceeded : Bool := false
  qualityRetrievalPassed : Bool := true
  qualityDeterministicMatch : Bool := true
  (simulateAllocatorPeakBytes simulateProcessGpuPeakBytes simulateWarmupPeakBytes
    simulateUnknownPostWarmupBytes : UInt64 := 0)

/-- `parse_u64`: `std::from_chars` takes digits only. -/
def parseU64 (value : String) : Option UInt64 :=
  if IsNumeral value.toList ∧ digitsValue value.toList < 2 ^ 64 then
    some (UInt64.ofNat (digitsValue value.toList))
  else none

/-- `parse_u32`. -/
def parseU32 (value : String) : Option UInt32 :=
  ((parseU64 value).filter (· ≤ 0xFFFFFFFF)).map (·.toUInt32)

/-- `parse_on_off` and `parse_bool_text`. -/
def parseBool (yes no value : String) : Option Bool :=
  if value = yes then some true else if value = no then some false else none

/-- A text from a list of valid ones. -/
def parseName (valid : List String) (value : String) : Option String :=
  if value ∈ valid then some value else none

/-- The options of `parse_args` that write the fields of the phase. -/
def parseOption (config : KvConfig) (value : String) : String → Option KvConfig
  | "--hard-cap-bytes" =>
    ((parseU64 value).filter fun cap => (validateGpuHardCap cap).accepted).map
      ({ config with hardCapBytes := · })
  | "--backend" => ([BackendKind.null, .fake, .llama].find? (·.text = value)).map
      ({ config with backend := · })
  | "--context-tokens" =>
    ((parseU64 value).filter (· ≠ 0)).map ({ config with contextTokens := · })
  | "--warmup-tokens" => ((parseU64 value).filter (· ≠ 0)).map ({ config with warmupTokens := · })
  | "--kv-accounting" => (parseBool "on" "off" value).map ({ config with kvAccounting := · })
  | "--kv-layer-count" => (parseU32 value).map ({ config with kvLayerCount := · })
  | "--kv-head-count" => (parseU32 value).map ({ config with kvHeadCount := · })
  | "--kv-head-dim" => (parseU32 value).map ({ config with kvHeadDim := · })
  | "--kv-block-tokens" =>
    ((parseU32 value).filter (· ≠ 0)).map ({ config with kvBlockTokens := · })
  | "--kv-placement" => (parseName ["backend", "gpu", "host", "mixed"] value).map
      ({ config with kvPlacement := · })
  | "--kv-compression" => (parseName ["none", "accounting-only", "reference", "experimental"]
      value).map ({ config with kvCompression := · })
  | "--kv-key-bits" => ((parseU32 value).filter (· ≠ 0)).map ({ config with kvKeyBits := · })
  | "--kv-value-bits" => ((parseU32 value).filter (· ≠ 0)).map ({ config with kvValueBits := · })
  | "--kv-metadata-budget-bytes" =>
    (parseU64 value).map ({ config with kvMetadataBudgetBytes := · })
  | "--quality-gate" => (parseName ["none", "smoke", "retrieval", "long-context"] value).map
      ({ config with qualityGate := · })
  | "--quality-retrieval-passed" =>
    (parseBool "true" "false" value).map ({ config with qualityRetrievalPassed := · })
  | "--quality-deterministic-match" =>
    (parseBool "true" "false" value).map ({ config with qualityDeterministicMatch := · })
  | "--simulate-allocator-peak-bytes" =>
    (parseU64 value).map ({ config with simulateAllocatorPeakBytes := · })
  | "--simulate-process-gpu-peak-bytes" =>
    (parseU64 value).map ({ config with simulateProcessGpuPeakBytes := · })
  | "--simulate-warmup-peak-bytes" =>
    (parseU64 value).map ({ config with simulateWarmupPeakBytes := · })
  | "--simulate-unknown-post-warmup-bytes" =>
    (parseU64 value).map ({ config with simulateUnknownPostWarmupBytes := · })
  | _ => none

/-- `parse_args` (config.cpp) on these options, each with its value. -/
def parseArgs (config : KvConfig) : List String → Option KvConfig
  | option :: value :: rest =>
    match parseOption config value option with
    | none => none
    | some config => parseArgs config rest
  | [_] => none
  | [] => some config

/-! ## The phase -/

/-- `ceil_div`. -/
def ceilDiv (lhs rhs : UInt64) : UInt64 :=
  (lhs + rhs - 1) / rhs

/-- The compressed size of a token. The product of the three counts and the sum of the bits
are 32-bit ones. -/
def compressedPerToken (config : KvConfig) (profile : KvCacheProfile) : UInt64 :=
  (profile.layerCount * profile.kvHeadCount * profile.headDim).toUInt64 *
    (config.kvKeyBits + config.kvValueBits).toUInt64 / 8

def compressedBytes (config : KvConfig) (profile : KvCacheProfile) : UInt64 :=
  if Compresses config.kvCompression then
    compressedPerToken config profile * (config.contextTokens + config.warmupTokens)
  else 0

/-- The size that is placed. -/
def payloadBytes (config : KvConfig) (profile : KvCacheProfile) : UInt64 :=
  if compressedBytes config profile > 0 then compressedBytes config profile
  else (config.contextTokens + config.warmupTokens) * profile.bytesPerToken

/-- `make_kv_sample` (main.cpp:86–129). -/
def makeKvSample (config : KvConfig) (profile : KvCacheProfile) : KvCacheSample :=
  if !config.kvAccounting ∨ profile.bytesPerToken = 0 then {}
  else
    let logicalTokens := config.contextTokens + config.warmupTokens
    let activeBlocks := ceilDiv logicalTokens profile.blockTokens.toUInt64
    let payload := payloadBytes config profile
    let sample : KvCacheSample :=
      { logicalTokens := logicalTokens
        activeBlocks := activeBlocks
        metadataBytes := activeBlocks * 64
        evidenceStatus := if config.backend = .fake then "reconciled" else "estimated"
        compressedBytes := compressedBytes config profile }
    if config.kvPlacement = "gpu" then { sample with gpuBytes := payload }
    else if config.kvPlacement = "host" then { sample with hostBytes := payload }
    else if config.kvPlacement = "mixed" then
      { sample with gpuBytes := payload / 2, hostBytes := payload - payload / 2 }
    else if sample.evidenceStatus = "reconciled" then { sample with hostBytes := payload }
    else { sample with unknownBytes := payload }

/-- `apply_kv_sample_to_memory`. -/
def applyKvSampleToMemory (kvSample : KvCacheSample) (sample : MemorySample) : MemorySample :=
  { sample with
    kvGpuPeakBytes := kvSample.gpuBytes
    kvHostPeakBytes := kvSample.hostBytes
    kvCompressedPeakBytes := kvSample.compressedBytes
    kvMetadataPeakBytes := kvSample.metadataBytes
    kvUnknownPeakBytes := kvSample.unknownBytes
    warmupPeakBytes := max sample.warmupPeakBytes kvSample.gpuBytes
    unknownPostWarmupBytes := sample.unknownPostWarmupBytes + kvSample.unknownBytes }

/-- The allocator after a simulated peak. -/
def simulatePeak (allocator : CappedAllocatorTracker) (peak : UInt64) : CappedAllocatorTracker :=
  if peak > allocator.currentBytes then
    let (reserved, result) := allocator.reserve (peak - allocator.currentBytes)
    if result.accepted then reserved else reserved.observeRejectedPeak peak
  else allocator.observeRejectedPeak peak

/-- `apply_simulated_breaches` (main.cpp:52–80). -/
def applySimulatedBreaches (config : KvConfig) (allocator : CappedAllocatorTracker)
    (sample : MemorySample) : MemorySample :=
  let allocated := (simulatePeak allocator config.simulateAllocatorPeakBytes).sample
  let simulated (peak measured : UInt64) := if peak > 0 then peak else measured
  { sample with
    allocatorBytes :=
      if config.simulateAllocatorPeakBytes > 0 then allocated.allocatorBytes
      else sample.allocatorBytes
    allocatorPeakBytes :=
      if config.simulateAllocatorPeakBytes > 0 then allocated.allocatorPeakBytes
      else sample.allocatorPeakBytes
    processGpuPeakBytes :=
      simulated config.simulateProcessGpuPeakBytes sample.processGpuPeakBytes
    warmupPeakBytes := simulated config.simulateWarmupPeakBytes sample.warmupPeakBytes
    unknownPostWarmupBytes :=
      simulated config.simulateUnknownPostWarmupBytes sample.unknownPostWarmupBytes }

/-- The KV phase (main.cpp:567–663); without a result `main` fails closed. -/
def kvPhase (config : KvConfig) (profile : KvCacheProfile) (sample : MemorySample) :
    Option MemorySample :=
  let kvSample := makeKvSample config profile
  let (ledger, recordResult) := KvCacheLedger.recordProfile {} profile
  let sampleResult :=
    if recordResult.ok then (ledger.sample kvSample config.kvMetadataBudgetBytes).2
    else recordResult
  let quality := evaluateQualityGate
    { gate := config.qualityGate
      deltaExceeded := config.qualityDeltaExceeded
      deterministicMatch := config.qualityDeterministicMatch
      retrievalPassed := config.qualityRetrievalPassed }
  let compression := evaluateKvCompressionClaim
    { policy := config.kvCompression
      baselineBytes := profile.bytesPerToken * kvSample.logicalTokens
      compressedBytes := kvSample.compressedBytes
      metadataBytes := kvSample.metadataBytes
      quality := quality }
  if !sampleResult.ok ∨ !quality.passed ∨ !compression.accepted then none
  else some (applyKvSampleToMemory kvSample sample)

/-- What a run has measured when its KV phase begins, and whether the phase after it, about
offloading and profitability, passes. -/
structure ProbeState where
  sample : MemorySample := {}
  allocator : CappedAllocatorTracker := {}
  offloadPasses : Bool := true

/-- `main` from the KV phase on: it ends well, with a certified sample, or fails closed. -/
def runCertified (config : KvConfig) (profile : KvCacheProfile) (state : ProbeState) : Bool :=
  match kvPhase config profile state.sample with
  | none => false
  | some sample => state.offloadPasses &&
      (certifyCap (applySimulatedBreaches config state.allocator sample)
        config.hardCapBytes).certified

/-! ## Exact sizes -/

section Sizes

variable {config : KvConfig} {profile : KvCacheProfile}

/-- All tokens. -/
def exactTokens (config : KvConfig) : ℕ :=
  config.contextTokens.toNat + config.warmupTokens.toNat

/-- The entries of a token. -/
def exactEntries (profile : KvCacheProfile) : ℕ :=
  profile.layerCount.toNat * profile.kvHeadCount.toNat * profile.headDim.toNat

/-- The compressed size of a token. -/
def exactPerToken (config : KvConfig) (profile : KvCacheProfile) : ℕ :=
  exactEntries profile * (config.kvKeyBits.toNat + config.kvValueBits.toNat) / 8

/-- The size of the cache of all tokens. -/
def requiredBytes (config : KvConfig) (profile : KvCacheProfile) : ℕ :=
  exactTokens config *
    if Compresses config.kvCompression then exactPerToken config profile
    else profile.bytesPerToken.toNat

def placedBytes (sample : KvCacheSample) : ℕ :=
  sample.gpuBytes.toNat + sample.hostBytes.toNat + sample.unknownBytes.toNat

/-- The compressed size of a token after the two wraps at 32 bits. -/
def wrappedPerToken (config : KvConfig) (profile : KvCacheProfile) : ℕ :=
  exactEntries profile % 2 ^ 32 *
    ((config.kvKeyBits.toNat + config.kvValueBits.toNat) % 2 ^ 32) / 8

/-- The configurations for which the placed size is too small. Without compression, the size
does not fit in 64 bits. With it, the same; or the size of a token wraps at 32 bits, and what
is left of it is placed, or nothing is left and the baseline is placed and is too small. -/
def Shrinks (config : KvConfig) (profile : KvCacheProfile) : Prop :=
  2 ^ 64 ≤ requiredBytes config profile ∨
  (Compresses config.kvCompression ∧ 0 < exactTokens config ∧
    wrappedPerToken config profile < exactPerToken config profile ∧
    (0 < wrappedPerToken config profile ∨
      exactTokens config * profile.bytesPerToken.toNat % 2 ^ 64 < requiredBytes config profile))

/-- The three tiers together have the payload. -/
theorem placedBytes_eq (haccounting : config.kvAccounting = true)
    (hprofile : profile.bytesPerToken ≠ 0) :
    placedBytes (makeKvSample config profile) = (payloadBytes config profile).toNat := by
  unfold makeKvSample
  rw [if_neg (by simp [haccounting, hprofile])]
  dsimp only
  generalize payloadBytes config profile = payload
  have hhalf : payload / 2 ≤ payload := by
    rw [UInt64.le_iff_toNat_le, UInt64.toNat_div]
    exact Nat.div_le_self _ _
  split
  · simp [placedBytes]
  split
  · simp [placedBytes]
  split
  · simp only [placedBytes, UInt64.toNat_sub_of_le _ _ hhalf]
    have := UInt64.le_iff_toNat_le.1 hhalf
    simp only [UInt64.toNat_zero]
    omega
  split
  · simp [placedBytes]
  · simp [placedBytes]

theorem toNat_compressedPerToken :
    (compressedPerToken config profile).toNat = wrappedPerToken config profile := by
  have hproduct : exactEntries profile % 2 ^ 32 *
      ((config.kvKeyBits.toNat + config.kvValueBits.toNat) % 2 ^ 32) < 2 ^ 64 :=
    (Nat.mul_lt_mul'' (Nat.mod_lt _ (by decide)) (Nat.mod_lt _ (by decide))).trans_eq (by norm_num)
  simp only [compressedPerToken, wrappedPerToken, UInt64.toNat_div, UInt64.toNat_mul,
    UInt32.toNat_toUInt64, UInt32.toNat_mul, UInt32.toNat_add, Nat.mod_mul_mod]
  exact congrArg (· / 8) (Nat.mod_eq_of_lt hproduct)

theorem wrappedPerToken_le : wrappedPerToken config profile ≤ exactPerToken config profile :=
  Nat.div_le_div_right (Nat.mul_le_mul (Nat.mod_le _ _) (Nat.mod_le _ _))

/-- The machine's products with the wrapped number of tokens, over the natural numbers. -/
theorem toNat_tokens_mul (perToken : UInt64) :
    ((config.contextTokens + config.warmupTokens) * perToken).toNat =
      exactTokens config * perToken.toNat % 2 ^ 64 := by
  rw [UInt64.toNat_mul, UInt64.toNat_add, Nat.mod_mul_mod, exactTokens]

theorem toNat_payloadBytes : (payloadBytes config profile).toNat =
      if Compresses config.kvCompression ∧
          0 < exactTokens config * wrappedPerToken config profile % 2 ^ 64 then
        exactTokens config * wrappedPerToken config profile % 2 ^ 64
      else exactTokens config * profile.bytesPerToken.toNat % 2 ^ 64 := by
  unfold payloadBytes compressedBytes
  by_cases hpolicy : Compresses config.kvCompression
  · simp only [hpolicy, if_true, true_and, UInt64.mul_comm (compressedPerToken config profile),
      gt_iff_lt, UInt64.lt_iff_toNat_lt, apply_ite UInt64.toNat, toNat_tokens_mul,
      toNat_compressedPerToken, UInt64.toNat_zero]
  · rw [if_neg hpolicy, if_neg (by simp), if_neg (fun h => hpolicy h.1), toNat_tokens_mul]

/-- **When the payload is too small.** -/
theorem payloadBytes_lt_iff : (payloadBytes config profile).toNat < requiredBytes config profile ↔
      Shrinks config profile := by
  have hlt := (payloadBytes config profile).toNat_lt
  by_cases hlarge : 2 ^ 64 ≤ requiredBytes config profile
  · exact ⟨fun _ => .inl hlarge, fun _ => hlt.trans_le hlarge⟩
  rw [Shrinks, or_iff_right hlarge, toNat_payloadBytes]
  rw [not_le] at hlarge
  by_cases hpolicy : Compresses config.kvCompression
  swap
  · -- the baseline fits and is placed as it is
    rw [requiredBytes, if_neg hpolicy] at hlarge ⊢
    rw [if_neg (fun h => hpolicy h.1), Nat.mod_eq_of_lt hlarge]
    simp [hpolicy]
  rw [requiredBytes, if_pos hpolicy] at hlarge ⊢
  have hle := @wrappedPerToken_le config profile
  have hwrapped := (Nat.mul_le_mul_left (exactTokens config) hle).trans_lt hlarge
  rw [Nat.mod_eq_of_lt hwrapped]
  simp only [hpolicy, true_and]
  generalize exactTokens config = tokens at *
  generalize wrappedPerToken config profile = wrapped at *
  generalize exactPerToken config profile = exact at *
  rcases Nat.eq_zero_or_pos tokens with rfl | htokens
  · simp
  rcases Nat.eq_zero_or_pos wrapped with rfl | hpositive
  · simp only [mul_zero, lt_irrefl, if_false, htokens, true_and, false_or]
    refine ⟨fun h => ⟨?_, h⟩, fun h => h.2⟩
    exact Nat.pos_of_mul_pos_left (Nat.zero_lt_of_lt h)
  · rw [if_pos (Nat.mul_pos htokens hpositive), Nat.mul_lt_mul_left htokens]
    simp [htokens, hpositive]

/-- An empty profile is not recorded. -/
theorem bytesPerToken_ne_zero {state : ProbeState}
    (h : runCertified config profile state = true) : profile.bytesPerToken ≠ 0 := by
  intro hzero
  have hphase : kvPhase config profile state.sample = none := by
    simp [kvPhase, KvCacheLedger.recordProfile, hzero]
  simp [runCertified, hphase] at h

/-- **When a certified run places the whole cache:** for the configurations whose size does not
shrink. A run that is not certified fails closed. -/
theorem certified_run_places_cache_iff (haccounting : config.kvAccounting = true)
    {state : ProbeState} (hrun : runCertified config profile state = true) :
    requiredBytes config profile ≤ placedBytes (makeKvSample config profile) ↔
      ¬ Shrinks config profile := by
  rw [placedBytes_eq haccounting (bytesPerToken_ne_zero hrun), ← payloadBytes_lt_iff, not_lt]

end Sizes

namespace Fixture

/-- Arguments for one layer with one head of dimension one, in the GPU, and a context. -/
def arguments (contextTokens : String) : List String :=
  ["--kv-accounting", "on", "--kv-layer-count", "1", "--kv-head-count", "1", "--kv-head-dim", "1",
    "--kv-placement", "gpu", "--context-tokens", contextTokens]

/-- The configuration that they are parsed to. -/
def config (contextTokens : UInt64) : KvConfig :=
  { kvAccounting := true, kvLayerCount := 1, kvHeadCount := 1, kvHeadDim := 1
    kvPlacement := "gpu", contextTokens := contextTokens }

/-- The profile that `main` makes of its counts. -/
def profile : KvCacheProfile :=
  { layerCount := 1, kvHeadCount := 1, headDim := 1, bytesPerToken := 4, bytesPerBlock := 64 }

end Fixture

open Fixture

theorem certified_run_places_512_tokens :
    parseArgs {} (arguments "512") = some (config 512) ∧
    makeKvCacheProfile 1 1 1 16 16 16 = .ok profile ∧
    runCertified (config 512) profile {} = true ∧
    requiredBytes (config 512) profile ≤ placedBytes (makeKvSample (config 512) profile) := by
  have hrun : runCertified (config 512) profile {} = true := by decide
  have hsize : ¬ Shrinks (config 512) profile := by
    unfold Shrinks
    decide
  exact ⟨rfl, rfl, hrun, (certified_run_places_cache_iff rfl hrun).2 hsize⟩

/-- The largest context and the one token of the warmup are zero tokens; nothing is placed, and
that is certified. -/
theorem largest_context_places_nothing :
    parseArgs {} (arguments "18446744073709551615") = some (config 0xFFFFFFFFFFFFFFFF) ∧
    makeKvCacheProfile 1 1 1 16 16 16 = .ok profile ∧
    runCertified (config 0xFFFFFFFFFFFFFFFF) profile {} = true ∧
    placedBytes (makeKvSample (config 0xFFFFFFFFFFFFFFFF) profile) = 0 ∧
    requiredBytes (config 0xFFFFFFFFFFFFFFFF) profile = 4 * 2 ^ 64 := by
  refine ⟨rfl, rfl, by decide, by decide, by decide⟩

end PrismInfer.Probe
