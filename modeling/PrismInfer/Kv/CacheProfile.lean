import PrismInfer.Governor.CheckedArithmetic

/-!
# KV cache profiles (kv_cache_ledger.cpp)

`make_kv_cache_profile` multiplies its arguments step by step with a checked 64-bit product.
The number of bits of an entry is formed before that, as a 32-bit sum of the key and the value
bits, and wraps unchecked.

The sizes are the exact ones unless that sum wraps and the wrapped sizes pass the checks:
`profile_exact_iff`.
-/

namespace PrismInfer.Kv

open Governor

/-- `KvCacheProfile`. -/
structure KvCacheProfile where
  (layerCount kvHeadCount headDim : UInt32 := 0)
  (blockTokens keyBits valueBits : UInt32 := 16)
  bytesPerToken : UInt64 := 0
  bytesPerBlock : UInt64 := 0
  deriving DecidableEq

/-- The three products of `make_kv_cache_profile`; `multiply_u64` has the body of
`checked_multiply_u64`. -/
def bitsPerToken (layerCount kvHeadCount headDim keyBits valueBits : UInt32) : Option UInt64 := do
  let product ← checkedMultiplyU64 layerCount.toUInt64 kvHeadCount.toUInt64
  let product ← checkedMultiplyU64 product headDim.toUInt64
  -- The sum is a `std::uint32_t`; it is widened as an argument of `multiply_u64`.
  checkedMultiplyU64 product (keyBits + valueBits).toUInt64

/-- `make_kv_cache_profile` (kv_cache_ledger.cpp:23–59), with a place for the profile. -/
def makeKvCacheProfile (layerCount kvHeadCount headDim blockTokens keyBits valueBits : UInt32) :
    Except String KvCacheProfile :=
  if layerCount = 0 ∨ kvHeadCount = 0 ∨ headDim = 0 ∨ blockTokens = 0 ∨ keyBits = 0 ∨
      valueBits = 0 then
    .error "kv_profile_metadata_incomplete"
  else if keyBits % 8 ≠ 0 ∨ valueBits % 8 ≠ 0 then
    .error "kv_profile_bits_must_be_byte_aligned"
  else
    match bitsPerToken layerCount kvHeadCount headDim keyBits valueBits with
    | none => .error "kv_profile_size_overflow"
    | some bits =>
      let bytesPerToken := bits / 8
      match checkedMultiplyU64 bytesPerToken blockTokens.toUInt64 with
      | none => .error "kv_profile_size_overflow"
      | some bytesPerBlock =>
        .ok ⟨layerCount, kvHeadCount, headDim, blockTokens, keyBits, valueBits, bytesPerToken,
          bytesPerBlock⟩

/-! ## Products -/

/-- A chain of checked products gives the exact product, if every partial product fits. -/
theorem bitsPerToken_eq_some {layerCount kvHeadCount headDim keyBits valueBits : UInt32}
    {bits : UInt64} : bitsPerToken layerCount kvHeadCount headDim keyBits valueBits = some bits ↔
      layerCount.toNat * kvHeadCount.toNat * headDim.toNat < 2 ^ 64 ∧
      bits.toNat = layerCount.toNat * kvHeadCount.toNat * headDim.toNat *
        ((keyBits.toNat + valueBits.toNat) % 2 ^ 32) := by
  have hfirst : layerCount.toNat * kvHeadCount.toNat < 2 ^ 64 :=
    (Nat.mul_lt_mul'' layerCount.toNat_lt kvHeadCount.toNat_lt).trans_eq (by norm_num)
  simp only [bitsPerToken, Option.bind_eq_bind, Option.bind_eq_some_iff,
    checkedMultiplyU64_eq_some, UInt32.toNat_toUInt64, UInt32.toNat_add]
  constructor
  · rintro ⟨first, hfirst, second, hsecond, hbits⟩
    rw [hsecond, hfirst] at hbits
    have := second.toNat_lt
    rw [hsecond, hfirst] at this
    exact ⟨this, hbits⟩
  · rintro ⟨hsecond, hbits⟩
    have hfirst' := UInt64.toNat_ofNat_of_lt' hfirst
    have hsecond' := UInt64.toNat_ofNat_of_lt' hsecond
    refine ⟨_, hfirst', _, hsecond'.trans (by rw [hfirst']), ?_⟩
    rw [hsecond']
    exact hbits

section Arguments

variable {layerCount kvHeadCount headDim blockTokens keyBits valueBits : UInt32}

/-- No argument is zero and both bit counts are whole bytes. -/
def ArgumentsWellFormed
    (layerCount kvHeadCount headDim blockTokens keyBits valueBits : UInt32) : Prop :=
  (layerCount ≠ 0 ∧ kvHeadCount ≠ 0 ∧ headDim ≠ 0 ∧ blockTokens ≠ 0 ∧ keyBits ≠ 0 ∧
    valueBits ≠ 0) ∧
  keyBits.toNat % 8 = 0 ∧ valueBits.toNat % 8 = 0

/-- The sizes for a number of bits of an entry pass all overflow checks. -/
def SizesFit (layerCount kvHeadCount headDim blockTokens : UInt32) (bits : ℕ) : Prop :=
  layerCount.toNat * kvHeadCount.toNat * headDim.toNat < 2 ^ 64 ∧
  layerCount.toNat * kvHeadCount.toNat * headDim.toNat * bits < 2 ^ 64 ∧
  layerCount.toNat * kvHeadCount.toNat * headDim.toNat * bits / 8 * blockTokens.toNat < 2 ^ 64

theorem mod_eight_eq_zero_iff (bits : UInt32) : bits % 8 = 0 ↔ bits.toNat % 8 = 0 := by
  rw [← UInt32.toNat_inj, UInt32.toNat_mod]
  rfl

/-- Arguments that are not well formed get no profile. -/
theorem wellFormed_of_ok {profile : KvCacheProfile}
    (h : makeKvCacheProfile layerCount kvHeadCount headDim blockTokens keyBits valueBits =
      .ok profile) :
    ArgumentsWellFormed layerCount kvHeadCount headDim blockTokens keyBits valueBits := by
  unfold makeKvCacheProfile at h
  split at h
  · cases h
  next hzero =>
    split at h
    · cases h
    next haligned =>
      simp only [not_or] at hzero
      rw [not_or, not_not, not_not, mod_eight_eq_zero_iff, mod_eight_eq_zero_iff] at haligned
      exact ⟨hzero, haligned⟩

/-- When there is a profile, and which. -/
theorem makeKvCacheProfile_eq_ok {profile : KvCacheProfile} :
    makeKvCacheProfile layerCount kvHeadCount headDim blockTokens keyBits valueBits =
        .ok profile ↔
      ArgumentsWellFormed layerCount kvHeadCount headDim blockTokens keyBits valueBits ∧
      SizesFit layerCount kvHeadCount headDim blockTokens
        ((keyBits.toNat + valueBits.toNat) % 2 ^ 32) ∧
      profile.bytesPerToken.toNat = layerCount.toNat * kvHeadCount.toNat * headDim.toNat *
        ((keyBits.toNat + valueBits.toNat) % 2 ^ 32) / 8 ∧
      profile.bytesPerBlock.toNat = layerCount.toNat * kvHeadCount.toNat * headDim.toNat *
        ((keyBits.toNat + valueBits.toNat) % 2 ^ 32) / 8 * blockTokens.toNat ∧
      profile.layerCount = layerCount ∧ profile.kvHeadCount = kvHeadCount ∧
      profile.headDim = headDim ∧ profile.blockTokens = blockTokens ∧
      profile.keyBits = keyBits ∧ profile.valueBits = valueBits := by
  by_cases hwell : ArgumentsWellFormed layerCount kvHeadCount headDim blockTokens keyBits valueBits
  swap
  · exact ⟨fun h => absurd (wellFormed_of_ok h) hwell, fun h => absurd h.1 hwell⟩
  obtain ⟨hzero, hkey, hvalue⟩ := hwell
  rw [← mod_eight_eq_zero_iff] at hkey hvalue
  rw [makeKvCacheProfile, if_neg (by simpa only [not_or] using hzero),
    if_neg (not_or.2 ⟨not_not.2 hkey, not_not.2 hvalue⟩)]
  cases hbits : bitsPerToken layerCount kvHeadCount headDim keyBits valueBits with
  | none =>
    refine ⟨nofun, ?_⟩
    rintro ⟨-, ⟨hproduct, hfits, -⟩, -⟩
    rw [bitsPerToken_eq_some.2 ⟨hproduct, UInt64.toNat_ofNat_of_lt' hfits⟩] at hbits
    cases hbits
  | some bits =>
    obtain ⟨hproduct, hexact⟩ := bitsPerToken_eq_some.1 hbits
    have htoken : (bits / 8).toNat = bits.toNat / 8 := UInt64.toNat_div bits 8
    dsimp only
    cases hblock : checkedMultiplyU64 (bits / 8) blockTokens.toUInt64 with
    | none =>
      refine ⟨nofun, ?_⟩
      rintro ⟨-, ⟨-, -, hfits⟩, -⟩
      rw [checkedMultiplyU64_of_lt (by
        rw [htoken, hexact, UInt32.toNat_toUInt64]; exact hfits)] at hblock
      cases hblock
    | some bytesPerBlock =>
      rw [checkedMultiplyU64_eq_some, htoken, hexact, UInt32.toNat_toUInt64] at hblock
      rw [hexact] at htoken
      obtain ⟨layers, heads, dim, tokens, keys, values, perToken, perBlock⟩ := profile
      simp only [Except.ok.injEq, KvCacheProfile.mk.injEq]
      constructor
      · rintro ⟨rfl, rfl, rfl, rfl, rfl, rfl, rfl, rfl⟩
        rw [mod_eight_eq_zero_iff] at hkey hvalue
        refine ⟨⟨hzero, hkey, hvalue⟩, ⟨hproduct, ?_, ?_⟩, htoken, hblock, rfl, rfl, rfl, rfl, rfl,
          rfl⟩
        · rw [← hexact]
          exact bits.toNat_lt
        · rw [← hblock]
          exact bytesPerBlock.toNat_lt
      · rintro ⟨-, -, hperToken, hperBlock, rfl, rfl, rfl, rfl, rfl, rfl⟩
        rw [← htoken, UInt64.toNat_inj] at hperToken
        rw [← hblock, UInt64.toNat_inj] at hperBlock
        exact ⟨rfl, rfl, rfl, rfl, rfl, rfl, hperToken.symm, hperBlock.symm⟩

/-- There is a profile for well-formed arguments whose sizes fit. -/
theorem exists_profile_iff :
    (∃ profile, makeKvCacheProfile layerCount kvHeadCount headDim blockTokens keyBits valueBits =
        .ok profile) ↔
      ArgumentsWellFormed layerCount kvHeadCount headDim blockTokens keyBits valueBits ∧
      SizesFit layerCount kvHeadCount headDim blockTokens
        ((keyBits.toNat + valueBits.toNat) % 2 ^ 32) := by
  constructor
  · rintro ⟨profile, hprofile⟩
    obtain ⟨hwell, hfits, -⟩ := makeKvCacheProfile_eq_ok.1 hprofile
    exact ⟨hwell, hfits⟩
  · rintro ⟨hwell, hfits⟩
    have htoken : layerCount.toNat * kvHeadCount.toNat * headDim.toNat *
        ((keyBits.toNat + valueBits.toNat) % 2 ^ 32) / 8 < 2 ^ 64 :=
      (Nat.div_le_self _ _).trans_lt hfits.2.1
    exact ⟨⟨layerCount, kvHeadCount, headDim, blockTokens, keyBits, valueBits, UInt64.ofNat _,
      UInt64.ofNat _⟩, makeKvCacheProfile_eq_ok.2 ⟨hwell, hfits,
        UInt64.toNat_ofNat_of_lt' htoken, UInt64.toNat_ofNat_of_lt' hfits.2.2,
        rfl, rfl, rfl, rfl, rfl, rfl⟩⟩

/-! ## Exact sizes -/

/-- The bytes of a token over the natural numbers. -/
def exactBytesPerToken (layerCount kvHeadCount headDim keyBits valueBits : UInt32) : ℕ :=
  layerCount.toNat * kvHeadCount.toNat * headDim.toNat * (keyBits.toNat + valueBits.toNat) / 8

/-- A profile that is returned has the exact sizes, and sizes that do not fit in 64 bits get
no profile. -/
def ProfileExact
    (layerCount kvHeadCount headDim blockTokens keyBits valueBits : UInt32) : Prop :=
  (∀ profile,
    makeKvCacheProfile layerCount kvHeadCount headDim blockTokens keyBits valueBits =
        .ok profile →
      profile.bytesPerToken.toNat =
        exactBytesPerToken layerCount kvHeadCount headDim keyBits valueBits ∧
      profile.bytesPerBlock.toNat =
        exactBytesPerToken layerCount kvHeadCount headDim keyBits valueBits *
          blockTokens.toNat) ∧
  (2 ^ 64 ≤ exactBytesPerToken layerCount kvHeadCount headDim keyBits valueBits ∨
      2 ^ 64 ≤ exactBytesPerToken layerCount kvHeadCount headDim keyBits valueBits *
        blockTokens.toNat →
    ∃ reason, makeKvCacheProfile layerCount kvHeadCount headDim blockTokens keyBits valueBits =
      .error reason)

/-- A wrapped sum of whole bytes gives fewer bytes, never the same number. -/
theorem wrapped_bytes_lt {product keys values : ℕ} (hproduct : 0 < product)
    (hkeys : keys % 8 = 0) (hvalues : values % 8 = 0) (hwrap : 2 ^ 32 ≤ keys + values) :
    product * (keys + values - 2 ^ 32) / 8 < product * (keys + values) / 8 := by
  obtain ⟨keys, rfl⟩ := Nat.dvd_of_mod_eq_zero hkeys
  obtain ⟨values, rfl⟩ := Nat.dvd_of_mod_eq_zero hvalues
  have hexact : product * (8 * keys + 8 * values) / 8 = product * (keys + values) := by
    rw [← Nat.mul_add, Nat.mul_left_comm, Nat.mul_div_cancel_left _ (by decide)]
  have hwrapped : product * (8 * keys + 8 * values - 2 ^ 32) / 8 =
      product * (keys + values - 2 ^ 29) := by
    rw [show 8 * keys + 8 * values - 2 ^ 32 = 8 * (keys + values - 2 ^ 29) by omega,
      Nat.mul_left_comm, Nat.mul_div_cancel_left _ (by decide)]
  rw [hexact, hwrapped]
  exact Nat.mul_lt_mul_of_pos_left (by omega) hproduct

theorem product_pos (h : ArgumentsWellFormed layerCount kvHeadCount headDim blockTokens keyBits
    valueBits) : 0 < layerCount.toNat * kvHeadCount.toNat * headDim.toNat := by
  obtain ⟨⟨hlayers, hheads, hdim, -⟩, -⟩ := h
  have hpos {n : UInt32} (hn : n ≠ 0) : 0 < n.toNat := by
    rw [Nat.pos_iff_ne_zero]
    intro hzero
    exact hn (UInt32.toNat_inj.1 hzero)
  exact Nat.mul_pos (Nat.mul_pos (hpos hlayers) (hpos hheads)) (hpos hdim)

/-- **KV cache profiles.** The sizes are exact, unless the sum of the bits wraps in 32 bits for
well-formed arguments whose wrapped sizes pass the overflow checks. -/
theorem profile_exact_iff (layerCount kvHeadCount headDim blockTokens keyBits valueBits : UInt32) :
    ProfileExact layerCount kvHeadCount headDim blockTokens keyBits valueBits ↔
      ¬ (2 ^ 32 ≤ keyBits.toNat + valueBits.toNat ∧
        ArgumentsWellFormed layerCount kvHeadCount headDim blockTokens keyBits valueBits ∧
        SizesFit layerCount kvHeadCount headDim blockTokens
          (keyBits.toNat + valueBits.toNat - 2 ^ 32)) := by
  have hkeys := keyBits.toNat_lt
  have hvalues := valueBits.toNat_lt
  have hmod (hwrap : 2 ^ 32 ≤ keyBits.toNat + valueBits.toNat) :
      (keyBits.toNat + valueBits.toNat) % 2 ^ 32 =
        keyBits.toNat + valueBits.toNat - 2 ^ 32 := by omega
  constructor
  · rintro ⟨hexact, -⟩ ⟨hwrap, hwell, hfits⟩
    have hmod := hmod hwrap
    have hlt := wrapped_bytes_lt (product_pos hwell) hwell.2.1 hwell.2.2 hwrap
    obtain ⟨profile, hprofile⟩ := exists_profile_iff.2 ⟨hwell, hmod ▸ hfits⟩
    obtain ⟨-, -, hwrapped, -⟩ := makeKvCacheProfile_eq_ok.1 hprofile
    have hperToken := (hexact profile hprofile).1
    rw [hwrapped, hmod, exactBytesPerToken] at hperToken
    omega
  · intro hsafe
    have hsizes : ∀ profile,
        makeKvCacheProfile layerCount kvHeadCount headDim blockTokens keyBits valueBits =
            .ok profile →
          profile.bytesPerToken.toNat =
            exactBytesPerToken layerCount kvHeadCount headDim keyBits valueBits ∧
          profile.bytesPerBlock.toNat =
            exactBytesPerToken layerCount kvHeadCount headDim keyBits valueBits *
              blockTokens.toNat := by
      intro profile hprofile
      obtain ⟨hwell, hfits, hperToken, hperBlock, -⟩ := makeKvCacheProfile_eq_ok.1 hprofile
      have hsmall : keyBits.toNat + valueBits.toNat < 2 ^ 32 := by
        by_contra hwrap
        exact hsafe ⟨not_lt.1 hwrap, hwell, hmod (not_lt.1 hwrap) ▸ hfits⟩
      rw [Nat.mod_eq_of_lt hsmall] at hperToken hperBlock
      exact ⟨hperToken, hperBlock⟩
    refine ⟨hsizes, ?_⟩
    intro hlarge
    cases hresult : makeKvCacheProfile layerCount kvHeadCount headDim blockTokens keyBits
        valueBits with
    | error reason => exact ⟨reason, rfl⟩
    | ok profile =>
      obtain ⟨hperToken, hperBlock⟩ := hsizes profile hresult
      have htoken := profile.bytesPerToken.toNat_lt
      have hblock := profile.bytesPerBlock.toNat_lt
      rw [hperToken] at htoken
      rw [hperBlock] at hblock
      omega

/-- Keys and values of `2 ^ 31` bits: the sum of the bits wraps to zero, and a profile with no
bytes per token is returned. -/
theorem profile_of_wrapped_bits_is_empty :
    (makeKvCacheProfile 1 1 1 1 2147483648 2147483648).toOption.map
        (fun profile => (profile.bytesPerToken, profile.bytesPerBlock)) = some (0, 0) ∧
      exactBytesPerToken 1 1 1 2147483648 2147483648 = 536870912 ∧
      ¬ ProfileExact 1 1 1 1 2147483648 2147483648 := by
  refine ⟨by decide, by decide, ?_⟩
  rintro ⟨hexact, -⟩
  have := (hexact ⟨1, 1, 1, 1, 2147483648, 2147483648, 0, 0⟩ (by decide)).1
  exact absurd this (by decide)

end Arguments

end PrismInfer.Kv
