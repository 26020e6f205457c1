import Mathlib.Tactic
import Mathlib.Algebra.Order.Floor.Div

/-!
# Checked 64-bit arithmetic (checked_arithmetic.cpp)

Every admission formula of the governor is computed on `std::uint64_t` through
these helpers. The machine operations wrap, so each helper tests for overflow
first and answers `none` (`std::nullopt`) instead of a wrapped value. The
lemmas below read each helper as the exact natural-number operation it stands
for; the admission proofs use only these and never unfold a helper.
-/

namespace PrismInfer.Governor

/-- `std::numeric_limits<std::uint64_t>::max()`. -/
def uint64Max : UInt64 := 18446744073709551615

/-- `RatioRounding` (checked_arithmetic.h). -/
inductive RatioRounding
  | down
  | up
  deriving DecidableEq

/-- `kBasisPointDenominator`. -/
def kBasisPointDenominator : UInt64 := 10000

/-- `checked_add_u64`. -/
def checkedAddU64 (left right : UInt64) : Option UInt64 :=
  if left > uint64Max - right then none else some (left + right)

/-- `checked_multiply_u64`. -/
def checkedMultiplyU64 (left right : UInt64) : Option UInt64 :=
  if left ≠ 0 ∧ right > uint64Max / left then none else some (left * right)

/-- `checked_basis_points_u64`: the quotient and the remainder by 10000 are
scaled separately, so that the full product is never formed. -/
def checkedBasisPointsU64 (value : UInt64) (basisPoints : UInt32)
    (rounding : RatioRounding) : Option UInt64 :=
  if basisPoints.toUInt64 > kBasisPointDenominator then none
  else do
    let quotient := value / kBasisPointDenominator
    let remainder := value % kBasisPointDenominator
    let base ← checkedMultiplyU64 quotient basisPoints.toUInt64
    let remainderProduct ← checkedMultiplyU64 remainder basisPoints.toUInt64
    let remainderQuotient := remainderProduct / kBasisPointDenominator
    let roundUp := rounding = .up ∧ remainderProduct % kBasisPointDenominator ≠ 0
    let extra ← checkedAddU64 remainderQuotient (if roundUp then 1 else 0)
    checkedAddU64 base extra

/-- `checked_narrow_u32`. -/
def checkedNarrowU32 (value : UInt64) : Option UInt32 :=
  if value > 4294967295 then none else some value.toUInt32

/-- The `a > b ? a - b : 0` idiom of the cap formulas. -/
def saturatingSub (a b : UInt64) : UInt64 :=
  if a > b then a - b else 0

/-! ## Reading the helpers as natural-number operations -/

@[simp] theorem toNat_uint64Max : uint64Max.toNat = 2 ^ 64 - 1 := rfl

@[simp] theorem toNat_kBasisPointDenominator : kBasisPointDenominator.toNat = 10000 := rfl

variable {a b : UInt64}

/-- A 64-bit sum that does not wrap is the exact sum. -/
theorem toNat_add_of_lt (h : a.toNat + b.toNat < 2 ^ 64) : (a + b).toNat = a.toNat + b.toNat := by
  rw [UInt64.toNat_add, Nat.mod_eq_of_lt h]

/-- A 64-bit product that does not wrap is the exact product. -/
theorem toNat_mul_of_lt (h : a.toNat * b.toNat < 2 ^ 64) : (a * b).toNat = a.toNat * b.toNat := by
  rw [UInt64.toNat_mul, Nat.mod_eq_of_lt h]

/-- The overflow test of `checked_add_u64` is exact. -/
theorem checkedAddU64_overflow_iff (a b : UInt64) :
    a > uint64Max - b ↔ 2 ^ 64 ≤ a.toNat + b.toNat := by
  have hb : b ≤ uint64Max := by
    rw [UInt64.le_iff_toNat_le, toNat_uint64Max]
    have := b.toNat_lt
    omega
  rw [gt_iff_lt, UInt64.lt_iff_toNat_lt, UInt64.toNat_sub_of_le _ _ hb, toNat_uint64Max]
  have := b.toNat_lt
  omega

theorem checkedAddU64_eq_some {a b c : UInt64} :
    checkedAddU64 a b = some c ↔ c.toNat = a.toNat + b.toNat := by
  unfold checkedAddU64
  split
  · rename_i h
    rw [checkedAddU64_overflow_iff] at h
    have := c.toNat_lt
    constructor
    · intro hc
      cases hc
    · intro hc
      omega
  · rename_i h
    rw [checkedAddU64_overflow_iff, not_le] at h
    rw [Option.some.injEq, ← UInt64.toNat_inj, toNat_add_of_lt h]
    exact eq_comm

/-- The overflow test of `checked_multiply_u64` is exact. -/
theorem checkedMultiplyU64_overflow_iff (a b : UInt64) :
    (a ≠ 0 ∧ b > uint64Max / a) ↔ 2 ^ 64 ≤ a.toNat * b.toNat := by
  rw [gt_iff_lt, UInt64.lt_iff_toNat_lt, UInt64.toNat_div, toNat_uint64Max, ne_eq,
    ← UInt64.toNat_inj, UInt64.toNat_zero]
  constructor
  · rintro ⟨ha, hb⟩
    rw [Nat.div_lt_iff_lt_mul (Nat.pos_of_ne_zero ha), Nat.mul_comm] at hb
    omega
  · intro h
    have ha : a.toNat ≠ 0 := by
      rintro h0
      rw [h0, Nat.zero_mul] at h
      omega
    refine ⟨ha, ?_⟩
    rw [Nat.div_lt_iff_lt_mul (Nat.pos_of_ne_zero ha), Nat.mul_comm]
    omega

theorem checkedMultiplyU64_eq_some {a b c : UInt64} :
    checkedMultiplyU64 a b = some c ↔ c.toNat = a.toNat * b.toNat := by
  unfold checkedMultiplyU64
  split
  · rename_i h
    rw [checkedMultiplyU64_overflow_iff] at h
    have := c.toNat_lt
    constructor
    · intro hc
      cases hc
    · intro hc
      omega
  · rename_i h
    rw [checkedMultiplyU64_overflow_iff, not_le] at h
    rw [Option.some.injEq, ← UInt64.toNat_inj, toNat_mul_of_lt h]
    exact eq_comm

/-- A representable sum is answered. -/
theorem checkedAddU64_of_lt (h : a.toNat + b.toNat < 2 ^ 64) : checkedAddU64 a b = some (a + b) :=
  checkedAddU64_eq_some.mpr (toNat_add_of_lt h)

/-- A representable product is answered. -/
theorem checkedMultiplyU64_of_lt (h : a.toNat * b.toNat < 2 ^ 64) :
    checkedMultiplyU64 a b = some (a * b) :=
  checkedMultiplyU64_eq_some.mpr (toNat_mul_of_lt h)

/-- The ratio `checked_basis_points_u64` stands for, in exact arithmetic. -/
def basisPointRatio (value basisPoints : Nat) : RatioRounding → Nat
  | .down => value * basisPoints / 10000
  | .up => (value * basisPoints) ⌈/⌉ 10000

/-- Splitting the value at 10000 loses nothing: the scaled quotient plus the
rounded scaled remainder is the rounded ratio. -/
theorem basisPointRatio_split (value basisPoints : Nat) (rounding : RatioRounding) :
    basisPointRatio value basisPoints rounding =
      value / 10000 * basisPoints +
        (value % 10000 * basisPoints / 10000 +
          if rounding = .up ∧ value % 10000 * basisPoints % 10000 ≠ 0 then 1 else 0) := by
  have hsplit : value * basisPoints =
      10000 * (value / 10000 * basisPoints) + value % 10000 * basisPoints := by
    conv_lhs => rw [← Nat.div_add_mod value 10000]
    ring
  generalize value / 10000 * basisPoints = q at hsplit ⊢
  generalize value % 10000 * basisPoints = r at hsplit ⊢
  cases rounding with
  | down =>
    simp only [basisPointRatio, hsplit, reduceCtorEq, false_and, if_false]
    omega
  | up =>
    simp only [basisPointRatio, hsplit, Nat.ceilDiv_eq_add_pred_div, true_and]
    split <;> omega

/-- At most all of the value: a ratio of at most 10000 basis points never
exceeds it, so no sum of the computation can wrap. -/
theorem basisPointRatio_le (value : Nat) {basisPoints : Nat} (h : basisPoints ≤ 10000)
    (rounding : RatioRounding) : basisPointRatio value basisPoints rounding ≤ value := by
  have hmul : value * basisPoints ≤ value * 10000 := Nat.mul_le_mul_left _ h
  cases rounding with
  | down =>
    simp only [basisPointRatio]
    omega
  | up =>
    simp only [basisPointRatio, Nat.ceilDiv_eq_add_pred_div]
    omega

/-- **`checked_basis_points_u64` is exact**: at most 10000 basis points of any
64-bit value have an answer, and it is the rounded ratio. -/
theorem checkedBasisPointsU64_spec (value : UInt64) {basisPoints : UInt32}
    (h : basisPoints.toNat ≤ 10000) (rounding : RatioRounding) :
    ∃ r, checkedBasisPointsU64 value basisPoints rounding = some r ∧
      r.toNat = basisPointRatio value.toNat basisPoints.toNat rounding := by
  have hle : ¬ basisPoints.toUInt64 > kBasisPointDenominator := by
    rw [gt_iff_lt, UInt64.lt_iff_toNat_lt, UInt32.toNat_toUInt64,
      toNat_kBasisPointDenominator]
    omega
  have hv := value.toNat_lt
  have hq : value.toNat / 10000 * basisPoints.toNat ≤ value.toNat / 10000 * 10000 :=
    Nat.mul_le_mul_left _ h
  have hr : value.toNat % 10000 * basisPoints.toNat ≤ value.toNat % 10000 * 10000 :=
    Nat.mul_le_mul_left _ h
  have hbound : value.toNat / 10000 * basisPoints.toNat < 2 ^ 64 := by omega
  have hrbound : value.toNat % 10000 * basisPoints.toNat < 2 ^ 64 := by omega
  obtain ⟨base, hbase⟩ : ∃ base, checkedMultiplyU64 (value / kBasisPointDenominator)
      basisPoints.toUInt64 = some base := ⟨_, checkedMultiplyU64_of_lt (by simpa using hbound)⟩
  obtain ⟨rest, hrest⟩ : ∃ rest, checkedMultiplyU64 (value % kBasisPointDenominator)
      basisPoints.toUInt64 = some rest := ⟨_, checkedMultiplyU64_of_lt (by simpa using hrbound)⟩
  have hbase' := checkedMultiplyU64_eq_some.mp hbase
  have hrest' := checkedMultiplyU64_eq_some.mp hrest
  rw [UInt64.toNat_div, UInt32.toNat_toUInt64, toNat_kBasisPointDenominator] at hbase'
  rw [UInt64.toNat_mod, UInt32.toNat_toUInt64, toNat_kBasisPointDenominator] at hrest'
  -- the rounding increment, on the machine and on naturals
  have hround : (rounding = .up ∧ rest % kBasisPointDenominator ≠ 0) ↔
      (rounding = .up ∧ value.toNat % 10000 * basisPoints.toNat % 10000 ≠ 0) := by
    rw [ne_eq, ne_eq, ← UInt64.toNat_inj, UInt64.toNat_mod, toNat_kBasisPointDenominator,
      hrest', UInt64.toNat_zero]
  have hone : (if rounding = .up ∧ rest % kBasisPointDenominator ≠ 0 then (1 : UInt64)
      else 0).toNat = if rounding = .up ∧ value.toNat % 10000 * basisPoints.toNat % 10000 ≠ 0
      then 1 else 0 := by
    by_cases hc : rounding = .up ∧ rest % kBasisPointDenominator ≠ 0
    · rw [if_pos hc, if_pos (hround.mp hc)]
      rfl
    · rw [if_neg hc, if_neg (fun hn => hc (hround.mpr hn))]
      rfl
  have hone_le : (if rounding = .up ∧ value.toNat % 10000 * basisPoints.toNat % 10000 ≠ 0
      then 1 else 0) ≤ 1 := by split <;> omega
  obtain ⟨extra, hextra⟩ : ∃ extra, checkedAddU64 (rest / kBasisPointDenominator)
      (if rounding = .up ∧ rest % kBasisPointDenominator ≠ 0 then 1 else 0) = some extra := by
    refine ⟨_, checkedAddU64_of_lt ?_⟩
    rw [UInt64.toNat_div, hone, toNat_kBasisPointDenominator, hrest']
    omega
  have hextra' := checkedAddU64_eq_some.mp hextra
  rw [UInt64.toNat_div, hone, toNat_kBasisPointDenominator, hrest'] at hextra'
  have hsplit := basisPointRatio_split value.toNat basisPoints.toNat rounding
  rw [← hbase', ← hextra'] at hsplit
  have hratio : basisPointRatio value.toNat basisPoints.toNat rounding ≤ value.toNat :=
    basisPointRatio_le value.toNat h rounding
  refine ⟨base + extra, ?_, ?_⟩
  · rw [checkedBasisPointsU64, if_neg hle]
    simp only [Option.bind_eq_bind, Option.bind_eq_some_iff]
    exact ⟨base, hbase, rest, hrest, extra, hextra, checkedAddU64_of_lt (by omega)⟩
  · rw [toNat_add_of_lt (by omega), hsplit]

/-- Both roundings of every ratio of at most 10000 basis points, although the product of the
value and the basis points may exceed 64 bits. -/
theorem checked_basis_points_exact (value : UInt64) {basisPoints : UInt32}
    (h : basisPoints.toNat ≤ 10000) :
    (checkedBasisPointsU64 value basisPoints .down).map UInt64.toNat =
        some (value.toNat * basisPoints.toNat / 10000) ∧
      (checkedBasisPointsU64 value basisPoints .up).map UInt64.toNat =
        some ((value.toNat * basisPoints.toNat) ⌈/⌉ 10000) := by
  obtain ⟨floor, hfloor, hdown⟩ := checkedBasisPointsU64_spec value h .down
  obtain ⟨ceil, hceil, hup⟩ := checkedBasisPointsU64_spec value h .up
  rw [hfloor, hceil, Option.map_some, Option.map_some, hdown, hup]
  exact ⟨rfl, rfl⟩

theorem checked_basis_points_exact_at_maximum :
    (checkedBasisPointsU64 uint64Max 9999 .down).map UInt64.toNat = some 18444899399302180659 ∧
      (checkedBasisPointsU64 uint64Max 9999 .up).map UInt64.toNat = some 18444899399302180660 :=
  checked_basis_points_exact uint64Max (by decide)

/-- The cap formulas' subtraction is truncated subtraction on naturals. -/
@[simp] theorem toNat_saturatingSub (a b : UInt64) :
    (saturatingSub a b).toNat = a.toNat - b.toNat := by
  unfold saturatingSub
  split
  · rename_i h
    exact UInt64.toNat_sub_of_le _ _ (UInt64.le_of_lt h)
  · rename_i h
    rw [gt_iff_lt, UInt64.lt_iff_toNat_lt] at h
    rw [UInt64.toNat_zero]
    omega

/-- A sum taken with `checked_add_u64` is at least each of its terms. -/
theorem le_of_checkedSum {terms : List UInt64} {start total : UInt64}
    (h : terms.foldlM checkedAddU64 start = some total) :
    start.toNat ≤ total.toNat ∧ ∀ term ∈ terms, term.toNat ≤ total.toNat := by
  induction terms generalizing start with
  | nil =>
    cases h
    exact ⟨le_rfl, nofun⟩
  | cons head rest ih =>
    rw [List.foldlM_cons, Option.bind_eq_bind, Option.bind_eq_some_iff] at h
    obtain ⟨next, hnext, hrest⟩ := h
    have hsum := checkedAddU64_eq_some.1 hnext
    obtain ⟨hle, hterms⟩ := ih hrest
    refine ⟨by omega, ?_⟩
    intro term hmem
    rcases List.mem_cons.1 hmem with rfl | hold
    · omega
    · exact hterms term hold

end PrismInfer.Governor
