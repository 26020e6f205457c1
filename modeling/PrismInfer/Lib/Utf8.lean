import PrismInfer.Lib.Json

/-!
# UTF-8

The encoder of texts, to which `decodeUtf8` is inverse on texts without surrogates.
-/

namespace PrismInfer.Lib

/-- The code point is no surrogate. -/
def CodePoint.IsScalar (c : CodePoint) : Prop :=
  c.val < 0xD800 ∨ 0xE000 ≤ c.val

instance (c : CodePoint) : Decidable c.IsScalar :=
  inferInstanceAs (Decidable (_ ∨ _))

/-- The bytes of one code point. -/
def encodeCodePoint (c : CodePoint) : List (BitVec 8) :=
  let tail (n : ℕ) : BitVec 8 := BitVec.ofNat 8 (0x80 + n % 64)
  if c.val < 0x80 then [BitVec.ofNat 8 c.val]
  else if c.val < 0x800 then [BitVec.ofNat 8 (0xC0 + c.val / 64), tail c.val]
  else if c.val < 0x10000 then
    [BitVec.ofNat 8 (0xE0 + c.val / 4096), tail (c.val / 64), tail c.val]
  else
    [BitVec.ofNat 8 (0xF0 + c.val / 262144), tail (c.val / 4096), tail (c.val / 64), tail c.val]

def encodeUtf8 (t : Text) : List (BitVec 8) :=
  t.flatMap encodeCodePoint

@[simp] theorem encodeUtf8_nil : encodeUtf8 [] = [] := rfl

@[simp] theorem encodeUtf8_cons (c : CodePoint) (t : Text) :
    encodeUtf8 (c :: t) = encodeCodePoint c ++ encodeUtf8 t := rfl

theorem toNat_byte {n : ℕ} (h : n < 256) : (BitVec.ofNat 8 n).toNat = n := by
  rw [BitVec.toNat_ofNat]
  exact Nat.mod_eq_of_lt h

/-- The decoder takes the bytes of one code point off. -/
theorem decodeUtf8_encodeCodePoint {c : CodePoint} (hc : c.IsScalar) (rest : List (BitVec 8)) :
    decodeUtf8 (encodeCodePoint c ++ rest) = (decodeUtf8 rest).map (c :: ·) := by
  have hmax : c.val < 0x110000 := c.isLt
  have htail : ∀ n, (BitVec.ofNat 8 (0x80 + n % 64)).toNat = 0x80 + n % 64 := fun n =>
    toNat_byte (by omega)
  have hjoin : ∀ n, n = c.val → Fin.ofNat 0x110000 n = c := by
    rintro n rfl
    exact Fin.ext (Nat.mod_eq_of_lt hmax)
  unfold encodeCodePoint
  dsimp only
  split
  · rename_i hone
    rw [List.singleton_append, decodeUtf8.eq_def]
    dsimp only
    rw [toNat_byte (by omega), if_pos hone]
    simp only [joinBytes, List.foldl_nil, hjoin _ rfl]
  split
  · rename_i hone htwo
    rw [List.cons_append, List.singleton_append, decodeUtf8.eq_def]
    dsimp only
    rw [toNat_byte (by omega), if_neg (by omega), if_pos (by simp; omega),
      if_pos (by simp only [tailByte, htail]; simp; omega)]
    simp only [joinBytes, List.foldl_cons, List.foldl_nil, htail]
    rw [hjoin _ (by omega)]
  split
  · rename_i hone htwo hthree
    rw [List.cons_append, List.cons_append, List.singleton_append, decodeUtf8.eq_def]
    dsimp only
    rw [toNat_byte (by omega), if_neg (by omega), if_neg (by simp; omega),
      if_pos (by simp; omega), if_pos ?_]
    · simp only [joinBytes, List.foldl_cons, List.foldl_nil, htail]
      rw [hjoin _ (by omega)]
    · -- the second byte of the first and of the last block below the surrogates
      simp only [tailByte, secondOfThree, htail]
      rcases hc with hc | hc <;> split_ifs <;> simp <;> omega
  · rename_i hone htwo hthree
    rw [List.cons_append, List.cons_append, List.cons_append, List.singleton_append,
      decodeUtf8.eq_def]
    dsimp only
    rw [toNat_byte (by omega), if_neg (by omega), if_neg (by simp; omega),
      if_neg (by simp; omega), if_pos ?_]
    · simp only [joinBytes, List.foldl_cons, List.foldl_nil, htail]
      rw [hjoin _ (by omega)]
    · simp only [tailByte, secondOfFour, htail]
      split_ifs <;> simp <;> omega

theorem decodeUtf8_encodeUtf8 {t : Text} (h : ∀ c ∈ t, c.IsScalar) :
    decodeUtf8 (encodeUtf8 t) = some t := by
  induction t with
  | nil => rfl
  | cons c t ih =>
    rw [encodeUtf8_cons, decodeUtf8_encodeCodePoint (h c List.mem_cons_self),
      ih fun d hd => h d (List.mem_cons_of_mem _ hd), Option.map_some]

end PrismInfer.Lib
