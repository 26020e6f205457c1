import Mathlib.Tactic

/-!
# Lists in blocks

A list is cut into blocks of `n` elements, and what is left over is shorter than a block. An
operation that takes whole blocks can be fed a list in pieces: the blocks of the pieces that
came before are taken already, and what they left over stands before the next piece
(`absorb_append`, `leftover_append`). If every element is expanded into `k` others, the blocks
are expanded with them (`blocks_flatMap`).

Proofs follow the blocks by `blockInduction`.
-/

namespace PrismInfer.Lib

variable {α β σ : Type} {n : ℕ}

/-- So many blocks from the start of a list. -/
def takeBlocks (n : ℕ) : ℕ → List α → List (List α)
  | 0, _ => []
  | count + 1, xs => xs.take n :: takeBlocks n count (xs.drop n)

/-- The whole blocks of a list. -/
def blocks (n : ℕ) (xs : List α) : List (List α) :=
  takeBlocks n (xs.length / n) xs

/-- What the whole blocks leave over. -/
def leftover (n : ℕ) (xs : List α) : List α :=
  xs.drop (n * (xs.length / n))

/-- Takes the whole blocks of a list. -/
def absorb (n : ℕ) (f : σ → List α → σ) (s : σ) (xs : List α) : σ :=
  (blocks n xs).foldl f s

/-! ## One block after the other -/

variable {xs : List α}

theorem blocks_of_lt (h : xs.length < n) : blocks n xs = [] := by
  rw [blocks, Nat.div_eq_of_lt h, takeBlocks]

theorem leftover_of_lt (h : xs.length < n) : leftover n xs = xs := by
  rw [leftover, Nat.div_eq_of_lt h, Nat.mul_zero, List.drop_zero]

variable {first : List α}

theorem length_div_append (hn : 0 < n) (hfirst : first.length = n) (rest : List α) :
    (first ++ rest).length / n = rest.length / n + 1 := by
  rw [List.length_append, hfirst, Nat.add_div_left _ hn]

theorem blocks_append (hn : 0 < n) (hfirst : first.length = n) (rest : List α) :
    blocks n (first ++ rest) = first :: blocks n rest := by
  rw [blocks, length_div_append hn hfirst, takeBlocks, List.take_left' hfirst,
    List.drop_left' hfirst, blocks]

theorem leftover_append_block (hn : 0 < n) (hfirst : first.length = n) (rest : List α) :
    leftover n (first ++ rest) = leftover n rest := by
  rw [leftover, length_div_append hn hfirst, Nat.mul_add, Nat.mul_one, Nat.add_comm,
    ← List.drop_drop, List.drop_left' hfirst, leftover]

/-- A list is short, or a block and a list. -/
@[elab_as_elim]
theorem blockInduction (hn : 0 < n) {motive : List α → Prop}
    (short : ∀ xs : List α, xs.length < n → motive xs)
    (block : ∀ first rest : List α, first.length = n → motive rest → motive (first ++ rest))
    (xs : List α) : motive xs := by
  induction hlength : xs.length using Nat.strong_induction_on generalizing xs with
  | _ length ih =>
    by_cases hshort : xs.length < n
    · exact short xs hshort
    · rw [← List.take_append_drop n xs]
      refine block _ _ (by rw [List.length_take]; omega) (ih _ ?_ _ rfl)
      rw [List.length_drop]
      omega

theorem length_of_mem_blocks (hn : 0 < n) {xs block : List α} (h : block ∈ blocks n xs) :
    block.length = n := by
  induction xs using blockInduction hn with
  | short xs hshort =>
    rw [blocks_of_lt hshort] at h
    cases h
  | block first rest hfirst ih =>
    rw [blocks_append hn hfirst, List.mem_cons] at h
    rcases h with rfl | h
    · exact hfirst
    · exact ih h

/-! ## In pieces -/

variable {f : σ → List α → σ} {s : σ}

theorem absorb_of_lt (h : xs.length < n) : absorb n f s xs = s := by
  rw [absorb, blocks_of_lt h, List.foldl_nil]

theorem absorb_append_block (hn : 0 < n) (hfirst : first.length = n) (rest : List α) :
    absorb n f s (first ++ rest) = absorb n f (f s first) rest := by
  rw [absorb, blocks_append hn hfirst, List.foldl_cons, absorb]

theorem absorb_block (hn : 0 < n) (hfirst : first.length = n) : absorb n f s first = f s first := by
  rw [← List.append_nil first, absorb_append_block hn hfirst, absorb_of_lt hn, List.append_nil]

theorem absorb_append (hn : 0 < n) (xs ys : List α) :
    absorb n f s (xs ++ ys) = absorb n f (absorb n f s xs) (leftover n xs ++ ys) := by
  induction xs using blockInduction hn generalizing s with
  | short xs hshort => rw [absorb_of_lt hshort, leftover_of_lt hshort]
  | block first rest hfirst ih =>
    rw [List.append_assoc, absorb_append_block hn hfirst, absorb_append_block hn hfirst,
      leftover_append_block hn hfirst, ih]

theorem leftover_append (hn : 0 < n) (xs ys : List α) :
    leftover n (xs ++ ys) = leftover n (leftover n xs ++ ys) := by
  induction xs using blockInduction hn with
  | short xs hshort => rw [leftover_of_lt hshort]
  | block first rest hfirst ih =>
    rw [List.append_assoc, leftover_append_block hn hfirst, leftover_append_block hn hfirst, ih]

/-! ## Expanded elements -/

variable {g : α → List β} {k : ℕ}

theorem length_flatMap_of_length (hg : ∀ x, (g x).length = k) (xs : List α) :
    (xs.flatMap g).length = k * xs.length := by
  rw [List.length_flatMap, List.map_congr_left fun x _ => hg x]
  simp [Nat.mul_comm]

theorem drop_flatMap_of_length (hg : ∀ x, (g x).length = k) (xs : List α) (i : ℕ) :
    (xs.flatMap g).drop (k * i) = (xs.drop i).flatMap g := by
  induction i generalizing xs with
  | zero => rfl
  | succ i ih =>
    cases xs with
    | nil => simp
    | cons x xs =>
      rw [List.flatMap_cons, Nat.mul_succ, Nat.add_comm, ← List.drop_drop, List.drop_left' (hg x),
        ih, List.drop_succ_cons]

theorem take_flatMap_of_length (hg : ∀ x, (g x).length = k) (xs : List α) (i : ℕ) :
    (xs.flatMap g).take (k * i) = (xs.take i).flatMap g := by
  induction i generalizing xs with
  | zero => simp
  | succ i ih =>
    cases xs with
    | nil => simp
    | cons x xs =>
      rw [List.flatMap_cons, Nat.mul_succ, Nat.add_comm, ← hg x, List.take_length_add_append,
        hg x, ih, List.take_succ_cons, List.flatMap_cons]

theorem blocks_flatMap (hn : 0 < n) (hk : 0 < k) (hg : ∀ x, (g x).length = k) (xs : List α) :
    blocks (k * n) (xs.flatMap g) = (blocks n xs).map (List.flatMap g) := by
  induction xs using blockInduction hn with
  | short xs hshort =>
    rw [blocks_of_lt hshort, blocks_of_lt, List.map_nil]
    rw [length_flatMap_of_length hg]
    exact Nat.mul_lt_mul_of_pos_left hshort hk
  | block first rest hfirst ih =>
    have hlength : (first.flatMap g).length = k * n := by
      rw [length_flatMap_of_length hg, hfirst]
    rw [List.flatMap_append, blocks_append (Nat.mul_pos hk hn) hlength, blocks_append hn hfirst,
      List.map_cons, ih]

end PrismInfer.Lib
