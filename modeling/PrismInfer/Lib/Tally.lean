import Mathlib.Tactic

/-!
# Tallies

A tally counts, over the cells of a list, how much each cell contributes to a
shared quantity: how many objects hold a key, how many threads are between two
points of a critical section, how many entries of a trace are of a kind. The
lists here are heaps of objects and tables of threads, so the rules say what
writing one cell (`tally_set`) and adding one (`tally_append`) does to a tally.
-/

namespace PrismInfer.Lib

universe u

variable {α : Type u}

/-- The sum of `f` over the cells of `cells`. -/
def tally (f : α → ℕ) (cells : List α) : ℕ :=
  (cells.map f).sum

variable (f : α → ℕ)

@[simp] theorem tally_nil : tally f [] = 0 := rfl

@[simp] theorem tally_cons (a : α) (cells : List α) :
    tally f (a :: cells) = f a + tally f cells := by
  simp [tally]

@[simp] theorem tally_append (cells cells' : List α) :
    tally f (cells ++ cells') = tally f cells + tally f cells' := by
  simp [tally]

theorem tally_snoc (cells : List α) (a : α) : tally f (cells ++ [a]) = tally f cells + f a := by
  simp

/-- The order of the cells does not matter. -/
theorem tally_perm {cells cells' : List α} (h : cells.Perm cells') :
    tally f cells = tally f cells' :=
  (h.map f).sum_eq

variable {cells : List α} {a : α}

/-- Writing a cell exchanges its contribution. -/
theorem tally_set {i : ℕ} (h : cells[i]? = some a) (b : α) :
    tally f (cells.set i b) + f a = tally f cells + f b := by
  induction cells generalizing i with
  | nil => simp at h
  | cons head rest ih =>
    cases i with
    | zero =>
      obtain rfl : head = a := by simpa using h
      rw [List.set_cons_zero, tally_cons, tally_cons]
      omega
    | succ i =>
      have := ih (show rest[i]? = some a by simpa using h)
      rw [List.set_cons_succ, tally_cons, tally_cons]
      omega

/-- Writing two different cells exchanges both contributions. -/
theorem tally_set_set {i j : ℕ} {a b : α} (hij : i ≠ j) (hi : cells[i]? = some a)
    (hj : cells[j]? = some b) (a' b' : α) :
    tally f ((cells.set i a').set j b') + f a + f b = tally f cells + f a' + f b' := by
  have hfirst := tally_set f hi a'
  have hj' : (cells.set i a')[j]? = some b := by
    rw [List.getElem?_set_ne hij]
    exact hj
  have hsecond := tally_set f hj' b'
  omega

/-- Writing what a cell holds changes nothing. -/
theorem set_of_getElem? {i : ℕ} (h : cells[i]? = some a) : cells = cells.set i a := by
  obtain ⟨hlt, rfl⟩ := List.getElem?_eq_some_iff.1 h
  exact (List.set_getElem_self hlt).symm

theorem getElem?_set_of {i : ℕ} (h : cells[i]? = some a) (b : α) :
    (cells.set i b)[i]? = some b := by
  rw [List.getElem?_set_self', h]
  rfl

/-- What a list holds after one cell was written. -/
theorem getElem?_set_cases {i j : ℕ} {b c : α} (h : (cells.set i b)[j]? = some c) :
    i = j ∧ c = b ∨ cells[j]? = some c := by
  by_cases hij : i = j
  · subst hij
    rw [List.getElem?_set_self', Option.map_eq_map, Option.map_eq_some_iff] at h
    obtain ⟨_, -, rfl⟩ := h
    exact .inl ⟨rfl, rfl⟩
  · rw [List.getElem?_set_ne hij] at h
    exact .inr h

/-- What a list holds after one cell was added. -/
theorem getElem?_snoc_cases {i : ℕ} {b : α} (h : (cells ++ [a])[i]? = some b) :
    cells[i]? = some b ∨ i = cells.length ∧ b = a := by
  rw [List.getElem?_append] at h
  split at h
  · exact .inl h
  · rw [List.getElem?_singleton] at h
    split at h
    · exact .inr ⟨by omega, (Option.some.inj h).symm⟩
    · cases h

theorem getElem?_snoc_of {i : ℕ} (h : cells[i]? = some a) (b : α) :
    (cells ++ [b])[i]? = some a := by
  rw [List.getElem?_append_left (List.getElem?_eq_some_iff.1 h).1, h]

/-- Writing a cell relates every cell to what it held. -/
theorem exists_getElem?_set {r : α → α → Prop} (hrefl : ∀ c, r c c) {i j : ℕ} {b c : α}
    (h : cells[i]? = some a) (hwritten : r b a) (hc : cells[j]? = some c) :
    ∃ c', (cells.set i b)[j]? = some c' ∧ r c' c := by
  by_cases hij : i = j
  · subst hij
    cases h.symm.trans hc
    exact ⟨b, getElem?_set_of h b, hwritten⟩
  · exact ⟨c, by rw [List.getElem?_set_ne hij, hc], hrefl c⟩

/-- What holds of all cells and of a new one holds after it was added, or written. -/
theorem forall_mem_snoc {p : α → Prop} (h : ∀ c ∈ cells, p c) (ha : p a) :
    ∀ c ∈ cells ++ [a], p c :=
  List.forall_mem_append.2 ⟨h, List.forall_mem_singleton.2 ha⟩

theorem forall_mem_set {p : α → Prop} {i : ℕ} (h : ∀ c ∈ cells, p c) (ha : p a) :
    ∀ c ∈ cells.set i a, p c := by
  intro c hmem
  rcases List.mem_or_eq_of_mem_set hmem with hold | rfl
  · exact h c hold
  · exact ha

/-- A cell contributes at most the tally. -/
theorem le_tally (h : a ∈ cells) : f a ≤ tally f cells := by
  induction cells with
  | nil => simp at h
  | cons head rest ih =>
    rw [tally_cons]
    rcases List.mem_cons.1 h with rfl | hrest
    · omega
    · have := ih hrest
      omega

/-- Tallies of functions that agree on the cells are equal. -/
theorem tally_congr {f g : α → ℕ} (h : ∀ a ∈ cells, f a = g a) : tally f cells = tally g cells := by
  rw [tally, tally, List.map_congr_left h]

/-- Tallies are monotone in the contributions. -/
theorem tally_mono {f g : α → ℕ} (h : ∀ a ∈ cells, f a ≤ g a) : tally f cells ≤ tally g cells := by
  induction cells with
  | nil => exact le_rfl
  | cons head rest ih =>
    have hhead := h head List.mem_cons_self
    have hrest := ih fun a ha => h a (List.mem_cons_of_mem _ ha)
    rw [tally_cons, tally_cons]
    omega

/-- A tally without contributions is zero. -/
theorem tally_eq_zero {f : α → ℕ} (h : ∀ a ∈ cells, f a = 0) : tally f cells = 0 := by
  induction cells with
  | nil => rfl
  | cons head rest ih =>
    rw [tally_cons, h head List.mem_cons_self,
      ih fun a ha => h a (List.mem_cons_of_mem _ ha)]

/-- A positive tally has a contributing cell. -/
theorem exists_of_tally_pos {f : α → ℕ} (h : 0 < tally f cells) : ∃ a ∈ cells, 0 < f a := by
  induction cells with
  | nil => simp at h
  | cons head rest ih =>
    rw [tally_cons] at h
    by_cases hhead : 0 < f head
    · exact ⟨head, List.mem_cons_self, hhead⟩
    · obtain ⟨a, ha, hpos⟩ := ih (by omega)
      exact ⟨a, List.mem_cons_of_mem _ ha, hpos⟩

end PrismInfer.Lib
