import Mathlib.Data.List.Infix
import Mathlib.Tactic

/-!
# Searching a text

The lines of a text as `std::getline` reads them, and where a word can occur in a text
that is put together from parts. A word does not lie across a character that it does not
contain (`infix_of_append_cons`), so a word without separators lies in one of the separated
parts (`infix_part`). A word that starts and ends with a mark and contains as many marks
as such a text does is the whole text (`eq_of_infix_of_count`).
-/

namespace PrismInfer.Lib

/-! ## Lines -/

section Lines

variable {α : Type} [DecidableEq α] (stop : α)

/-- The lines of a text, with the line that is being read. A last line needs no end. -/
def linesFrom (line : List α) : List α → List (List α)
  | [] => if line = [] then [] else [line]
  | c :: rest =>
    if c = stop then line :: linesFrom [] rest
    else linesFrom (line ++ [c]) rest

/-- The lines of a text. -/
def lines (text : List α) : List (List α) :=
  linesFrom stop [] text

variable {stop}

theorem linesFrom_append {word : List α} (hword : stop ∉ word) (line rest : List α) :
    linesFrom stop line (word ++ rest) = linesFrom stop (line ++ word) rest := by
  induction word generalizing line with
  | nil => rw [List.nil_append, List.append_nil]
  | cons c word ih =>
    rw [List.mem_cons, not_or] at hword
    rw [List.cons_append, linesFrom, if_neg (Ne.symm hword.1), ih hword.2, List.append_assoc]
    rfl

/-- What was written line by line is read line by line. -/
theorem lines_written {written : List (List α)} (h : ∀ line ∈ written, stop ∉ line) :
    lines stop (written.flatMap fun line => line ++ [stop]) = written := by
  induction written with
  | nil => rfl
  | cons line written ih =>
    rw [List.flatMap_cons, List.append_assoc, lines, linesFrom_append (h line List.mem_cons_self),
      List.nil_append, List.singleton_append, linesFrom, if_pos rfl]
    exact congrArg (line :: ·) (ih fun other hother => h other (List.mem_cons_of_mem _ hother))

end Lines

/-! ## Words -/

section Words

variable {α : Type} {word : List α}

/-- A word does not lie across a character that it does not contain. -/
theorem infix_of_append_cons {c : α} (hc : c ∉ word) {x y : List α} (h : word <:+: x ++ c :: y) :
    word <:+: x ∨ word <:+: y := by
  obtain ⟨s, t, hst⟩ := h
  rcases List.append_eq_append_iff.1 hst with ⟨more, rfl, -⟩ | ⟨more, hmore, hy⟩
  · exact .inl ⟨s, more, rfl⟩
  cases more with
  | nil =>
    rw [List.append_nil] at hmore
    exact .inl ⟨s, [], by rw [List.append_nil, hmore]⟩
  | cons d more =>
    obtain ⟨rfl, rfl⟩ := List.cons.inj hy
    -- the character stands in the word, or before it
    rcases List.append_eq_append_iff.1 hmore with ⟨cut, -, rfl⟩ | ⟨cut, rfl, hcut⟩
    · exact absurd (List.mem_append_right _ List.mem_cons_self) hc
    cases cut with
    | nil =>
      rw [List.nil_append] at hcut
      rw [← hcut] at hc
      exact absurd List.mem_cons_self hc
    | cons d cut =>
      obtain ⟨-, rfl⟩ := List.cons.inj hcut
      exact .inr ⟨cut, t, rfl⟩

/-- A word without separators in a text of separated parts lies in one of them. -/
theorem infix_part {sep : α} (hsep : sep ∉ word) {first : List α} {parts : List (List α)}
    (h : word <:+: first ++ parts.flatMap (sep :: ·)) :
    ∃ part ∈ first :: parts, word <:+: part := by
  induction parts generalizing first with
  | nil => exact ⟨first, List.mem_cons_self, by simpa using h⟩
  | cons part parts ih =>
    rw [List.flatMap_cons, List.cons_append] at h
    rcases infix_of_append_cons hsep h with h | h
    · exact ⟨first, List.mem_cons_self, h⟩
    · obtain ⟨found, hmem, hfound⟩ := ih h
      exact ⟨found, List.mem_cons_of_mem _ hmem, hfound⟩

/-- A word that starts and ends with a mark and has all the marks of such a text. -/
theorem eq_of_infix_of_count [DecidableEq α] {mark : α} {inner text : List α}
    (h : mark :: (inner ++ [mark]) <:+: mark :: (text ++ [mark]))
    (hcount : text.count mark ≤ inner.count mark) : inner = text := by
  obtain ⟨s, t, hst⟩ := h
  have htotal := congrArg (List.count mark) hst
  simp only [List.count_append, List.count_cons_self] at htotal
  have hs : mark ∉ s := List.count_eq_zero.1 (by omega)
  have ht : mark ∉ t := List.count_eq_zero.1 (by omega)
  obtain rfl : s = [] := by
    cases s with
    | nil => rfl
    | cons c s =>
      obtain ⟨rfl, -⟩ := List.cons.inj hst
      exact absurd List.mem_cons_self hs
  obtain rfl : t = [] := by
    rcases List.eq_nil_or_concat t with rfl | ⟨t, c, rfl⟩
    · rfl
    · have hlast := congrArg List.getLast? hst
      simp only [List.concat_eq_append, ← List.append_assoc, List.getLast?_concat,
        ← List.cons_append] at hlast
      obtain rfl := Option.some.inj hlast
      simp at ht
  simpa using hst

end Words

end PrismInfer.Lib
