import Mathlib.Tactic

/-!
# Texts of delimited parts

A text of parts, each behind a separator. Parts that do not contain the separator can be
read off from either end, whatever stands at the other one (`joined_inj_left`,
`joined_inj_right`). A free text in front of them may contain separators, and parts that
look like theirs. It still ends in one place only if it is short enough to be told apart
from them by the word that the first part starts with (`free_inj`).
-/

namespace PrismInfer.Lib

variable {α : Type} {sep : α}

/-- The parts, each behind a separator. -/
def joined (sep : α) (parts : List (List α)) : List α :=
  parts.flatMap (sep :: ·)

@[simp] theorem joined_nil : joined sep [] = [] := rfl

@[simp] theorem joined_cons (part : List α) (parts : List (List α)) :
    joined sep (part :: parts) = sep :: (part ++ joined sep parts) := rfl

theorem joined_append (parts parts' : List (List α)) :
    joined sep (parts ++ parts') = joined sep parts ++ joined sep parts' :=
  List.flatMap_append

/-- No part contains the separator. -/
def Separable (sep : α) (parts : List (List α)) : Prop :=
  ∀ part ∈ parts, sep ∉ part

theorem Separable.tail {part : List α} {parts : List (List α)}
    (h : Separable sep (part :: parts)) : Separable sep parts :=
  fun other hother => h other (List.mem_cons_of_mem _ hother)

/-! ## Reading parts off -/

theorem first_part {a b x y : List α} (ha : sep ∉ a) (hb : sep ∉ b)
    (h : a ++ sep :: x = b ++ sep :: y) : a = b ∧ x = y := by
  induction a generalizing b with
  | nil =>
    cases b with
    | nil => exact ⟨rfl, (List.cons.inj h).2⟩
    | cons c b =>
      obtain ⟨rfl, -⟩ := List.cons.inj h
      exact absurd List.mem_cons_self hb
  | cons c a ih =>
    cases b with
    | nil =>
      obtain ⟨rfl, -⟩ := List.cons.inj h
      exact absurd List.mem_cons_self ha
    | cons d b =>
      obtain ⟨rfl, htail⟩ := List.cons.inj h
      obtain ⟨rfl, hrest⟩ := ih (fun hmem => ha (List.mem_cons_of_mem _ hmem))
        (fun hmem => hb (List.mem_cons_of_mem _ hmem)) htail
      exact ⟨rfl, hrest⟩

theorem last_part {a b x y : List α} (ha : sep ∉ a) (hb : sep ∉ b)
    (h : x ++ sep :: a = y ++ sep :: b) : x = y ∧ a = b := by
  have hreverse := congrArg List.reverse h
  simp only [List.reverse_append, List.reverse_cons, List.append_assoc,
    List.singleton_append] at hreverse
  obtain ⟨hab, hxy⟩ :=
    first_part (by rwa [List.mem_reverse]) (by rwa [List.mem_reverse]) hreverse
  exact ⟨List.reverse_inj.1 hxy, List.reverse_inj.1 hab⟩

variable {parts parts' : List (List α)} {x y : List α}

/-- Parts at the end of a text. -/
theorem joined_inj_right (hparts : Separable sep parts) (hparts' : Separable sep parts')
    (hlength : parts.length = parts'.length) (h : x ++ joined sep parts = y ++ joined sep parts') :
    x = y ∧ parts = parts' := by
  -- from the last part to the first
  induction parts using List.reverseRecOn generalizing parts' with
  | nil =>
    obtain rfl : parts' = [] := List.length_eq_zero_iff.1 hlength.symm
    simpa using h
  | append_singleton parts part ih =>
    rcases List.eq_nil_or_concat parts' with rfl | ⟨parts', part', rfl⟩
    · simp at hlength
    rw [List.concat_eq_append] at *
    rw [joined_append, joined_append, ← List.append_assoc, ← List.append_assoc] at h
    simp only [joined_cons, joined_nil, List.append_nil] at h
    obtain ⟨hrest, rfl⟩ := last_part (hparts part (by simp)) (hparts' part' (by simp)) h
    obtain ⟨rfl, rfl⟩ := ih (fun p hp => hparts p (by simp [hp]))
      (fun p hp => hparts' p (by simp [hp])) (by simpa using hlength) hrest
    exact ⟨rfl, rfl⟩

theorem joined_append_cons (parts : List (List α)) (x : List α) :
    ∃ y, joined sep parts ++ sep :: x = sep :: y := by
  cases parts with
  | nil => exact ⟨x, rfl⟩
  | cons part parts => exact ⟨_, rfl⟩

/-- Parts at the start of a text. -/
theorem joined_inj_left (hparts : Separable sep parts) (hparts' : Separable sep parts')
    (hlength : parts.length = parts'.length)
    (h : joined sep parts ++ sep :: x = joined sep parts' ++ sep :: y) :
    parts = parts' ∧ x = y := by
  induction parts generalizing parts' with
  | nil =>
    obtain rfl : parts' = [] := List.length_eq_zero_iff.1 hlength.symm
    exact ⟨rfl, (List.cons.inj h).2⟩
  | cons part parts ih =>
    cases parts' with
    | nil => cases hlength
    | cons part' parts' =>
      obtain ⟨more, hmore⟩ := @joined_append_cons _ sep parts x
      obtain ⟨more', hmore'⟩ := @joined_append_cons _ sep parts' y
      have htail : part ++ (joined sep parts ++ sep :: x) =
          part' ++ (joined sep parts' ++ sep :: y) := by
        simpa using h
      rw [hmore, hmore'] at htail
      obtain ⟨rfl, hrest⟩ :=
        first_part (hparts part List.mem_cons_self) (hparts' part' List.mem_cons_self) htail
      obtain ⟨rfl, rfl⟩ := ih hparts.tail hparts'.tail (Nat.succ.inj hlength)
        (by rw [hmore, hmore', hrest])
      exact ⟨rfl, rfl⟩

/-! ## A free text in front -/

/-- A separator in a text of parts starts one of them. -/
theorem part_of_separator {parts : List (List α)} (hparts : Separable sep parts)
    (h : x ++ sep :: y = joined sep parts) :
    ∃ before part after, parts = before ++ part :: after ∧ x = joined sep before ∧
      y = part ++ joined sep after := by
  induction parts generalizing x with
  | nil => simp at h
  | cons part parts ih =>
    cases x with
    | nil => exact ⟨[], part, parts, rfl, rfl, (List.cons.inj h).2⟩
    | cons c x =>
      obtain ⟨rfl, htail⟩ := List.cons.inj h
      rcases List.append_eq_append_iff.1 htail with ⟨more, hpart, hmore⟩ | ⟨more, rfl, hmore⟩
      · -- the separator cannot be in the part
        cases more with
        | nil =>
          rw [List.append_nil] at hpart
          obtain ⟨before, part', after, hsplit, hbefore, hafter⟩ := ih hparts.tail (x := []) hmore
          refine ⟨part :: before, part', after, by rw [hsplit]; rfl, ?_, hafter⟩
          rw [joined_cons, ← hbefore, List.append_nil, hpart]
        | cons d more =>
          obtain ⟨rfl, -⟩ := List.cons.inj hmore
          refine absurd ?_ (hparts part List.mem_cons_self)
          rw [hpart]
          exact List.mem_append_right _ List.mem_cons_self
      · obtain ⟨before, part', after, hsplit, hbefore, hafter⟩ := ih hparts.tail hmore.symm
        refine ⟨part :: before, part', after, by rw [hsplit]; rfl, ?_, hafter⟩
        rw [joined_cons, ← hbefore]

/-- A word without separators that a text of parts starts with is in its first part. -/
theorem prefix_of_prefix_joined {word part : List α} {parts : List (List α)} (hword : sep ∉ word)
    (h : word <+: part ++ joined sep parts) : word <+: part := by
  rcases List.prefix_or_prefix_of_prefix h (List.prefix_append part _) with hpart | ⟨more, rfl⟩
  · exact hpart
  · rw [List.prefix_append_right_inj] at h
    cases more with
    | nil => rw [List.append_nil]
    | cons c more =>
      cases parts with
      | nil => simp at h
      | cons next parts =>
        rw [joined_cons, List.cons_prefix_cons] at h
        rw [h.1] at hword
        exact absurd (List.mem_append_right _ List.mem_cons_self) hword

/-- The parts and the rest of a text, and the word that only the first part starts with. -/
structure Marked (sep : α) (word : List α) (first : List α) (parts : List (List α)) : Prop where
  separable : Separable sep (first :: parts)
  first : word <+: first
  others : ∀ part ∈ parts, ¬word <+: part

/-- The parts do not start further on in the same text. -/
theorem not_shifted {word first first' : List α} {x y more : List α} (hword : sep ∉ word)
    (h : Marked sep word first parts) (h' : Marked sep word first' parts')
    (hshort : more.length + word.length < (joined sep (first :: parts)).length)
    (heq : joined sep (first :: parts) ++ x = more ++ (joined sep (first' :: parts') ++ y)) :
    more = [] := by
  by_contra hne
  -- the moved text lies in the parts, and the separator and the word after it do too
  rcases List.append_eq_append_iff.1 heq with ⟨tail, hmore, -⟩ | ⟨tail, htext, htail⟩
  · have := congrArg List.length hmore
    rw [List.length_append] at this
    omega
  have hlength : word.length < tail.length := by
    rw [htext, List.length_append] at hshort
    omega
  have hstart : sep :: word <+: tail := by
    have hlong : sep :: word <+: tail ++ x := by
      rw [← htail, joined_cons, List.cons_append, List.append_assoc, List.cons_prefix_cons]
      exact ⟨rfl, h'.first.trans (List.prefix_append _ _)⟩
    exact List.prefix_of_prefix_length_le hlong (List.prefix_append _ _) hlength
  obtain ⟨rest, rfl⟩ := hstart
  obtain ⟨before, part, after, hsplit, hbefore, hafter⟩ :=
    part_of_separator h.separable (x := more) (y := word ++ rest) htext.symm
  have hpart : word <+: part := by
    refine @prefix_of_prefix_joined _ sep word part after hword ?_
    rw [← hafter]
    exact List.prefix_append _ _
  cases before with
  | nil => exact hne hbefore
  | cons head before =>
    obtain ⟨-, rfl⟩ := List.cons.inj hsplit
    exact h.others part (by simp) hpart

/-- **A free text ends where the parts start**, if it is shorter than they are. -/
theorem free_inj {word first first' : List α} {free free' x y : List α} (hword : sep ∉ word)
    (h : Marked sep word first parts) (h' : Marked sep word first' parts')
    (hshort : free'.length + word.length < (joined sep (first :: parts)).length)
    (hshort' : free.length + word.length < (joined sep (first' :: parts')).length)
    (heq : free ++ (joined sep (first :: parts) ++ x) =
      free' ++ (joined sep (first' :: parts') ++ y)) :
    free = free' ∧ joined sep (first :: parts) ++ x = joined sep (first' :: parts') ++ y := by
  rcases List.append_eq_append_iff.1 heq with ⟨more, rfl, hrest⟩ | ⟨more, rfl, hrest⟩
  · obtain rfl := not_shifted hword h h' (by rw [List.length_append] at hshort; omega) hrest
    exact ⟨(List.append_nil _).symm, hrest⟩
  · obtain rfl := not_shifted hword h' h (by rw [List.length_append] at hshort'; omega) hrest
    exact ⟨List.append_nil _, hrest.symm⟩

end PrismInfer.Lib
