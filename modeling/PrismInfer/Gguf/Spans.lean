import Mathlib
import PrismInfer.Lib.Fallible

/-!
# The spans of the tensors

`validate_spans` (scripts/inventory-gguf.py:64–73) looks at every span on its own, and at
overlaps only between neighbours of the sorted spans. A span is not empty, so what ends
before its neighbour starts ends before everything that is sorted behind it
(`checkOverlaps_eq_ok_iff`).
-/

namespace PrismInfer.Gguf

open PrismInfer.Lib

/-- A tuple `(start, end, name)`. -/
abbrev Span := ℤ × ℤ × String

def Span.start (span : Span) : ℤ := span.1
def Span.stop (span : Span) : ℤ := span.2.1
def Span.name (span : Span) : String := span.2.2

/-- `UINT64_MAX`. -/
def uint64Max : ℤ := 2 ^ 64 - 1

/-- The first loop, for one span. The remainder by zero raises. -/
def checkSpan (fileSize alignment : ℤ) (span : Span) : Except String Unit :=
  if span.start < 0 ∨ span.stop ≤ span.start ∨ span.start > uint64Max ∨ span.stop > uint64Max ∨
      span.stop > fileSize then
    .error ("tensor_bounds_rejected:" ++ span.name)
  else if alignment = 0 then .error "ZeroDivisionError"
  else if span.start % alignment ≠ 0 then .error ("tensor_alignment_rejected:" ++ span.name)
  else .ok ()

/-- The order of tuples. -/
def Span.key (span : Span) : ℤ ×ₗ ℤ ×ₗ String :=
  toLex (span.start, toLex (span.stop, span.name))

/-- `sorted`. -/
def sortSpans (spans : List Span) : List Span :=
  spans.mergeSort fun a b => decide (a.key ≤ b.key)

/-- The second loop, over neighbours. -/
def checkOverlaps : List Span → Except String Unit
  | [] => .ok ()
  | [_] => .ok ()
  | previous :: current :: rest =>
    if previous.stop > current.start then
      .error ("tensor_overlap:" ++ previous.name ++ ":" ++ current.name)
    else checkOverlaps (current :: rest)

/-- `validate_spans`. -/
def validateSpans (spans : List Span) (fileSize alignment : ℤ) : Except String Unit := do
  spans.forM (checkSpan fileSize alignment)
  checkOverlaps (sortSpans spans)

/-- What is asked of one span. -/
structure Span.Fits (fileSize alignment : ℤ) (span : Span) : Prop where
  nonempty : span.start < span.stop
  lower : 0 ≤ span.start
  upper : span.stop ≤ fileSize
  bounded : span.stop < 2 ^ 64
  aligned : alignment ∣ span.start

/-- The places of a span. -/
def Span.places (span : Span) : Set ℤ := Set.Ico span.start span.stop

variable {spans : List Span} {a b : Span} {fileSize alignment : ℤ}

theorem checkSpan_eq_ok_iff (h : alignment ≠ 0) :
    checkSpan fileSize alignment a = .ok () ↔ a.Fits fileSize alignment := by
  unfold checkSpan uint64Max
  split
  · refine iff_of_false nofun fun hfits => ?_
    obtain ⟨hnonempty, hlower, hupper, hbounded, -⟩ := hfits
    omega
  split
  · refine iff_of_false nofun fun hfits => ?_
    exact absurd (Int.emod_eq_zero_of_dvd hfits.aligned) ‹_›
  · refine iff_of_true rfl ⟨by omega, by omega, by omega, by omega, ?_⟩
    exact Int.dvd_of_emod_eq_zero (not_not.1 ‹_›)

theorem sortSpans_perm (spans : List Span) : (sortSpans spans).Perm spans :=
  List.mergeSort_perm _ _

theorem Span.start_le_of_key (h : a.key ≤ b.key) : a.start ≤ b.start := by
  rcases Prod.Lex.le_iff.1 h with hlt | ⟨heq, -⟩
  · exact le_of_lt hlt
  · exact le_of_eq heq

theorem sortSpans_sorted (spans : List Span) :
    (sortSpans spans).Pairwise fun a b => a.start ≤ b.start := by
  have hsorted : (sortSpans spans).Pairwise fun a b => decide (a.key ≤ b.key) = true := by
    refine List.pairwise_mergeSort ?_ ?_ spans
    · intro a b c h h'
      exact decide_eq_true (le_trans (of_decide_eq_true h) (of_decide_eq_true h'))
    · intro a b
      simpa using le_total a.key b.key
  exact hsorted.imp fun h => Span.start_le_of_key (of_decide_eq_true h)

/-- Of two spans in order, the first ends before the second starts. -/
theorem disjoint_places_iff (hb : b.start < b.stop) (hle : a.start ≤ b.start) :
    Disjoint a.places b.places ↔ a.stop ≤ b.start := by
  rw [Span.places, Span.places, Set.Ico_disjoint_Ico, max_eq_right hle]
  omega

/-- **Neighbours are enough** for spans in order, none of them empty. -/
theorem checkOverlaps_eq_ok_iff (hnonempty : ∀ span ∈ spans, span.start < span.stop)
    (hsorted : spans.Pairwise fun a b => a.start ≤ b.start) :
    checkOverlaps spans = .ok () ↔ spans.Pairwise fun a b => Disjoint a.places b.places := by
  induction spans with
  | nil => exact iff_of_true rfl .nil
  | cons a rest ih =>
    cases rest with
    | nil => exact iff_of_true rfl (List.pairwise_singleton _ _)
    | cons b rest =>
      obtain ⟨hle, hrest⟩ := List.pairwise_cons.1 hsorted
      have hmem : ∀ c ∈ b :: rest, c.start < c.stop :=
        fun c hc => hnonempty c (List.mem_cons_of_mem a hc)
      -- the neighbour starts first of all that follow
      have hfirst : ∀ c ∈ b :: rest, b.start ≤ c.start := by
        intro c hc
        rcases List.mem_cons.1 hc with rfl | hc
        · exact le_rfl
        · exact (List.pairwise_cons.1 hrest).1 c hc
      rw [List.pairwise_cons, ← ih hmem hrest, checkOverlaps]
      split
      · refine iff_of_false nofun fun hdisjoint => ?_
        have hb := hdisjoint.1 b List.mem_cons_self
        rw [disjoint_places_iff (hmem b List.mem_cons_self) (hle b List.mem_cons_self)] at hb
        omega
      · refine (and_iff_right fun c hc => ?_).symm
        rw [disjoint_places_iff (hmem c hc) (hle c hc)]
        have := hfirst c hc
        omega

theorem validateSpans_eq_ok_iff (h : alignment ≠ 0) :
    validateSpans spans fileSize alignment = .ok () ↔
      (∀ span ∈ spans, span.Fits fileSize alignment) ∧
        spans.Pairwise fun a b => Disjoint a.places b.places := by
  rw [validateSpans, unit_bind, forM_eq_ok]
  simp only [checkSpan_eq_ok_iff h]
  refine and_congr_right fun hfits => ?_
  have hperm := sortSpans_perm spans
  rw [checkOverlaps_eq_ok_iff (fun span hspan => (hfits span (hperm.mem_iff.1 hspan)).nonempty)
    (sortSpans_sorted spans)]
  exact hperm.pairwise_iff fun hdisjoint => hdisjoint.symm

/-- `validate_spans` returns exactly when every span fits and no two of them overlap. -/
theorem spans_valid_iff (spans : List Span) (fileSize : ℤ) {alignment : ℤ} (h : 0 < alignment) :
    validateSpans spans fileSize alignment = .ok () ↔
      (∀ span ∈ spans, span.Fits fileSize alignment) ∧
        spans.Pairwise fun a b => Disjoint a.places b.places :=
  validateSpans_eq_ok_iff h.ne'

theorem two_spans_valid : validateSpans [(64, 96, "b"), (0, 40, "a")] 96 32 = .ok () := by
  refine (spans_valid_iff _ 96 (by decide)).2 ⟨?_, ?_⟩
  · simp only [List.forall_mem_cons, List.not_mem_nil, false_imp_iff, implies_true, and_true]
    exact ⟨⟨by decide, by decide, by decide, by decide, by decide⟩,
      ⟨by decide, by decide, by decide, by decide, by decide⟩⟩
  · rw [List.pairwise_pair, Span.places, Span.places, Set.Ico_disjoint_Ico]
    decide

end PrismInfer.Gguf
