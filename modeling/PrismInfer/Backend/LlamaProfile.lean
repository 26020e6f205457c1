import PrismInfer.Kv.CacheProfile
import PrismInfer.Lib.TextSearch
import PrismInfer.Lib.TextStream

/-!
# The KV profile in the output of llama (llama_backend.cpp)

`extract_llama_kv_profile` reads the captured output line by line. From every line with an
equals sign it converts the first number behind the last one, and only then looks for the key
that the line may contain; an exception of the conversion ends the whole extraction. The
number is converted with `std::stoul` and narrowed to 32 bits.

`foldlM_readLine_eq_some`: no line prints a number that `std::stoul` refuses, and each count
is the number on the last line of its kind, modulo `2 ^ 32`.
-/

namespace PrismInfer.Backend

open Lib Kv

/-! ## A line -/

/-- The text behind the last equals sign of a line. -/
def behindLastEquals (line : List Char) : Option (List Char) :=
  if '=' ∈ line then some (line.reverse.takeWhile (· ≠ '=')).reverse else none

/-- The digits that the loop converts: the first ones behind the last equals sign. -/
def printedDigits (line : List Char) : Option (List Char) :=
  match behindLastEquals line with
  | none => none
  | some valueText =>
    match valueText.dropWhile (!Char.isDigit ·) with
    | [] => none
    | fromDigit => some (fromDigit.takeWhile Char.isDigit)

/-- `std::stoul` on decimal digits: throws above the largest `unsigned long`, which has 32 bits
on some platforms and 64 on others. -/
def stoul (ulongMax : ℕ) (digits : List Char) : Option ℕ :=
  if digitsValue digits ≤ ulongMax then some (digitsValue digits) else none

/-- The three counts. -/
inductive Count
  | layers
  | kvHeads
  | headDim
  deriving DecidableEq

/-- The keys of a count. -/
def Count.keys : Count → List (List Char)
  | .layers => ["llama.block_count".toList, "n_layer               =".toList]
  | .kvHeads => ["llama.attention.head_count_kv".toList, "n_head_kv".toList]
  | .headDim => ["llama.rope.dimension_count".toList, "n_embd_head_k".toList]

/-- The line contains a key of the count. -/
def Count.foundIn (count : Count) (line : List Char) : Bool :=
  count.keys.any fun key => decide (key <:+: line)

/-- The count a line is for: the first whose key is found. -/
def countOf (line : List Char) : Option Count :=
  [Count.layers, .kvHeads, .headDim].find? (·.foundIn line)

/-! ## The extraction -/

/-- The local variables of the loop. -/
abbrev Counts := Count → UInt32

/-- One turn of the loop; `none` is an exception. -/
def readLine (ulongMax : ℕ) (counts : Counts) (line : List Char) : Option Counts :=
  match printedDigits line with
  | none => some counts
  | some digits =>
    match stoul ulongMax digits with
    | none => none
    | some value =>
      match countOf line with
      | none => some counts
      | some count => some (Function.update counts count (UInt32.ofNat value))

/-- `extract_llama_kv_profile` (llama_backend.cpp:171–223), with a place for the profile. -/
def extractLlamaKvProfile (ulongMax : ℕ) (capturedOutput : List Char) (kvBlockTokens : UInt32) :
    Option KvCacheProfile :=
  match (lines '\n' capturedOutput).foldlM (readLine ulongMax) (fun _ => 0) with
  | none => none
  | some counts =>
    (makeKvCacheProfile (counts .layers) (counts .kvHeads) (counts .headDim) kvBlockTokens
      16 16).toOption

/-! ## The loop -/

/-- The number a line prints behind its last equals sign. -/
def printedNumber (line : List Char) : Option ℕ :=
  (printedDigits line).map digitsValue

/-- The number on the last line that prints one for the count. -/
def lastNumber (count : Count) (start : ℕ) (output : List (List Char)) : ℕ :=
  output.foldl (fun number line =>
    if countOf line = some count then (printedNumber line).getD number else number) start

/-- The number of the line, if it prints one, can be converted. -/
def Convertible (ulongMax : ℕ) (line : List Char) : Prop :=
  ∀ number ∈ printedNumber line, number ≤ ulongMax

theorem readLine_eq_some {ulongMax : ℕ} {counts counts' : Counts} {line : List Char} :
    readLine ulongMax counts line = some counts' ↔
      Convertible ulongMax line ∧
      ∀ count, counts' count =
        if countOf line = some count then
          ((printedNumber line).map UInt32.ofNat).getD (counts count)
        else counts count := by
  unfold readLine Convertible printedNumber
  cases hdigits : printedDigits line with
  | none =>
    simp only [Option.map_none, Option.getD_none, ite_self, Option.some.injEq, Option.mem_def,
      reduceCtorEq, false_imp_iff, implies_true, true_and]
    exact ⟨fun h count => congrFun h.symm count, fun h => (funext h).symm⟩
  | some digits =>
    dsimp only [stoul]
    by_cases hfits : digitsValue digits ≤ ulongMax
    swap
    · simp [hfits]
    rw [if_pos hfits]
    cases hcount : countOf line with
    | none =>
      simp only [Option.map_some, Option.mem_def, Option.some.injEq, forall_eq', hfits, true_and,
        reduceCtorEq, if_false]
      exact ⟨fun h count => congrFun h.symm count, fun h => (funext h).symm⟩
    | some found =>
      simp only [Option.map_some, Option.mem_def, Option.some.injEq, forall_eq', hfits, true_and,
        Option.getD_some]
      constructor
      · rintro rfl count
        by_cases h : found = count
        · subst h
          simp
        · rw [if_neg h, Function.update_of_ne (Ne.symm h)]
      · intro h
        funext count
        rw [h count]
        by_cases hc : found = count
        · subst hc
          simp
        · rw [if_neg hc, Function.update_of_ne (Ne.symm hc)]

/-- The loop ends without an exception when every number can be converted, with the last
numbers of the three kinds, narrowed. -/
theorem foldlM_readLine_eq_some {ulongMax : ℕ} {counts : Counts} {numbers : Count → ℕ}
    {output : List (List Char)} :
    output.foldlM (readLine ulongMax) (fun count => UInt32.ofNat (numbers count)) = some counts ↔
      (∀ line ∈ output, Convertible ulongMax line) ∧
      ∀ count, counts count = UInt32.ofNat (lastNumber count (numbers count) output) := by
  induction output generalizing numbers with
  | nil =>
    simp only [List.foldlM_nil, Option.pure_def, Option.some.injEq, List.not_mem_nil,
      false_imp_iff, implies_true, true_and, lastNumber, List.foldl_nil]
    exact ⟨fun h count => congrFun h.symm count, fun h => (funext h).symm⟩
  | cons line output ih =>
    -- One turn leads to the narrowed numbers after the line, from which the rest goes on.
    have hturn (next : Counts) :
        readLine ulongMax (fun count => UInt32.ofNat (numbers count)) line = some next ↔
          Convertible ulongMax line ∧ next = fun count =>
            UInt32.ofNat (lastNumber count (numbers count) [line]) := by
      rw [readLine_eq_some, funext_iff]
      refine and_congr_right fun _ => forall_congr' fun count => ?_
      simp only [lastNumber, List.foldl_cons, List.foldl_nil]
      cases printedNumber line <;> by_cases h : countOf line = some count <;> simp [h]
    rw [List.foldlM_cons, Option.bind_eq_bind, Option.bind_eq_some_iff]
    simp only [hturn, List.forall_mem_cons]
    constructor
    · rintro ⟨next, ⟨hline, rfl⟩, hrest⟩
      obtain ⟨hconvertible, hcounts⟩ := ih.1 hrest
      exact ⟨⟨hline, hconvertible⟩, hcounts⟩
    · rintro ⟨⟨hline, hconvertible⟩, hcounts⟩
      exact ⟨_, ⟨hline, rfl⟩, ih.2 ⟨hconvertible, hcounts⟩⟩

/-! ## What is extracted -/

section Extraction

variable {ulongMax : ℕ} {kvBlockTokens : UInt32} {output output' : List Char}
  {before after : List (List Char)} {line : List Char}

/-- The number on the last line of its kind in an output. -/
def printedCount (count : Count) (output : List Char) : ℕ :=
  lastNumber count 0 (lines '\n' output)

/-- The counts of an output, narrowed to 32 bits, make a profile: none is zero, and neither the
bits of a token nor the bytes of a block overflow. -/
def CountsMakeProfile (output : List Char) (kvBlockTokens : UInt32) : Prop :=
  ArgumentsWellFormed (UInt32.ofNat (printedCount .layers output))
    (UInt32.ofNat (printedCount .kvHeads output)) (UInt32.ofNat (printedCount .headDim output))
    kvBlockTokens 16 16 ∧
  SizesFit (UInt32.ofNat (printedCount .layers output))
    (UInt32.ofNat (printedCount .kvHeads output)) (UInt32.ofNat (printedCount .headDim output))
    kvBlockTokens 32

/-- A profile can be extracted: all numbers can be converted, and the counts make one. -/
def Extractable (ulongMax : ℕ) (output : List Char) (kvBlockTokens : UInt32) : Prop :=
  (∀ line ∈ lines '\n' output, Convertible ulongMax line) ∧
  CountsMakeProfile output kvBlockTokens

theorem extract_eq_some {profile : KvCacheProfile} :
    extractLlamaKvProfile ulongMax output kvBlockTokens = some profile ↔
      (∀ line ∈ lines '\n' output, Convertible ulongMax line) ∧
      makeKvCacheProfile (UInt32.ofNat (printedCount .layers output))
        (UInt32.ofNat (printedCount .kvHeads output))
        (UInt32.ofNat (printedCount .headDim output)) kvBlockTokens 16 16 = .ok profile := by
  have hloop (counts : Counts) :
      (lines '\n' output).foldlM (readLine ulongMax) (fun _ => 0) = some counts ↔
        (∀ line ∈ lines '\n' output, Convertible ulongMax line) ∧
        ∀ count, counts count = UInt32.ofNat (printedCount count output) :=
    @foldlM_readLine_eq_some ulongMax counts (fun _ => 0) _
  unfold extractLlamaKvProfile
  cases hcounts : (lines '\n' output).foldlM (readLine ulongMax) (fun _ => 0) with
  | none =>
    refine ⟨nofun, ?_⟩
    rintro ⟨hconvertible, -⟩
    rw [(hloop _).2 ⟨hconvertible, fun _ => rfl⟩] at hcounts
    cases hcounts
  | some counts =>
    obtain ⟨hconvertible, hvalues⟩ := (hloop counts).1 hcounts
    dsimp only
    rw [hvalues, hvalues, hvalues]
    cases makeKvCacheProfile (UInt32.ofNat (printedCount .layers output))
        (UInt32.ofNat (printedCount .kvHeads output))
        (UInt32.ofNat (printedCount .headDim output)) kvBlockTokens 16 16 with
    | error reason => simp [Except.toOption]
    | ok made => simpa [Except.toOption] using fun _ => hconvertible

theorem exists_extracted_iff :
    (∃ profile, extractLlamaKvProfile ulongMax output kvBlockTokens = some profile) ↔
      Extractable ulongMax output kvBlockTokens := by
  simp only [extract_eq_some, exists_and_left, exists_profile_iff]
  rfl

/-- The line contains none of the keys. -/
def Irrelevant (line : List Char) : Prop :=
  ∀ count : Count, ∀ key ∈ count.keys, ¬ key <:+: line

theorem countOf_irrelevant (h : Irrelevant line) : countOf line = none := by
  have hnot (count : Count) : count.foundIn line = false := by
    rw [Count.foundIn, List.any_eq_false]
    intro key hkey
    simpa using h count key hkey
  simp [countOf, hnot]

/-- A line for no count does not change a last number. -/
theorem lastNumber_irrelevant (h : Irrelevant line) (count : Count) (start : ℕ) :
    lastNumber count start (before ++ line :: after) =
      lastNumber count start (before ++ after) := by
  simp [lastNumber, countOf_irrelevant h]

/-- The counts that are extracted are those printed on the last lines of their kinds. -/
def CountsPrinted (ulongMax : ℕ) (output : List Char) (kvBlockTokens : UInt32) : Prop :=
  ∀ profile, extractLlamaKvProfile ulongMax output kvBlockTokens = some profile →
    profile.layerCount.toNat = printedCount .layers output ∧
    profile.kvHeadCount.toNat = printedCount .kvHeads output ∧
    profile.headDim.toNat = printedCount .headDim output

/-- With and without an irrelevant line, what is extracted is the same, unless the line alone
prints a number that cannot be converted. -/
theorem extract_irrelevant_iff (hirrelevant : Irrelevant line)
    (hwith : lines '\n' output' = before ++ line :: after)
    (hwithout : lines '\n' output = before ++ after) :
    extractLlamaKvProfile ulongMax output' kvBlockTokens =
        extractLlamaKvProfile ulongMax output kvBlockTokens ↔
      ¬ (¬ Convertible ulongMax line ∧ Extractable ulongMax output kvBlockTokens) := by
  have hcount (count : Count) : printedCount count output' = printedCount count output := by
    rw [printedCount, printedCount, hwith, hwithout, lastNumber_irrelevant hirrelevant]
  have hlines : (∀ other ∈ lines '\n' output', Convertible ulongMax other) ↔
      Convertible ulongMax line ∧ ∀ other ∈ lines '\n' output, Convertible ulongMax other := by
    rw [hwith, hwithout]
    simp only [List.forall_mem_append, List.forall_mem_cons]
    exact and_left_comm
  by_cases hline : Convertible ulongMax line
  · refine ⟨fun _ h => h.1 hline, fun _ => ?_⟩
    apply Option.ext
    intro profile
    rw [extract_eq_some, extract_eq_some, hlines, hcount, hcount, hcount, and_iff_right hline]
  · have hnone : extractLlamaKvProfile ulongMax output' kvBlockTokens = none := by
      rw [Option.eq_none_iff_forall_ne_some]
      intro profile hprofile
      exact hline (hlines.1 (extract_eq_some.1 hprofile).1).1
    rw [hnone, and_iff_right hline, ← exists_extracted_iff, eq_comm,
      Option.eq_none_iff_forall_ne_some, not_exists]

/-- The counts are those printed, unless one that is extracted was narrowed. -/
theorem countsPrinted_iff : CountsPrinted ulongMax output kvBlockTokens ↔
      ¬ (Extractable ulongMax output kvBlockTokens ∧
        ∃ count, 2 ^ 32 ≤ printedCount count output) := by
  have hnarrow (n : ℕ) : (UInt32.ofNat n).toNat = n ↔ n < 2 ^ 32 := by
    rw [UInt32.toNat_ofNat']
    exact Nat.mod_eq_iff_lt (by decide)
  have hcounts {profile : KvCacheProfile}
      (h : extractLlamaKvProfile ulongMax output kvBlockTokens = some profile) :
      (profile.layerCount.toNat = printedCount .layers output ∧
        profile.kvHeadCount.toNat = printedCount .kvHeads output ∧
        profile.headDim.toNat = printedCount .headDim output) ↔
      ∀ count, printedCount count output < 2 ^ 32 := by
    obtain ⟨-, -, -, -, hlayers, hheads, hdim, -⟩ :=
      makeKvCacheProfile_eq_ok.1 (extract_eq_some.1 h).2
    rw [hlayers, hheads, hdim, hnarrow, hnarrow, hnarrow]
    constructor
    · rintro ⟨hlayers, hheads, hdim⟩ count
      cases count with
      | layers => exact hlayers
      | kvHeads => exact hheads
      | headDim => exact hdim
    · intro h
      exact ⟨h _, h _, h _⟩
  rw [← exists_extracted_iff]
  constructor
  · rintro hprinted ⟨⟨profile, hprofile⟩, count, hlarge⟩
    have := (hcounts hprofile).1 (hprinted profile hprofile) count
    omega
  · intro hsmall profile hprofile
    refine (hcounts hprofile).2 fun count => ?_
    by_contra hlarge
    exact hsmall ⟨⟨profile, hprofile⟩, count, not_lt.1 hlarge⟩

/-- **The KV profile in llama's output.** Inserting or deleting a line without a key changes
nothing, unless its number cannot be converted and a profile is extracted without it. The
counts are the numbers on the last lines of their kinds, unless a profile is extracted from a
number of `2 ^ 32` or more. -/
theorem llama_profile_lines_iff (hirrelevant : Irrelevant line)
    (hwith : lines '\n' output' = before ++ line :: after)
    (hwithout : lines '\n' output = before ++ after) :
    (extractLlamaKvProfile ulongMax output' kvBlockTokens =
        extractLlamaKvProfile ulongMax output kvBlockTokens ↔
      ¬ (¬ Convertible ulongMax line ∧ Extractable ulongMax output kvBlockTokens)) ∧
    (CountsPrinted ulongMax output kvBlockTokens ↔
      ¬ (Extractable ulongMax output kvBlockTokens ∧
        ∃ count, 2 ^ 32 ≤ printedCount count output)) :=
  ⟨extract_irrelevant_iff hirrelevant hwith hwithout, countsPrinted_iff⟩

end Extraction

namespace Fixture

/-- The lines for the three counts, with the given number of layers. -/
def counts (layers : String) : List String :=
  ["n_layer               = " ++ layers, "n_head_kv = 2", "llama.rope.dimension_count = 4"]

/-- An output of the given lines. -/
def output (printed : List String) : List Char :=
  ("\n".intercalate printed).toList

end Fixture

open Fixture

theorem llama_profile_lines_of_two_layers :
    extractLlamaKvProfile (2 ^ 64 - 1) (output ("seed = 7" :: counts "2")) 16 =
        extractLlamaKvProfile (2 ^ 64 - 1) (output (counts "2")) 16 ∧
      CountsPrinted (2 ^ 64 - 1) (output (counts "2")) 16 := by
  have hline : Convertible (2 ^ 64 - 1) "seed = 7".toList := by
    unfold Convertible
    decide
  have hsmall (count : Count) : printedCount count (output (counts "2")) < 2 ^ 32 := by
    cases count <;> decide
  obtain ⟨hsame, hcounts⟩ := @llama_profile_lines_iff (2 ^ 64 - 1) 16 (output (counts "2"))
    (output ("seed = 7" :: counts "2")) [] ((counts "2").map String.toList) "seed = 7".toList
    (by intro count; cases count <;> decide) (by decide) (by decide)
  exact ⟨hsame.2 fun h => h.1 hline, hcounts.2 fun ⟨_, count, h⟩ => (hsmall count).not_ge h⟩

/-- A number that no `unsigned long` holds, on a line for none of the counts, ends the
extraction; and `2 ^ 32 + 1` layers are taken for one. -/
theorem foreign_number_ends_extraction :
    Irrelevant "seed = 18446744073709551616".toList ∧
    (extractLlamaKvProfile (2 ^ 64 - 1) (output (counts "2")) 16).isSome = true ∧
    extractLlamaKvProfile (2 ^ 64 - 1)
      (output ("seed = 18446744073709551616" :: counts "2")) 16 = none ∧
    (extractLlamaKvProfile (2 ^ 64 - 1) (output (counts "4294967297")) 16).map
      (·.layerCount) = some 1 := by
  refine ⟨?_, by decide, by decide, by decide⟩
  intro count
  cases count <;> decide

end PrismInfer.Backend
