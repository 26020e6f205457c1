import Mathlib.Data.List.TakeWhile
import PrismInfer.Lib.Delimited

/-!
# Splitting a Windows command line

The documented rules by which `CommandLineToArgvW` and the Microsoft C runtime split the
part of a command line behind the program name:

* arguments are separated by spaces and tabs outside quotes;
* `2n` backslashes and a quote are `n` backslashes, and the quote opens or closes;
* `2n + 1` backslashes and a quote are `n` backslashes and a quote;
* other backslashes stand for themselves;
* two quotes inside quotes are one quote. Behind them the runtime stays inside the quotes,
  and older readers leave them, which is the parameter `pairLeaves`.

The text ends at its first NUL.
-/

namespace PrismInfer.Lib.Argv

/-- A wide character. -/
abbrev WChar := BitVec 16

/-- The wide character of an ASCII one. -/
def wide (c : Char) : WChar := BitVec.ofNat 16 c.toNat

/-- The wide characters of a text in ASCII. -/
def wides (s : String) : List WChar := s.toList.map wide

def backslash : WChar := wide '\\'
def quote : WChar := wide '"'
def space : WChar := wide ' '

/-- A space or a tab. -/
def isSeparator (c : WChar) : Bool := c = space || c = wide '\t'

/-- So many backslashes. -/
def slashes (n : ℕ) : List WChar := List.replicate n backslash

/-- The rest of an argument and the text behind it, inside or outside quotes and behind so many
backslashes. -/
def scanArgument (pairLeaves : Bool) : Bool → ℕ → List WChar → List WChar × List WChar
  | _, n, [] => (slashes n, [])
  | quoted, n, c :: rest =>
    if c = backslash then scanArgument pairLeaves quoted (n + 1) rest
    else if c = quote then
      if n % 2 = 1 then
        let (argument, behind) := scanArgument pairLeaves quoted 0 rest
        (slashes (n / 2) ++ quote :: argument, behind)
      else
        match quoted, rest with
        | true, d :: rest' =>
          if d = quote then
            let (argument, behind) := scanArgument pairLeaves (!pairLeaves) 0 rest'
            (slashes (n / 2) ++ quote :: argument, behind)
          else
            let (argument, behind) := scanArgument pairLeaves false 0 (d :: rest')
            (slashes (n / 2) ++ argument, behind)
        | _, rest =>
          let (argument, behind) := scanArgument pairLeaves (!quoted) 0 rest
          (slashes (n / 2) ++ argument, behind)
    else if !quoted && isSeparator c then (slashes n, c :: rest)
    else
      let (argument, behind) := scanArgument pairLeaves quoted 0 rest
      (slashes n ++ c :: argument, behind)

/-- The arguments of a text, with fuel for their number. -/
def splitFrom (pairLeaves : Bool) : ℕ → List WChar → List (List WChar)
  | 0, _ => []
  | fuel + 1, t =>
    match t.dropWhile isSeparator with
    | [] => []
    | c :: rest =>
      let (argument, behind) := scanArgument pairLeaves false 0 (c :: rest)
      argument :: splitFrom pairLeaves fuel behind

/-- The arguments of a text that ends at its first NUL. -/
def splitArguments (pairLeaves : Bool) (t : List WChar) : List (List WChar) :=
  let t := t.takeWhile (· ≠ 0)
  splitFrom pairLeaves t.length t

/-! ## The rules -/

section Rules

variable {pairLeaves quoted : Bool} {n : ℕ} {t : List WChar}

/-- The text ends, or an argument outside quotes does. -/
def Ends (t : List WChar) : Prop := ∀ c ∈ t.head?, isSeparator c = true

theorem ne_quote_of_isSeparator {c : WChar} (h : isSeparator c = true) :
    c ≠ quote ∧ c ≠ backslash := by
  constructor <;> rintro rfl <;> exact absurd h (by decide)

alias scanArgument_eq := scanArgument.eq_def

theorem scanArgument_slash : scanArgument pairLeaves quoted n (backslash :: t) =
      scanArgument pairLeaves quoted (n + 1) t := by
  rw [scanArgument_eq]
  exact if_pos rfl

theorem scanArgument_slashes (k : ℕ) :
    scanArgument pairLeaves quoted n (slashes k ++ t) =
      scanArgument pairLeaves quoted (n + k) t := by
  induction k generalizing n with
  | zero => rfl
  | succ k ih =>
    rw [slashes, List.replicate_succ, List.cons_append, scanArgument_slash]
    refine ih.trans ?_
    rw [Nat.add_assoc, Nat.add_comm 1]

/-- An odd number of backslashes in front of a quote. -/
theorem scanArgument_escaped (h : n % 2 = 1) : scanArgument pairLeaves quoted n (quote :: t) =
      (slashes (n / 2) ++ quote :: (scanArgument pairLeaves quoted 0 t).1,
        (scanArgument pairLeaves quoted 0 t).2) := by
  rw [scanArgument_eq]
  exact (if_neg (by decide)).trans ((if_pos rfl).trans (if_pos h))

/-- An opening quote. -/
theorem scanArgument_opening :
    scanArgument pairLeaves false 0 (quote :: t) = scanArgument pairLeaves true 0 t := by
  rw [scanArgument_eq]
  exact (if_neg (by decide)).trans ((if_pos rfl).trans (if_neg (by decide)))

/-- A closing quote, behind an even number of backslashes. -/
theorem scanArgument_closing (h : n % 2 = 0) (ht : Ends t) :
    scanArgument pairLeaves true n (quote :: t) =
      (slashes (n / 2) ++ (scanArgument pairLeaves false 0 t).1,
        (scanArgument pairLeaves false 0 t).2) := by
  have heven : ¬ n % 2 = 1 := by omega
  rw [scanArgument_eq]
  refine (if_neg (by decide)).trans ((if_pos rfl).trans ((if_neg heven).trans ?_))
  cases t with
  | nil => rfl
  | cons d t => exact if_neg (ne_quote_of_isSeparator (ht d rfl)).1

/-- Any other character, which is no separator outside quotes. -/
theorem scanArgument_plain {c : WChar} (hslash : c ≠ backslash) (hquote : c ≠ quote)
    (hseparator : quoted = true ∨ isSeparator c = false) :
    scanArgument pairLeaves quoted n (c :: t) =
      (slashes n ++ c :: (scanArgument pairLeaves quoted 0 t).1,
        (scanArgument pairLeaves quoted 0 t).2) := by
  have hinside : ¬ (!quoted && isSeparator c) = true := by
    rcases hseparator with rfl | h
    · simp
    · simp [h]
  rw [scanArgument_eq]
  exact (if_neg hslash).trans ((if_neg hquote).trans (if_neg hinside))

/-- The end of an argument outside quotes. -/
theorem scanArgument_end (ht : Ends t) : scanArgument pairLeaves false n t = (slashes n, t) := by
  cases t with
  | nil => rfl
  | cons c t =>
    have hc := ht c rfl
    obtain ⟨hquote, hslash⟩ := ne_quote_of_isSeparator hc
    rw [scanArgument_eq]
    exact (if_neg hslash).trans ((if_neg hquote).trans (if_pos (by simpa using hc)))

end Rules

/-! ## Written arguments -/

/-- A text that is scanned as the argument, wherever the argument ends. -/
structure Written (pairLeaves : Bool) (argument t : List WChar) : Prop where
  starts : ∃ c rest, t = c :: rest ∧ isSeparator c = false
  no_nul : 0 ∉ t
  scanned : ∀ behind, Ends behind →
    scanArgument pairLeaves false 0 (t ++ behind) = (argument, behind)

theorem ends_joined (texts : List (List WChar)) : Ends (joined space texts) := by
  cases texts with
  | nil => nofun
  | cons t texts =>
    intro c hc
    obtain rfl := Option.some.inj hc
    decide

variable {write : List WChar → List WChar}

theorem splitFrom_joined {pairLeaves : Bool} {arguments : List (List WChar)}
    (h : ∀ argument ∈ arguments, Written pairLeaves argument (write argument)) {fuel : ℕ}
    (hfuel : arguments.length ≤ fuel) :
    splitFrom pairLeaves fuel (joined space (arguments.map write)) = arguments := by
  induction arguments generalizing fuel with
  | nil => cases fuel <;> rfl
  | cons argument arguments ih =>
    rw [List.forall_mem_cons] at h
    obtain ⟨hfirst, hrest⟩ := h
    obtain ⟨c, rest, hstart, hc⟩ := hfirst.starts
    cases fuel with
    | zero => cases hfuel
    | succ fuel =>
      have hscan := hfirst.scanned _ (ends_joined (arguments.map write))
      rw [hstart, List.cons_append] at hscan
      have hskip : (joined space ((argument :: arguments).map write)).dropWhile isSeparator =
          c :: (rest ++ joined space (arguments.map write)) := by
        rw [List.map_cons, joined_cons, List.dropWhile_cons_of_pos (by decide), hstart,
          List.cons_append, List.dropWhile_cons_of_neg (by simpa using hc)]
      rw [splitFrom, hskip]
      simp only [hscan, ih hrest (Nat.le_of_succ_le_succ hfuel)]

theorem length_le_joined (arguments : List (List WChar)) :
    arguments.length ≤ (joined space (arguments.map write)).length := by
  induction arguments with
  | nil => exact Nat.zero_le _
  | cons argument arguments ih =>
    rw [List.map_cons, joined_cons, List.length_cons, List.length_cons, List.length_append]
    omega

/-- Arguments that are written one by one are split into these arguments. -/
theorem splitArguments_joined {pairLeaves : Bool} {arguments : List (List WChar)}
    (h : ∀ argument ∈ arguments, Written pairLeaves argument (write argument)) :
    splitArguments pairLeaves (joined space (arguments.map write)) = arguments := by
  have hnul : ∀ c ∈ joined space (arguments.map write), decide (c ≠ 0) = true := by
    intro c hc
    simp only [joined, List.mem_flatMap, List.mem_map, List.mem_cons] at hc
    obtain ⟨_, ⟨argument, hargument, rfl⟩, rfl | hc⟩ := hc
    · decide
    · exact decide_eq_true fun hzero => (h argument hargument).no_nul (hzero ▸ hc)
  rw [splitArguments, List.takeWhile_eq_self_iff.2 hnul]
  exact splitFrom_joined h (length_le_joined arguments)

end PrismInfer.Lib.Argv
