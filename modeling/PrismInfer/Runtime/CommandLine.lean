import PrismInfer.Lib.Argv

/-!
# The command line of a worker

`quote_windows_argument` and `build_command_line` (native_worker.cpp:50–79, 638–646), and
that the reader of a command line gets the arguments back as they were: `quoteWindowsArgument`
writes every argument so that it is scanned as that argument and ends where it was ended.
-/

namespace PrismInfer.Runtime

open PrismInfer.Lib PrismInfer.Lib.Argv

/-- The characters that make the quotes necessary. -/
def needsQuotes (c : WChar) : Bool :=
  c ∈ [wide ' ', wide '\t', wide '\n', wide '\x0b', wide '"']

/-- The loop of `quote_windows_argument`, with `slash_count`, and what it appends at the end. -/
def quoteLoop : ℕ → List WChar → List WChar
  | slashCount, [] => slashes (slashCount * 2) ++ [quote]
  | slashCount, character :: rest =>
    if character = backslash then quoteLoop (slashCount + 1) rest
    else if character = quote then slashes (slashCount * 2 + 1) ++ quote :: quoteLoop 0 rest
    else slashes slashCount ++ character :: quoteLoop 0 rest

/-- `quote_windows_argument` (native_worker.cpp:50–79). -/
def quoteWindowsArgument (argument : List WChar) : List WChar :=
  if argument.isEmpty then [quote, quote]
  else if argument.any needsQuotes then quote :: quoteLoop 0 argument
  else argument

/-- `build_command_line` (native_worker.cpp:638–646). -/
def buildCommandLine (executable : List WChar) (arguments : List (List WChar)) : List WChar :=
  arguments.foldl (fun command argument => command ++ [space] ++ quoteWindowsArgument argument)
    (quoteWindowsArgument executable)

/-- The command line is the program name and behind it the arguments, each behind a space. -/
theorem buildCommandLine_eq (executable : List WChar) (arguments : List (List WChar)) :
    buildCommandLine executable arguments =
      quoteWindowsArgument executable ++ joined space (arguments.map quoteWindowsArgument) := by
  rw [buildCommandLine]
  generalize quoteWindowsArgument executable = command
  induction arguments generalizing command with
  | nil => rw [List.foldl_nil, List.map_nil, joined_nil, List.append_nil]
  | cons argument arguments ih =>
    rw [List.foldl_cons, ih, List.map_cons, joined_cons]
    simp

section Quoting

variable {pairLeaves : Bool}

theorem plain_of_needsQuotes {c : WChar} (h : needsQuotes c = false) :
    c ≠ quote ∧ isSeparator c = false := by
  simp only [needsQuotes, decide_eq_false_iff_not, List.mem_cons, not_or] at h
  exact ⟨h.2.2.2.2.1, by simp [isSeparator, space, h.1, h.2.1]⟩

variable {slashCount : ℕ}

/-- Inside the quotes, the quoter's pending backslashes and its input are what is read. -/
theorem scanArgument_quoteLoop {argument behind : List WChar} (hbehind : Ends behind) :
    scanArgument pairLeaves true 0 (quoteLoop slashCount argument ++ behind) =
      (slashes slashCount ++ argument, behind) := by
  induction argument generalizing slashCount with
  | nil =>
    rw [quoteLoop, List.append_assoc, scanArgument_slashes, List.singleton_append,
      scanArgument_closing (by omega) hbehind, scanArgument_end hbehind, Nat.zero_add,
      Nat.mul_div_cancel _ (by decide)]
    rfl
  | cons c argument ih =>
    rw [quoteLoop]
    split
    · rename_i hslash
      -- a backslash waits for what comes behind it
      rw [ih, hslash]
      simp [slashes, List.replicate_succ']
    · split
      · rename_i hquote
        have hodd : (0 + (slashCount * 2 + 1)) % 2 = 1 := by omega
        have hhalf : (0 + (slashCount * 2 + 1)) / 2 = slashCount := by omega
        rw [List.append_assoc, scanArgument_slashes, List.cons_append, scanArgument_escaped hodd,
          ih, hhalf, hquote]
        rfl
      · rename_i hslash hquote
        rw [List.append_assoc, scanArgument_slashes, List.cons_append,
          scanArgument_plain hslash hquote (.inl rfl), ih, Nat.zero_add]
        rfl

/-- An argument without separators and quotes is read as it is. -/
theorem scanArgument_bare {n : ℕ} {argument behind : List WChar}
    (hbare : ∀ c ∈ argument, needsQuotes c = false) (hbehind : Ends behind) :
    scanArgument pairLeaves false n (argument ++ behind) = (slashes n ++ argument, behind) := by
  induction argument generalizing n with
  | nil => rw [List.nil_append, scanArgument_end hbehind, List.append_nil]
  | cons c argument ih =>
    rw [List.forall_mem_cons] at hbare
    obtain ⟨hc, hrest⟩ := hbare
    by_cases hslash : c = backslash
    · rw [List.cons_append, hslash, scanArgument_slash, ih hrest]
      simp [slashes, List.replicate_succ']
    · obtain ⟨hquote, hseparator⟩ := plain_of_needsQuotes hc
      rw [List.cons_append, scanArgument_plain hslash hquote (.inr hseparator), ih hrest]
      rfl

theorem mem_quoteLoop {argument : List WChar} {c : WChar} (h : c ∈ quoteLoop slashCount argument) :
    c = backslash ∨ c = quote ∨ c ∈ argument := by
  induction argument generalizing slashCount with
  | nil =>
    rcases List.mem_append.1 h with h | h
    · exact .inl (List.eq_of_mem_replicate h)
    · exact .inr (.inl (List.mem_singleton.1 h))
  | cons d argument ih =>
    have hrest {k : ℕ} (h : c ∈ quoteLoop k argument) :
        c = backslash ∨ c = quote ∨ c ∈ d :: argument :=
      (ih h).imp_right (.imp_right (List.mem_cons_of_mem d))
    rw [quoteLoop] at h
    split at h
    · exact hrest h
    · split at h
      · rcases List.mem_append.1 h with h | h
        · exact .inl (List.eq_of_mem_replicate h)
        · rcases List.mem_cons.1 h with rfl | h
          · exact .inr (.inl rfl)
          · exact hrest h
      · rcases List.mem_append.1 h with h | h
        · exact .inl (List.eq_of_mem_replicate h)
        · rcases List.mem_cons.1 h with rfl | h
          · exact .inr (.inr List.mem_cons_self)
          · exact hrest h

/-- Every argument is written so that it is read back. -/
theorem written_quoteWindowsArgument {argument : List WChar} (hnul : 0 ∉ argument) :
    Written pairLeaves argument (quoteWindowsArgument argument) := by
  rw [quoteWindowsArgument]
  split
  · rename_i hempty
    obtain rfl := List.isEmpty_iff.1 hempty
    refine ⟨⟨quote, [quote], rfl, by decide⟩, by decide, fun behind hbehind => ?_⟩
    have hloop : scanArgument pairLeaves true 0 (quoteLoop 0 [] ++ behind) = ([], behind) :=
      scanArgument_quoteLoop hbehind
    exact scanArgument_opening.trans hloop
  · split
    · refine ⟨⟨quote, _, rfl, by decide⟩, ?_, fun behind hbehind => ?_⟩
      · rw [List.mem_cons, not_or]
        refine ⟨by decide, fun hmem => ?_⟩
        rcases mem_quoteLoop hmem with h | h | h
        · exact absurd h (by decide)
        · exact absurd h (by decide)
        · exact hnul h
      · rw [List.cons_append, scanArgument_opening, scanArgument_quoteLoop hbehind]
        rfl
    · rename_i hempty hbare
      have hall : ∀ c ∈ argument, needsQuotes c = false := by simpa using hbare
      refine ⟨?_, hnul, fun behind hbehind => scanArgument_bare hall hbehind⟩
      cases argument with
      | nil => exact absurd rfl hempty
      | cons c argument =>
        exact ⟨c, argument, rfl, (plain_of_needsQuotes (hall c List.mem_cons_self)).2⟩

end Quoting

/-! ## The whole command line -/

/-- The argument part of the command line, which is what stands behind the program name, is
split into the arguments, whether two quotes inside quotes leave them or not. -/
theorem worker_arguments_preserved (executable : List WChar) (arguments : List (List WChar))
    (hnul : ∀ argument ∈ arguments, 0 ∉ argument) (pairLeaves : Bool) :
    splitArguments pairLeaves ((buildCommandLine executable arguments).drop
      (quoteWindowsArgument executable).length) = arguments := by
  rw [buildCommandLine_eq, List.drop_left]
  exact splitArguments_joined fun argument hargument =>
    written_quoteWindowsArgument (hnul argument hargument)

/-- Arguments of which one is empty, one ends in a backslash behind a space, and one has
backslashes in front of a quote. -/
theorem worker_arguments_preserved_example :
    splitArguments false ((buildCommandLine (wides "w.exe")
      [wides "", wides "a b\\", wides "c\\\"d"]).drop
        (quoteWindowsArgument (wides "w.exe")).length) =
      [wides "", wides "a b\\", wides "c\\\"d"] :=
  worker_arguments_preserved _ _ (by decide) false

end PrismInfer.Runtime
