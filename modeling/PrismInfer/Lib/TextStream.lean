import Mathlib.Tactic

/-!
# Formatted extraction from a text stream

The `>>` operators of a C++ `istringstream` in the "C" locale, on the characters that
are left: white space is skipped, a word ends at white space, and an integer is an
optional sign and the digits after it, whatever follows them. A failed extraction
leaves the stream failed, and a failed stream extracts nothing. For an unsigned type a
minus sign negates modulo the width; a magnitude that does not fit fails.

`tokens` are the maximal runs without white space: a word is a token (`word_of_tokens`),
and an integer is one when it is a plain numeral (`numeral_of_tokens`).
-/

namespace PrismInfer.Lib

/-- `isspace` in the "C" locale. -/
def isSpace (c : Char) : Bool :=
  c == ' ' || ('\t' ≤ c && c ≤ '\r')

/-! ## Tokens -/

/-- The tokens of a text, with the token that is being read. -/
def tokensFrom (current : List Char) : List Char → List (List Char)
  | [] => if current = [] then [] else [current]
  | c :: rest =>
    if isSpace c then
      if current = [] then tokensFrom [] rest else current :: tokensFrom [] rest
    else tokensFrom (current ++ [c]) rest

/-- The maximal runs without white space. -/
def tokens (text : List Char) : List (List Char) :=
  tokensFrom [] text

/-- No character of the text is white space. -/
def Solid (text : List Char) : Prop :=
  ∀ c ∈ text, isSpace c = false

instance (text : List Char) : Decidable (Solid text) :=
  List.decidableBAll (fun c => isSpace c = false) text

/-- The text is over, or goes on with white space. -/
def Boundary (text : List Char) : Prop :=
  ∀ c ∈ text.head?, isSpace c = true

theorem boundary_nil : Boundary [] := by
  intro c hc
  cases hc

variable {c : Char} {token : List Char} {rest words : List (List Char)}

theorem boundary_cons (h : isSpace c = true) (rest : List Char) : Boundary (c :: rest) := by
  intro d hd
  cases hd
  exact h

theorem tokensFrom_append {word : List Char} (hword : Solid word) (current rest : List Char) :
    tokensFrom current (word ++ rest) = tokensFrom (current ++ word) rest := by
  induction word generalizing current with
  | nil => rw [List.append_nil, List.nil_append]
  | cons c word ih =>
    have hc := hword c List.mem_cons_self
    rw [List.cons_append, tokensFrom, if_neg (by simp [hc]),
      ih (fun d hd => hword d (List.mem_cons_of_mem _ hd)), List.append_assoc]
    rfl

@[simp] theorem tokens_nil : tokens [] = [] := rfl

theorem tokens_cons_space (hc : isSpace c = true) (rest : List Char) :
    tokens (c :: rest) = tokens rest := by
  rw [tokens, tokensFrom, if_pos hc, if_pos rfl]
  rfl

/-- A token that ends at a boundary. -/
theorem tokens_append {word rest : List Char} (hword : Solid word) (hne : word ≠ [])
    (hrest : Boundary rest) : tokens (word ++ rest) = word :: tokens rest := by
  rw [tokens, tokensFrom_append hword, List.nil_append]
  cases rest with
  | nil => rw [tokensFrom, if_neg hne, tokens_nil]
  | cons c rest =>
    have hc := hrest c rfl
    rw [tokensFrom, if_pos hc, if_neg hne, tokens_cons_space hc]
    rfl

theorem tokens_dropWhile (text : List Char) : tokens (text.dropWhile isSpace) = tokens text := by
  induction text with
  | nil => rfl
  | cons c text ih =>
    rw [List.dropWhile_cons]
    split
    · rename_i hc
      rw [ih, tokens_cons_space hc]
    · rfl

/-- A maximal run and what follows it. -/
theorem takeWhile_append_boundary {p : Char → Bool} {word rest : List Char}
    (hword : ∀ c ∈ word, p c = true) (hrest : ∀ c ∈ rest.head?, p c = false) :
    (word ++ rest).takeWhile p = word ∧ (word ++ rest).dropWhile p = rest := by
  have hstop : rest.takeWhile p = [] ∧ rest.dropWhile p = rest := by
    cases rest with
    | nil => exact ⟨rfl, rfl⟩
    | cons c rest =>
      have hc := hrest c rfl
      simp [hc]
  rw [List.takeWhile_append_of_pos hword, List.dropWhile_append_of_pos hword, hstop.1, hstop.2,
    List.append_nil]
  exact ⟨rfl, rfl⟩

/-- The first token of a text, and what is left after it. -/
theorem tokens_eq_cons {text : List Char} (h : tokens text = token :: rest) :
    ∃ after, text.dropWhile isSpace = token ++ after ∧ Solid token ∧ token ≠ [] ∧
      Boundary after ∧ tokens after = rest := by
  rw [← tokens_dropWhile] at h
  generalize htext : text.dropWhile isSpace = start at h
  cases start with
  | nil => cases h
  | cons c start =>
    have hc : isSpace c = false := by
      have hhead := List.head?_dropWhile_not isSpace text
      rw [htext] at hhead
      simpa using hhead
    have hsplit := List.takeWhile_append_dropWhile (p := fun d => !isSpace d) (l := c :: start)
    have hsolid : Solid ((c :: start).takeWhile fun d => !isSpace d) := by
      intro d hd
      have hall := List.all_eq_true.1 (List.all_takeWhile (p := fun d => !isSpace d)) d hd
      simpa using hall
    have hboundary : Boundary ((c :: start).dropWhile fun d => !isSpace d) := by
      intro d hd
      have hhead := List.head?_dropWhile_not (fun d => !isSpace d) (c :: start)
      rw [Option.mem_def.1 hd] at hhead
      simpa using hhead
    have hne : (c :: start).takeWhile (fun d => !isSpace d) ≠ [] := by
      rw [List.takeWhile_cons, hc]
      exact List.cons_ne_nil _ _
    rw [← hsplit, tokens_append hsolid hne hboundary] at h
    cases h
    exact ⟨_, hsplit.symm, hsolid, hne, hboundary, rfl⟩

theorem tokens_eq_nil {text : List Char} (h : tokens text = []) : text.dropWhile isSpace = [] := by
  rw [← tokens_dropWhile] at h
  generalize htext : text.dropWhile isSpace = start at h
  cases start with
  | nil => rfl
  | cons c start =>
    have hc : isSpace c = false := by
      have hhead := List.head?_dropWhile_not isSpace text
      rw [htext] at hhead
      simpa using hhead
    -- a text that starts with a letter has a token
    have hlong : ∀ current rest, current ≠ [] → tokensFrom current rest ≠ [] := by
      intro current rest
      induction rest generalizing current with
      | nil => simp [tokensFrom]
      | cons d rest ih =>
        intro hne
        rw [tokensFrom]
        split
        · exact List.cons_ne_nil _ _
        · exact ih _ (by simp)
    rw [tokens, tokensFrom, if_neg (by simp [hc])] at h
    exact absurd h (hlong _ _ (by simp))

/-! ## Words with blanks between them -/

/-- The words, one blank between each two. -/
def spaced : List (List Char) → List Char
  | [] => []
  | [word] => word
  | word :: words => word ++ ' ' :: spaced words

/-- Words as a printer writes them: not empty and without white space. -/
def Words (words : List (List Char)) : Prop :=
  ∀ word ∈ words, Solid word ∧ word ≠ []

theorem Words.tail {word : List Char} (h : Words (word :: words)) : Words words :=
  fun word hword => h word (List.mem_cons_of_mem _ hword)

/-- What was printed is read back. -/
theorem tokens_spaced (h : Words words) : tokens (spaced words) = words := by
  induction words with
  | nil => rfl
  | cons word words ih =>
    obtain ⟨hsolid, hne⟩ := h word List.mem_cons_self
    cases words with
    | nil =>
      have hlast := tokens_append hsolid hne boundary_nil
      rwa [List.append_nil] at hlast
    | cons next words =>
      show tokens (word ++ ' ' :: spaced (next :: words)) = _
      rw [tokens_append hsolid hne (boundary_cons (by decide) _), tokens_cons_space (by decide),
        ih h.tail]

/-- The only white space between the words is the blank. -/
theorem not_mem_spaced (h : Words words) (hc : isSpace c = true) (hblank : c ≠ ' ') :
    c ∉ spaced words := by
  have hout : ∀ word, Solid word → c ∉ word := by
    intro word hsolid hmem
    rw [hsolid c hmem] at hc
    cases hc
  induction words with
  | nil => exact List.not_mem_nil
  | cons word words ih =>
    have hword := hout word (h word List.mem_cons_self).1
    cases words with
    | nil => exact hword
    | cons next words =>
      show c ∉ word ++ ' ' :: spaced (next :: words)
      rw [List.mem_append, List.mem_cons, not_or, not_or]
      exact ⟨hword, hblank, ih h.tail⟩

/-! ## Streams -/

/-- The characters that are left, and whether every extraction has succeeded. -/
structure TextStream where
  rest : List Char
  good : Bool := true

namespace TextStream

/-- `>>` to a string. -/
def word (s : TextStream) : String × TextStream :=
  if !s.good then ("", s)
  else
  let text := s.rest.dropWhile isSpace
  let word := text.takeWhile fun c => !isSpace c
  (String.ofList word, ⟨text.dropWhile fun c => !isSpace c, !word.isEmpty⟩)

end TextStream

/-- A numeral without its sign. -/
def stripSign : List Char → List Char
  | '+' :: rest => rest
  | '-' :: rest => rest
  | rest => rest

/-- The value of decimal digits. -/
def digitsValue (digits : List Char) : ℕ :=
  Nat.ofDigitChars 10 digits 0

variable {s : TextStream}

namespace TextStream

/-- The sign and the magnitude of an integer. -/
def numeral (s : TextStream) : (Bool × ℕ) × TextStream :=
  if !s.good then ((false, 0), s)
  else
  let text := s.rest.dropWhile isSpace
  let digits := (stripSign text).takeWhile Char.isDigit
  ((text.head? == some '-', digitsValue digits),
    ⟨(stripSign text).dropWhile Char.isDigit, !digits.isEmpty⟩)

/-- `>>` to an unsigned integer of the width. Where it fails, the variable gets the largest
value for a numeral that does not fit, and zero for none. -/
def unsigned (bits : ℕ) (s : TextStream) : ℕ × TextStream :=
  let read := s.numeral
  if read.2.good && read.1.2 < 2 ^ bits then
    (if read.1.1 then (2 ^ bits - read.1.2) % 2 ^ bits else read.1.2, read.2)
  else (if read.2.good then 2 ^ bits - 1 else 0, { read.2 with good := false })

/-- `>>` to a signed integer of the width; see `unsigned` for a failure. -/
def signed (bits : ℕ) (s : TextStream) : ℤ × TextStream :=
  let read := s.numeral
  let value : ℤ := if read.1.1 then -read.1.2 else read.1.2
  if read.2.good && -2 ^ (bits - 1) ≤ value && value < 2 ^ (bits - 1) then (value, read.2)
  else
    (if !read.2.good then 0 else if read.1.1 then -2 ^ (bits - 1) else 2 ^ (bits - 1) - 1,
      { read.2 with good := false })

theorem word_of_failed (h : s.good = false) : s.word = ("", s) := by
  rw [word, h]
  rfl

theorem word_of_tokens (hgood : s.good = true) (h : tokens s.rest = token :: rest) :
    ∃ after, s.word = (String.ofList token, ⟨after, true⟩) ∧ tokens after = rest := by
  obtain ⟨after, htext, hsolid, hne, hboundary, hrest⟩ := tokens_eq_cons h
  refine ⟨after, ?_, hrest⟩
  obtain ⟨htake, hdrop⟩ := @takeWhile_append_boundary (fun c => !isSpace c) token after
    (fun c hc => by simp [hsolid c hc]) fun c hc => by simp [hboundary c hc]
  rw [word, if_neg (by simp [hgood]), htext]
  dsimp only
  rw [htake, hdrop]
  simp [hne]

theorem word_of_no_tokens (h : tokens s.rest = []) : s.word.1 = "" ∧ s.word.2.good = false := by
  rw [word]
  split
  · rename_i hfailed
    exact ⟨rfl, by simpa using hfailed⟩
  · dsimp only
    rw [tokens_eq_nil h]
    exact ⟨rfl, rfl⟩

/-- There is another word exactly when there is another token. -/
theorem word_good_iff (hgood : s.good = true) : s.word.2.good = true ↔ tokens s.rest ≠ [] := by
  cases h : tokens s.rest with
  | nil => simp [word_of_no_tokens h]
  | cons token rest =>
    obtain ⟨after, hword, -⟩ := word_of_tokens hgood h
    simp [hword]

end TextStream

/-! ## Numerals -/

/-- The token is one or more decimal digits. -/
def IsNumeral (token : List Char) : Bool :=
  !token.isEmpty && token.all Char.isDigit

/-- The token is a numeral with an optional sign. -/
def IsSignedNumeral (token : List Char) : Bool :=
  IsNumeral (stripSign token)

/-- The value of a numeral with an optional sign. -/
def signedValue (token : List Char) : ℤ :=
  if token.head? = some '-' then -digitsValue (stripSign token) else digitsValue (stripSign token)

theorem isDigit_of_isSpace (h : isSpace c = true) : c.isDigit = false := by
  rw [Bool.eq_false_iff]
  intro hdigit
  have hrange := Char.isDigit_iff_toNat.1 hdigit
  simp only [isSpace, Bool.or_eq_true, beq_iff_eq, Bool.and_eq_true, decide_eq_true_eq,
    Char.le_def, UInt32.le_iff_toNat_le] at h
  rcases h with rfl | ⟨-, h⟩
  · revert hrange
    decide
  · exact absurd (hrange.1.trans h) (by decide)

theorem isSpace_of_isDigit (h : c.isDigit = true) : isSpace c = false := by
  by_contra hspace
  rw [isDigit_of_isSpace (by simpa using hspace)] at h
  cases h

theorem IsNumeral.solid (h : IsNumeral token = true) : Solid token := by
  intro c hc
  rw [IsNumeral, Bool.and_eq_true, List.all_eq_true] at h
  exact isSpace_of_isDigit (h.2 c hc)

theorem IsNumeral.ne_nil (h : IsNumeral token = true) : token ≠ [] := by
  rintro rfl
  cases h

/-- A numeral with a sign is one word too. -/
theorem IsSignedNumeral.word (h : IsSignedNumeral token = true) : Solid token ∧ token ≠ [] := by
  have hsolid := IsNumeral.solid h
  have hne := IsNumeral.ne_nil h
  cases token with
  | nil => exact absurd rfl hne
  | cons c token =>
    refine ⟨?_, List.cons_ne_nil _ _⟩
    intro d hd
    rcases List.mem_cons.1 hd with rfl | hd
    · by_cases hplus : d = '+'
      · rw [hplus]
        decide
      by_cases hminus : d = '-'
      · rw [hminus]
        decide
      refine hsolid d ?_
      simp [stripSign, hplus, hminus]
    · refine hsolid d ?_
      unfold stripSign
      split <;> simp_all

/-- Plain digits have no sign. -/
theorem stripSign_of_isNumeral (h : IsNumeral token = true) :
    stripSign token = token ∧ token.head? ≠ some '-' := by
  cases token with
  | nil => cases h
  | cons c token =>
    rw [IsNumeral, Bool.and_eq_true, List.all_cons, Bool.and_eq_true] at h
    have hplus : c ≠ '+' := by
      rintro rfl
      exact absurd h.2.1 (by decide)
    have hminus : c ≠ '-' := by
      rintro rfl
      exact absurd h.2.1 (by decide)
    refine ⟨?_, by simpa using hminus⟩
    unfold stripSign
    split
    · rename_i heq
      exact absurd (List.cons.inj heq).1 hplus
    · rename_i heq
      exact absurd (List.cons.inj heq).1 hminus
    · rfl

variable (n : ℕ)

/-- A printed number is a numeral with its value. -/
theorem isNumeral_toDigits : IsNumeral (Nat.toDigits 10 n) = true := by
  rw [IsNumeral, Bool.and_eq_true, List.all_eq_true]
  refine ⟨by simp [Nat.toDigits_ne_nil], ?_⟩
  intro c hc
  exact Nat.isDigit_of_mem_toDigits (by decide) (by decide) hc

@[simp] theorem digitsValue_toDigits : digitsValue (Nat.toDigits 10 n) = n :=
  Nat.ofDigitChars_ten_toDigits

theorem toList_toString_ofNat : (toString (Int.ofNat n)).toList = Nat.toDigits 10 n :=
  Nat.toList_repr

theorem toList_toString_negSucc :
    (toString (Int.negSucc n)).toList = '-' :: Nat.toDigits 10 (n + 1) := by
  show ("-" ++ Nat.repr (n + 1)).toList = _
  rw [String.toList_append, Nat.toList_repr]
  rfl

theorem signedNumeral_toString (i : ℤ) :
    IsSignedNumeral (toString i).toList = true ∧ signedValue (toString i).toList = i := by
  cases i with
  | ofNat n =>
    obtain ⟨hstrip, hsign⟩ := stripSign_of_isNumeral (isNumeral_toDigits n)
    rw [toList_toString_ofNat, IsSignedNumeral, signedValue, hstrip, if_neg hsign,
      digitsValue_toDigits]
    exact ⟨isNumeral_toDigits n, rfl⟩
  | negSucc n =>
    rw [toList_toString_negSucc, IsSignedNumeral, signedValue]
    refine ⟨isNumeral_toDigits _, ?_⟩
    rw [List.head?_cons, if_pos rfl, stripSign, digitsValue_toDigits]
    rfl

theorem stripSign_append (h : token ≠ []) (after : List Char) :
    stripSign (token ++ after) = stripSign token ++ after := by
  cases token with
  | nil => exact absurd rfl h
  | cons c token =>
    by_cases hplus : c = '+'
    · rw [hplus]
      rfl
    by_cases hminus : c = '-'
    · rw [hminus]
      rfl
    simp [stripSign, hplus, hminus]

namespace TextStream

theorem numeral_of_tokens (hgood : s.good = true) (h : tokens s.rest = token :: rest)
    (hnumeral : IsSignedNumeral token = true) : ∃ after, s.numeral =
        ((token.head? == some '-', digitsValue (stripSign token)), ⟨after, true⟩) ∧
      tokens after = rest := by
  obtain ⟨after, htext, -, hne, hboundary, hrest⟩ := tokens_eq_cons h
  refine ⟨after, ?_, hrest⟩
  rw [IsSignedNumeral, IsNumeral, Bool.and_eq_true, List.all_eq_true] at hnumeral
  obtain ⟨htake, hdrop⟩ := @takeWhile_append_boundary Char.isDigit (stripSign token) after
    hnumeral.2 fun c hc => isDigit_of_isSpace (hboundary c hc)
  rw [numeral, if_neg (by simp [hgood]), htext]
  dsimp only
  rw [stripSign_append hne, List.head?_append_of_ne_nil _ hne, htake, hdrop, hnumeral.1]

theorem numeral_of_failed (h : s.good = false) : s.numeral = ((false, 0), s) := by
  rw [numeral, h]
  rfl

theorem numeral_of_no_tokens (h : tokens s.rest = []) : s.numeral.2.good = false := by
  rw [numeral]
  split
  · rename_i hfailed
    simpa using hfailed
  · dsimp only
    rw [tokens_eq_nil h]
    rfl

theorem unsigned_of_tokens (hgood : s.good = true) (h : tokens s.rest = token :: rest)
    (hnumeral : IsNumeral token = true) {bits : ℕ} (hvalue : digitsValue token < 2 ^ bits) :
    ∃ after, s.unsigned bits = (digitsValue token, ⟨after, true⟩) ∧ tokens after = rest := by
  obtain ⟨hstrip, hsign⟩ := stripSign_of_isNumeral hnumeral
  obtain ⟨after, hread, hrest⟩ := numeral_of_tokens hgood h
    (by rw [IsSignedNumeral, hstrip, hnumeral])
  refine ⟨after, ?_, hrest⟩
  rw [unsigned, hread, hstrip]
  simp [hvalue, hsign]

theorem unsigned_of_no_tokens (h : tokens s.rest = []) (bits : ℕ) :
    (s.unsigned bits).1 = 0 ∧ (s.unsigned bits).2.good = false := by
  rw [unsigned, numeral_of_no_tokens h]
  exact ⟨rfl, rfl⟩

theorem unsigned_of_failed (h : s.good = false) (bits : ℕ) : (s.unsigned bits).2.good = false := by
  rw [unsigned, numeral_of_failed h]
  simp [h]

/-- A plain numeral that does not fit fails. -/
theorem unsigned_of_overflow (hgood : s.good = true) (h : tokens s.rest = token :: rest)
    (hnumeral : IsNumeral token = true) {bits : ℕ} (hvalue : ¬digitsValue token < 2 ^ bits) :
    (s.unsigned bits).2.good = false := by
  obtain ⟨hstrip, hsign⟩ := stripSign_of_isNumeral hnumeral
  obtain ⟨after, hread, hrest⟩ := numeral_of_tokens hgood h
    (by rw [IsSignedNumeral, hstrip, hnumeral])
  rw [unsigned, hread, hstrip]
  simp [hvalue]

/-- Where all tokens are plain numerals, an extraction takes the next token or fails. -/
theorem unsigned_cases (hgood : s.good = true) {fields : List (List Char)}
    (h : tokens s.rest = fields) (hplain : ∀ token ∈ fields, IsNumeral token = true) (bits : ℕ) :
    (s.unsigned bits).2.good = false ∨
    ∃ token rest after, fields = token :: rest ∧ digitsValue token < 2 ^ bits ∧
      s.unsigned bits = (digitsValue token, ⟨after, true⟩) ∧ tokens after = rest := by
  cases fields with
  | nil => exact .inl (unsigned_of_no_tokens h bits).2
  | cons token rest =>
    have hnumeral := hplain token List.mem_cons_self
    by_cases hvalue : digitsValue token < 2 ^ bits
    · obtain ⟨after, hread, hafter⟩ := unsigned_of_tokens hgood h hnumeral hvalue
      exact .inr ⟨token, rest, after, rfl, hvalue, hread, hafter⟩
    · exact .inl (unsigned_of_overflow hgood h hnumeral hvalue)

theorem signed_of_tokens (hgood : s.good = true) (h : tokens s.rest = token :: rest)
    (hnumeral : IsSignedNumeral token = true) {bits : ℕ}
    (hvalue : -2 ^ (bits - 1) ≤ signedValue token ∧ signedValue token < 2 ^ (bits - 1)) :
    ∃ after, s.signed bits = (signedValue token, ⟨after, true⟩) ∧ tokens after = rest := by
  obtain ⟨after, hread, hrest⟩ := numeral_of_tokens hgood h hnumeral
  refine ⟨after, ?_, hrest⟩
  rw [signed, hread]
  dsimp only
  have hsigned : (if (token.head? == some '-') = true then -(digitsValue (stripSign token) : ℤ)
      else digitsValue (stripSign token)) = signedValue token := by
    simp only [signedValue, beq_iff_eq]
  rw [hsigned]
  simp [hvalue]

theorem signed_of_no_tokens (h : tokens s.rest = []) (bits : ℕ) :
    (s.signed bits).1 = 0 ∧ (s.signed bits).2.good = false := by
  rw [signed, numeral_of_no_tokens h]
  exact ⟨rfl, rfl⟩

end TextStream

end PrismInfer.Lib
