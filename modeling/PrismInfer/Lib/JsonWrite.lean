import Mathlib.Data.List.TakeWhile
import PrismInfer.Lib.Json

/-!
# Writing flat JSON objects

The compact writer of objects whose members are strings and natural numbers, in
ASCII: everything else is written as `\u` escapes, by surrogate pairs above
`U+FFFF`. Reading such a text gives the members back (`JsonHooks.read_writeObject`),
with one exception that lies in the format: two lone surrogates that stand next to
each other as a pair are read as the one code point of the pair (`joinPairs`).
-/

namespace PrismInfer.Lib

/-! ## The writer -/

/-- A `\u` escape with four lower case digits. -/
def writeUnit (n : ℕ) : Text :=
  ofChars ['\\', 'u', Nat.digitChar (n / 4096 % 16), Nat.digitChar (n / 256 % 16),
    Nat.digitChar (n / 16 % 16), Nat.digitChar (n % 16)]

/-- The escapes a writer uses: all but that of the slash. -/
def shortEscapes : List (Char × Char) := simpleEscapes.filter (·.1 ≠ '/')

/-- A code point inside a string. -/
def writeCodePoint (c : CodePoint) : Text :=
  match shortEscapes.find? (codePoint ·.2 = c) with
  | some e => [codePoint '\\', codePoint e.1]
  | none =>
    if 32 ≤ c.val ∧ c.val ≤ 126 then [c]
    else if c.val < 0x10000 then writeUnit c.val
    else writeUnit (0xD800 + (c.val - 0x10000) / 0x400) ++
      writeUnit (0xDC00 + (c.val - 0x10000) % 0x400)

/-- A string with its quotes. -/
def writeString (s : Text) : Text :=
  codePoint '"' :: (s.flatMap writeCodePoint ++ [codePoint '"'])

/-- A natural number in decimal digits. -/
def writeNat (n : ℕ) : Text := ofChars (Nat.toDigits 10 n)

/-- The value of a member of a flat object. -/
inductive JsonScalar
  | string (value : Text)
  | nat (value : ℕ)

/-- A value. -/
def writeScalar : JsonScalar → Text
  | .string s => writeString s
  | .nat n => writeNat n

variable (member : Text × JsonScalar)

/-- A member. -/
def writeMember : Text :=
  writeString member.1 ++ codePoint ':' :: writeScalar member.2

/-- The members with commas between them. -/
def writeMembers : List (Text × JsonScalar) → Text
  | [] => []
  | [member] => writeMember member
  | member :: next :: members =>
    writeMember member ++ codePoint ',' :: writeMembers (next :: members)

/-- An object without white space. -/
def writeObject (members : List (Text × JsonScalar)) : Text :=
  codePoint '\x7b' :: (writeMembers members ++ [codePoint '\x7d'])

/-! ## Strings -/

/-- A text as it is read back: neighbouring halves of a surrogate pair become one. -/
def joinPairs : Text → Text
  | [] => []
  | [c] => [c]
  | c :: d :: rest =>
    if isHighSurrogate c.val && isLowSurrogate d.val then
      Fin.ofNat 0x110000 (joinSurrogates c.val d.val) :: joinPairs rest
    else c :: joinPairs (d :: rest)

/-- Reading back changes nothing in a text without the first half of a pair. -/
theorem joinPairs_of_not_high {t : Text} (h : ∀ c ∈ t, isHighSurrogate c.val = false) :
    joinPairs t = t := by
  induction t using joinPairs.induct with
  | case1 => rfl
  | case2 c => rfl
  | case3 c d rest hpair ih =>
    rw [h c List.mem_cons_self] at hpair
    cases hpair
  | case4 c d rest hpair ih =>
    rw [joinPairs, if_neg hpair, ih fun e he => h e (List.mem_cons_of_mem _ he)]

theorem joinPairs_of_lt {t : Text} (h : ∀ c ∈ t, c.val < 0xD800) : joinPairs t = t := by
  refine joinPairs_of_not_high fun c hc => ?_
  have hlt := h c hc
  simp [isHighSurrogate]
  omega

/-- A character is no surrogate. -/
@[simp] theorem joinPairs_text (s : String) : joinPairs (text s) = text s := by
  refine joinPairs_of_not_high fun c hc => ?_
  obtain ⟨d, -, rfl⟩ := List.mem_map.1 hc
  have hvalid : d.toNat.isValidChar := d.valid
  rw [codePoint_val]
  simp [isHighSurrogate]
  rcases hvalid with h | h <;> omega

variable {n : ℕ}

theorem hexValue_digitChar (h : n < 16) : hexValue (codePoint (Nat.digitChar n)) = some n := by
  interval_cases n <;> decide

theorem scanHex_writeUnit (h : n < 0x10000) (rest : Text) :
    scanHex ((writeUnit n).drop 2 ++ rest) = some (n, rest) := by
  have hdigit (k : ℕ) : hexValue (codePoint (Nat.digitChar (k % 16))) = some (k % 16) :=
    hexValue_digitChar (Nat.mod_lt _ (by decide))
  simp only [writeUnit, ofChars, List.map_cons, List.map_nil, List.drop_succ_cons, List.drop_zero,
    List.cons_append, List.nil_append, scanHex, hdigit]
  have : ((n / 4096 % 16 * 16 + n / 256 % 16) * 16 + n / 16 % 16) * 16 + n % 16 = n := by omega
  rw [this]

theorem expectWord_writeUnit (n : ℕ) (rest : Text) :
    expectWord ['\\', 'u'] (writeUnit n ++ rest) = some ((writeUnit n).drop 2 ++ rest) := by
  simp [writeUnit, ofChars, expectWord, expect]

theorem scanUnicode_alone (hn : n < 0x10000) (h : isHighSurrogate n = false) (rest : Text) :
    scanUnicode ((writeUnit n).drop 2 ++ rest) = some (Fin.ofNat 0x110000 n, rest) := by
  simp [scanUnicode, scanHex_writeUnit hn, h]

/-- What may stand behind a surrogate that stays alone. -/
def NoLowUnit (rest : Text) : Prop :=
  expectWord ['\\', 'u'] rest = none ∨
    ∃ n tail, rest = writeUnit n ++ tail ∧ n < 0x10000 ∧ isLowSurrogate n = false

variable {rest : Text}

theorem scanUnicode_high (hn : isHighSurrogate n = true) (hrest : NoLowUnit rest) :
    scanUnicode ((writeUnit n).drop 2 ++ rest) = some (Fin.ofNat 0x110000 n, rest) := by
  have hbound : n < 0x10000 := by
    simp only [isHighSurrogate, Bool.and_eq_true, decide_eq_true_eq] at hn
    omega
  rcases hrest with hword | ⟨m, tail, rfl, hm, hlow⟩
  · simp [scanUnicode, scanHex_writeUnit hbound, hn, hword]
  · simp [scanUnicode, scanHex_writeUnit hbound, hn, expectWord_writeUnit, scanHex_writeUnit hm,
      hlow]

theorem scanUnicode_pair {high low : ℕ} (hhigh : isHighSurrogate high = true)
    (hlow : isLowSurrogate low = true) (rest : Text) :
    scanUnicode ((writeUnit high).drop 2 ++ (writeUnit low ++ rest)) =
      some (Fin.ofNat 0x110000 (joinSurrogates high low), rest) := by
  have hbounds : high < 0x10000 ∧ low < 0x10000 := by
    simp only [isHighSurrogate, isLowSurrogate, Bool.and_eq_true, decide_eq_true_eq] at hhigh hlow
    omega
  simp [scanUnicode, scanHex_writeUnit hbounds.1, hhigh, expectWord_writeUnit,
    scanHex_writeUnit hbounds.2, hlow]

variable {c : CodePoint}

theorem scanBody_unit {n fuel : ℕ} {rest tail : Text}
    (h : scanUnicode ((writeUnit n).drop 2 ++ rest) = some (c, tail)) :
    scanBody (fuel + 1) (writeUnit n ++ rest) =
      (scanBody fuel tail).map fun (body, rest) => (c :: body, rest) := by
  have hcons : writeUnit n ++ rest =
      codePoint '\\' :: codePoint 'u' :: ((writeUnit n).drop 2 ++ rest) := rfl
  have hquote : codePoint '\\' ≠ codePoint '"' := by decide
  rw [hcons, scanBody, if_neg hquote, if_pos rfl, scanEscape, if_pos rfl, h, Option.bind_some]

/-- A short escape is read as what it stands for. -/
theorem scanEscape_short {e : Char × Char} (h : e ∈ shortEscapes) (rest : Text) :
    scanEscape (codePoint e.1 :: rest) = some (codePoint e.2, rest) := by
  have hall : ∀ e ∈ shortEscapes, codePoint e.1 ≠ codePoint 'u' ∧
      (simpleEscapes.find? (codePoint ·.1 = codePoint e.1)) = some e := by
    decide
  obtain ⟨hu, hfind⟩ := hall e h
  rw [scanEscape, if_neg hu, hfind]
  rfl

/-- The four ways to write a code point. -/
theorem writeCodePoint_cases (c : CodePoint) : (∃ e ∈ shortEscapes, codePoint e.2 = c ∧
      writeCodePoint c = [codePoint '\\', codePoint e.1]) ∨
    ((32 ≤ c.val ∧ c.val ≤ 126) ∧ c ≠ codePoint '"' ∧ c ≠ codePoint '\\' ∧
      writeCodePoint c = [c]) ∨
    (c.val < 0x10000 ∧ writeCodePoint c = writeUnit c.val) ∨
    ∃ high low, isHighSurrogate high = true ∧ isLowSurrogate low = true ∧
      joinSurrogates high low = c.val ∧ writeCodePoint c = writeUnit high ++ writeUnit low := by
  unfold writeCodePoint
  split
  · rename_i e hfind
    left
    have hfound := List.find?_some hfind
    exact ⟨e, List.mem_of_find?_eq_some hfind, of_decide_eq_true hfound, rfl⟩
  · rename_i hnone
    right
    rw [List.find?_eq_none] at hnone
    have hne (e : Char × Char) (he : e ∈ shortEscapes) : c ≠ codePoint e.2 := fun heq =>
      hnone e he (decide_eq_true heq.symm)
    split
    · rename_i hprintable
      exact .inl ⟨hprintable, hne ('"', '"') (by decide), hne ('\\', '\\') (by decide), rfl⟩
    · right
      split
      · rename_i hsmall
        exact .inl ⟨hsmall, rfl⟩
      · right
        have hbound := c.isLt
        refine ⟨_, _, ?_, ?_, ?_, rfl⟩
        · simp only [isHighSurrogate, Bool.and_eq_true, decide_eq_true_eq]
          omega
        · simp only [isLowSurrogate, Bool.and_eq_true, decide_eq_true_eq]
          omega
        · unfold joinSurrogates
          omega

theorem ofNat_val (c : CodePoint) : Fin.ofNat 0x110000 c.val = c :=
  Fin.ext (Nat.mod_eq_of_lt c.isLt)

/-- One written code point is read as itself, unless it is the first half of a pair. -/
theorem scanBody_writeCodePoint (c : CodePoint) (fuel : ℕ)
    (hrest : isHighSurrogate c.val = true → NoLowUnit rest) :
    scanBody (fuel + 1) (writeCodePoint c ++ rest) =
      (scanBody fuel rest).map fun (body, rest) => (c :: body, rest) := by
  have hquote : codePoint '\\' ≠ codePoint '"' := by decide
  rcases writeCodePoint_cases c with
    ⟨e, he, rfl, hwrite⟩ | ⟨hprintable, hne, hne', hwrite⟩ | ⟨hsmall, hwrite⟩ |
      ⟨high, low, hhigh, hlow, hjoin, hwrite⟩
  · rw [hwrite, List.cons_append, List.cons_append, List.nil_append, scanBody, if_neg hquote,
      if_pos rfl, scanEscape_short he, Option.bind_some]
  · rw [hwrite, List.cons_append, List.nil_append, scanBody, if_neg hne, if_neg hne',
      if_neg (by omega)]
  · rw [hwrite]
    refine scanBody_unit ?_
    cases hhigh : isHighSurrogate c.val with
    | true => rw [scanUnicode_high hhigh (hrest hhigh), ofNat_val]
    | false => rw [scanUnicode_alone hsmall hhigh, ofNat_val]
  · rw [hwrite, List.append_assoc]
    refine scanBody_unit ?_
    rw [scanUnicode_pair hhigh hlow, hjoin, ofNat_val]

/-- A code point that is not the second half of a pair leaves a first half in front of it
alone. -/
theorem noLowUnit_writeCodePoint {d : CodePoint} (hd : isLowSurrogate d.val = false)
    (rest : Text) : NoLowUnit (writeCodePoint d ++ rest) := by
  rcases writeCodePoint_cases d with
    ⟨e, he, rfl, hwrite⟩ | ⟨-, -, hne, hwrite⟩ | ⟨hsmall, hwrite⟩ | ⟨high, low, hhigh, -, -, hwrite⟩
  · left
    have hall : ∀ e ∈ shortEscapes, codePoint e.1 ≠ codePoint 'u' := by decide
    rw [hwrite]
    simp [expectWord, expect, hall e he]
  · left
    rw [hwrite]
    simp [expectWord, expect, hne]
  · exact .inr ⟨d.val, rest, by rw [hwrite], hsmall, hd⟩
  · simp only [isHighSurrogate, Bool.and_eq_true, decide_eq_true_eq] at hhigh
    refine .inr ⟨high, writeUnit low ++ rest, by rw [hwrite, List.append_assoc], by omega, ?_⟩
    simp only [isLowSurrogate, Bool.and_eq_false_iff, decide_eq_false_iff_not]
    omega

theorem noLowUnit_quote (rest : Text) : NoLowUnit (codePoint '"' :: rest) := by
  left
  simp [expectWord, expect, show codePoint '"' ≠ codePoint '\\' by decide]

/-- A surrogate is written as one unit. -/
theorem writeCodePoint_surrogate (hlow : 0xD800 ≤ c.val) (hhigh : c.val ≤ 0xDFFF) :
    writeCodePoint c = writeUnit c.val := by
  rcases writeCodePoint_cases c with
    ⟨e, he, rfl, -⟩ | ⟨hprintable, -⟩ | ⟨-, hwrite⟩ | ⟨high, low, hh, hl, hjoin, -⟩
  · have hall : ∀ e ∈ shortEscapes, (codePoint e.2).val < 0xD800 := by decide
    exact absurd (hall e he) (Nat.not_lt.2 hlow)
  · omega
  · exact hwrite
  · simp only [isHighSurrogate, isLowSurrogate, Bool.and_eq_true, decide_eq_true_eq] at hh hl
    unfold joinSurrogates at hjoin
    omega

/-- Two halves of a pair, next to each other. -/
theorem scanBody_pair {c d : CodePoint} (hc : isHighSurrogate c.val = true)
    (hd : isLowSurrogate d.val = true) (rest : Text) (fuel : ℕ) :
    scanBody (fuel + 1) (writeCodePoint c ++ (writeCodePoint d ++ rest)) =
      (scanBody fuel rest).map fun (body, rest) =>
        (Fin.ofNat 0x110000 (joinSurrogates c.val d.val) :: body, rest) := by
  have hranges := And.intro hc hd
  simp only [isHighSurrogate, isLowSurrogate, Bool.and_eq_true, decide_eq_true_eq] at hranges
  rw [writeCodePoint_surrogate (by omega) (by omega),
    writeCodePoint_surrogate (by omega) (by omega)]
  exact scanBody_unit (scanUnicode_pair hc hd rest)

theorem writeCodePoint_ne_nil (c : CodePoint) : 0 < (writeCodePoint c).length := by
  rcases writeCodePoint_cases c with
    ⟨e, -, -, hwrite⟩ | ⟨-, -, -, hwrite⟩ | ⟨-, hwrite⟩ | ⟨high, low, -, -, -, hwrite⟩ <;>
    rw [hwrite] <;> simp [writeUnit, ofChars]

/-- A written string is read back, up to its pairs of surrogates. -/
theorem scanBody_flatMap (s rest : Text) (fuel : ℕ)
    (hfuel : (s.flatMap writeCodePoint).length < fuel) :
    scanBody fuel (s.flatMap writeCodePoint ++ codePoint '"' :: rest) =
      some (joinPairs s, rest) := by
  induction s using joinPairs.induct generalizing fuel with
  | case1 =>
    obtain ⟨fuel, rfl⟩ : ∃ n, fuel = n + 1 := ⟨fuel - 1, by omega⟩
    simp [scanBody, joinPairs]
  | case2 c =>
    have hc := writeCodePoint_ne_nil c
    rw [List.flatMap_cons, List.length_append] at hfuel
    obtain ⟨fuel, rfl⟩ : ∃ n, fuel = n + 2 := ⟨fuel - 2, by omega⟩
    rw [List.flatMap_cons, List.flatMap_nil, List.append_nil,
      scanBody_writeCodePoint c _ fun _ => noLowUnit_quote rest]
    simp [scanBody, joinPairs]
  | case3 c d s hpair ih =>
    have hc := writeCodePoint_ne_nil c
    obtain ⟨hhigh, hlow⟩ := Bool.and_eq_true_iff.1 hpair
    rw [List.flatMap_cons, List.flatMap_cons, List.length_append, List.length_append] at hfuel
    obtain ⟨fuel, rfl⟩ : ∃ n, fuel = n + 1 := ⟨fuel - 1, by omega⟩
    rw [List.flatMap_cons, List.flatMap_cons, List.append_assoc, List.append_assoc,
      scanBody_pair hhigh hlow, ih fuel (by omega), joinPairs, if_pos hpair]
    rfl
  | case4 c d s hpair ih =>
    have hc := writeCodePoint_ne_nil c
    rw [List.flatMap_cons, List.length_append] at hfuel
    obtain ⟨fuel, rfl⟩ : ∃ n, fuel = n + 1 := ⟨fuel - 1, by omega⟩
    have hrest : isHighSurrogate c.val = true →
        NoLowUnit ((d :: s).flatMap writeCodePoint ++ codePoint '"' :: rest) := by
      intro hhigh
      have hlow : isLowSurrogate d.val = false := by
        cases hd : isLowSurrogate d.val with
        | false => rfl
        | true => exact absurd (by rw [hhigh, hd]; rfl) hpair
      rw [List.flatMap_cons, List.append_assoc]
      exact noLowUnit_writeCodePoint hlow _
    rw [List.flatMap_cons, List.append_assoc, scanBody_writeCodePoint c fuel hrest,
      ih fuel (by omega), joinPairs, if_neg hpair]
    rfl

theorem scanString_write (s rest : Text) :
    scanString (s.flatMap writeCodePoint ++ codePoint '"' :: rest) = some (joinPairs s, rest) := by
  refine scanBody_flatMap s rest _ ?_
  rw [List.length_append, List.length_cons]
  omega

/-! ## Numbers -/

/-- The number that a reader makes of the digits of a natural number. -/
def numberOfNat (n : ℕ) : JsonNumber := ⟨false, writeNat n, [], []⟩

/-- What may stand behind a number: not a digit, nor what continues a number. -/
def EndsNumber (rest : Text) : Prop :=
  ∀ c tail, rest = c :: tail → isDigit c = false ∧ c ≠ codePoint '.' ∧ c ≠ codePoint 'e' ∧
    c ≠ codePoint 'E'

theorem isDigit_of_mem_writeNat (h : c ∈ writeNat n) : isDigit c = true := by
  obtain ⟨d, hd, rfl⟩ := List.mem_map.1 h
  have hdigit := Nat.isDigit_of_mem_toDigits (by decide) (by decide) hd
  rw [Char.isDigit_iff_toNat] at hdigit
  simpa [isDigit] using hdigit

theorem decimalValue_writeNat (n : ℕ) : decimalValue (writeNat n) = n := by
  rw [decimalValue, writeNat, ofChars, List.foldl_map]
  simp only [codePoint_val]
  exact Nat.ofDigitChars_ten_toDigits

/-- The digits of a positive number begin with another digit than zero. -/
theorem toDigits_head (n : ℕ) (hn : 0 < n) :
    ∃ d digits, Nat.toDigits 10 n = d :: digits ∧ d ≠ '0' := by
  induction n using Nat.strongRecOn with
  | _ n ih =>
    by_cases hlt : n < 10
    · refine ⟨Nat.digitChar n, [], Nat.toDigits_of_lt_base hlt, ?_⟩
      interval_cases n <;> decide
    · obtain ⟨d, digits, hdigits, hd⟩ := ih (n / 10) (by omega) (by omega)
      refine ⟨d, digits ++ [Nat.digitChar (n % 10)], ?_, hd⟩
      rw [Nat.toDigits_of_base_le (by decide) (by omega), hdigits]
      rfl

theorem takeWhile_isDigit {digits rest : Text} (h : ∀ c ∈ digits, isDigit c = true)
    (hrest : EndsNumber rest) :
    (digits ++ rest).takeWhile isDigit = digits ∧ (digits ++ rest).dropWhile isDigit = rest := by
  have hend : rest.takeWhile isDigit = [] ∧ rest.dropWhile isDigit = rest := by
    cases rest with
    | nil => exact ⟨rfl, rfl⟩
    | cons c tail =>
      have hc := (hrest c tail rfl).1
      exact ⟨List.takeWhile_cons_of_neg (by simp [hc]), List.dropWhile_cons_of_neg (by simp [hc])⟩
  rw [List.takeWhile_append_of_pos h, List.dropWhile_append_of_pos h, hend.1, hend.2]
  exact ⟨List.append_nil _, rfl⟩

theorem scanDigits_writeNat (n : ℕ) (hrest : EndsNumber rest) :
    scanDigits (writeNat n ++ rest) = some (writeNat n, rest) := by
  rcases Nat.eq_zero_or_pos n with rfl | hpos
  · rfl
  · obtain ⟨d, digits, hdigits, hd⟩ := toDigits_head n hpos
    have hwrite : writeNat n = codePoint d :: ofChars digits := by
      rw [writeNat, hdigits]
      rfl
    have hall (c : CodePoint) (hc : c ∈ ofChars digits) : isDigit c = true :=
      isDigit_of_mem_writeNat (n := n) (by rw [hwrite]; exact List.mem_cons_of_mem _ hc)
    have hzero : codePoint d ≠ codePoint '0' := by rwa [Ne, codePoint_inj]
    have hdigit : isDigit (codePoint d) = true :=
      isDigit_of_mem_writeNat (n := n) (by rw [hwrite]; exact List.mem_cons_self)
    obtain ⟨htake, hdrop⟩ := takeWhile_isDigit hall hrest
    rw [hwrite, List.cons_append, scanDigits, if_neg hzero, if_pos hdigit, htake, hdrop]

theorem writeNat_cons (n : ℕ) : ∃ d digits, writeNat n = d :: digits ∧ isDigit d = true := by
  cases hwrite : writeNat n with
  | nil => exact absurd (List.map_eq_nil_iff.1 hwrite) Nat.toDigits_ne_nil
  | cons d digits =>
    have hd : d ∈ writeNat n := by
      rw [hwrite]
      exact List.mem_cons_self
    exact ⟨d, digits, rfl, isDigit_of_mem_writeNat hd⟩

theorem scanNumber_writeNat (n : ℕ) (hrest : EndsNumber rest) :
    scanNumber (writeNat n ++ rest) = some (numberOfNat n, rest) := by
  have hsign : expect '-' (writeNat n ++ rest) = none := by
    obtain ⟨d, digits, hwrite, hd⟩ := writeNat_cons n
    rw [hwrite, List.cons_append, expect_of_isDigit hd (by decide)]
  have hfraction : scanFraction rest = ([], rest) := by
    cases rest with
    | nil => rfl
    | cons c tail => simp [scanFraction, expect, (hrest c tail rfl).2.1]
  have hexponent : scanExponent rest = ([], rest) := by
    cases rest with
    | nil => rfl
    | cons c tail => simp [scanExponent, (hrest c tail rfl).2.2]
  simp only [scanNumber, hsign, scanDigits_writeNat n hrest, Option.map_some, hfraction, hexponent]
  rfl

/-! ## Objects -/

/-- A member's value as it is read back. -/
def JsonScalar.readBack : JsonScalar → Json
  | .string s => .string (joinPairs s)
  | .nat n => .number (numberOfNat n)

namespace JsonHooks

variable {ε : Type*} {hooks : JsonHooks ε}

/-- The reader takes the numbers of a value as they are. -/
def TakesNumber (hooks : JsonHooks ε) (value : JsonScalar) : Prop :=
  ∀ n, value = .nat n → hooks.number (numberOfNat n) = .ok (.number (numberOfNat n))

theorem scanPlain_writeNat (hnumber : hooks.number (numberOfNat n) = .ok (.number (numberOfNat n)))
    (hrest : EndsNumber rest) :
    hooks.scanPlain (writeNat n ++ rest) = .ok (.number (numberOfNat n), rest) := by
  have hscan := scanNumber_writeNat n hrest
  simp only [scanPlain, scanWord_of_scanNumber hooks hscan, hscan, hnumber]
  rfl

theorem scanOnce_writeScalar (nested : Option (Text → Except ε (Json × Text))) {value : JsonScalar}
    (hvalue : hooks.TakesNumber value) (hrest : EndsNumber rest) :
    hooks.scanOnce nested (writeScalar value ++ rest) = .ok (value.readBack, rest) := by
  cases value with
  | string s =>
    have hquote : expect '"' (writeString s ++ rest) =
        some (s.flatMap writeCodePoint ++ codePoint '"' :: rest) := by
      simp [writeString, expect]
    simp only [scanOnce, writeScalar, hquote, scanString_write]
    rfl
  | nat n =>
    obtain ⟨hquote, hopens⟩ := plain_of_scanNumber (scanNumber_writeNat n hrest)
    simp only [Opens, not_or, not_ne_iff] at hopens
    simp only [scanOnce, writeScalar, hquote, hopens.1, hopens.2]
    exact scanPlain_writeNat (hvalue n rfl) hrest

end JsonHooks

/-- A member as it is read back. -/
def readMember : Text × Json :=
  (joinPairs member.1, member.2.readBack)

/-- A text that does not begin with white space. -/
def NoSpace (t : Text) : Prop := t.dropWhile isJsonSpace = t

theorem noSpace_cons (h : isJsonSpace c = false) (rest : Text) : NoSpace (c :: rest) :=
  List.dropWhile_cons_of_neg (by simp [h])

theorem noSpace_writeScalar (value : JsonScalar) (rest : Text) :
    NoSpace (writeScalar value ++ rest) := by
  cases value with
  | string s => exact noSpace_cons (by decide) _
  | nat n =>
    obtain ⟨d, digits, hwrite, hd⟩ := writeNat_cons n
    rw [writeScalar, hwrite]
    refine noSpace_cons ?_ _
    simp only [isJsonSpace, Bool.or_eq_false_iff, decide_eq_false_iff_not]
    refine ⟨⟨⟨?_, ?_⟩, ?_⟩, ?_⟩ <;> rintro rfl <;> cases hd

theorem endsNumber_cons {c : Char} (h : isDigit (codePoint c) = false ∧ c ≠ '.' ∧ c ≠ 'e' ∧ c ≠ 'E')
    (rest : Text) : EndsNumber (codePoint c :: rest) := by
  rintro d tail heq
  cases heq
  exact ⟨h.1, by simpa using h.2.1, by simpa using h.2.2.1, by simpa using h.2.2.2⟩

namespace JsonHooks

variable {ε : Type*} {hooks : JsonHooks ε} {value : Text → Except ε (Json × Text)}

/-- `value` reads a written value. -/
def Reads (value : Text → Except ε (Json × Text)) (scalar : JsonScalar) : Prop :=
  ∀ rest, EndsNumber rest → value (writeScalar scalar ++ rest) = .ok (scalar.readBack, rest)

theorem scanMember_write {member : Text × JsonScalar} (hvalue : Reads value member.2)
    (hrest : EndsNumber rest) (hspace : NoSpace rest) :
    hooks.scanMember value (writeMember member ++ rest) = .ok (readMember member, rest) := by
  have hopen : expect '"' (writeMember member ++ rest) =
      some (member.1.flatMap writeCodePoint ++
        codePoint '"' :: (codePoint ':' :: (writeScalar member.2 ++ rest))) := by
    simp [writeMember, writeString, expect]
  have hcolon : (codePoint ':' :: (writeScalar member.2 ++ rest)).dropWhile isJsonSpace =
      codePoint ':' :: (writeScalar member.2 ++ rest) :=
    noSpace_cons (by decide) _
  have hscalar : (writeScalar member.2 ++ rest).dropWhile isJsonSpace =
      writeScalar member.2 ++ rest :=
    noSpace_writeScalar member.2 rest
  have hspace : rest.dropWhile isJsonSpace = rest := hspace
  simp only [scanMember, need, hopen, Option.elim_some, bind, Except.bind, scanString_write, hcolon,
    expect_self, hscalar, hvalue rest hrest, hspace]
  rfl

variable {members : List (Text × JsonScalar)}

theorem noSpace_writeMembers {member : Text × JsonScalar} (rest : Text) :
    NoSpace (writeMembers (member :: members) ++ rest) := by
  cases members <;> exact noSpace_cons (by decide) _

/-- Members with commas between them are read up to the closing brace. -/
theorem scanMembers_write (hne : members ≠ []) (hvalues : ∀ member ∈ members, Reads value member.2)
    (rest : Text) {fuel : ℕ} (hfuel : members.length ≤ fuel) :
    hooks.scanList '\x7d' (hooks.scanMember value) fuel
      (writeMembers members ++ codePoint '\x7d' :: rest) = .ok (members.map readMember, rest) := by
  have hbrace := endsNumber_cons (c := '\x7d') (by decide) rest
  induction members generalizing fuel with
  | nil => exact absurd rfl hne
  | cons member members ih =>
    obtain ⟨fuel, rfl⟩ : ∃ n, fuel = n + 1 := ⟨fuel - 1, by simp at hfuel; omega⟩
    have hmember := hvalues member List.mem_cons_self
    cases members with
    | nil =>
      rw [scanList, writeMembers, scanMember_write hmember hbrace (noSpace_cons (by decide) _)]
      simp [expect, bind, Except.bind]
    | cons next members =>
      have hcomma := endsNumber_cons (c := ',') (by decide)
        (writeMembers (next :: members) ++ codePoint '\x7d' :: rest)
      have hspace : (writeMembers (next :: members) ++ codePoint '\x7d' :: rest).dropWhile
          isJsonSpace = writeMembers (next :: members) ++ codePoint '\x7d' :: rest :=
        noSpace_writeMembers _
      have hlength : (next :: members).length ≤ fuel := by simpa using hfuel
      have hnext := ih (by simp) (fun m hm => hvalues m (List.mem_cons_of_mem _ hm)) hlength
      have hbracecomma : ¬ codePoint ',' = codePoint '\x7d' := by decide
      rw [scanList, writeMembers, List.append_assoc, List.cons_append,
        scanMember_write hmember hcomma (noSpace_cons (by decide) _)]
      simp only [bind, Except.bind, expect, if_neg hbracecomma, need, if_true, Option.elim_some,
        hspace, hnext, List.map_cons]

theorem length_le_writeMembers (members : List (Text × JsonScalar)) :
    members.length ≤ (writeMembers members).length + 1 := by
  induction members with
  | nil => simp
  | cons member members ih =>
    cases members with
    | nil => simp
    | cons next members =>
      rw [List.length_cons] at ih
      simp only [writeMembers, List.length_append, List.length_cons]
      omega

/-- A written object with white space behind it is read back: what the reader makes of its
members. -/
theorem read_writeObject (hne : members ≠ [])
    (hnumbers : ∀ member ∈ members, hooks.TakesNumber member.2) (depth : ℕ) {tail : Text}
    (htail : ∀ c ∈ tail, isJsonSpace c = true) :
    hooks.read (depth + 1) (writeObject members ++ tail) =
      hooks.object (members.map readMember) := by
  have hvalues : ∀ member ∈ members, Reads (hooks.scan depth) member.2 := by
    intro member hmember rest hrest
    cases depth <;> exact scanOnce_writeScalar _ (hnumbers member hmember) hrest
  obtain ⟨member, members, rfl⟩ := List.exists_cons_of_ne_nil hne
  have hwrite : writeObject (member :: members) ++ tail =
      codePoint '\x7b' :: (writeMembers (member :: members) ++ codePoint '\x7d' :: tail) := by
    simp [writeObject]
  have hopen : (codePoint '\x7b' ::
      (writeMembers (member :: members) ++ codePoint '\x7d' :: tail)).dropWhile isJsonSpace =
      codePoint '\x7b' :: (writeMembers (member :: members) ++ codePoint '\x7d' :: tail) :=
    noSpace_cons (by decide) _
  have hspace : (writeMembers (member :: members) ++ codePoint '\x7d' :: tail).dropWhile
      isJsonSpace = writeMembers (member :: members) ++ codePoint '\x7d' :: tail :=
    noSpace_writeMembers _
  have hlength := length_le_writeMembers (member :: members)
  have hmembers : hooks.scanList '\x7d' (hooks.scanMember (hooks.scan depth))
      (writeMembers (member :: members) ++ codePoint '\x7d' :: tail).length
      (writeMembers (member :: members) ++ codePoint '\x7d' :: tail) =
      .ok ((member :: members).map readMember, tail) :=
    scanMembers_write hne hvalues tail (by
      simp only [List.length_append, List.length_cons] at hlength ⊢
      omega)
  have hbrace : expect '\x7d' (writeMembers (member :: members) ++ codePoint '\x7d' :: tail) =
      none := by
    cases members <;> exact expect_of_ne (by decide) _
  have hquote : expect '"' (codePoint '\x7b' ::
      (writeMembers (member :: members) ++ codePoint '\x7d' :: tail)) = none :=
    expect_of_ne (by decide) _
  have hend : tail.dropWhile isJsonSpace = [] := List.dropWhile_eq_nil_iff.2 htail
  simp only [read, scan, scanOnce, hwrite, hopen, hquote, expect_self, Option.elim_some,
    scanObject, hspace, hbrace, hmembers, bind, Except.bind]
  cases hooks.object ((member :: members).map readMember) with
  | error e => rfl
  | ok value => simp [Except.map, hend]

end JsonHooks

/-! ## The written characters -/

/-- All characters of the text are printable ASCII characters. -/
def Printable (t : Text) : Prop := ∀ c ∈ t, 32 ≤ c.val ∧ c.val ≤ 126

theorem Printable.append {s t : Text} (hs : Printable s) (ht : Printable t) :
    Printable (s ++ t) := by
  intro c hc
  exact (List.mem_append.1 hc).elim (hs c) (ht c)

theorem Printable.cons {c : Char} {t : Text} (hc : 32 ≤ c.toNat ∧ c.toNat ≤ 126)
    (ht : Printable t) : Printable (codePoint c :: t) := by
  intro d hd
  rcases List.mem_cons.1 hd with rfl | hd
  · rwa [codePoint_val]
  · exact ht d hd

theorem printable_nil : Printable [] := nofun

theorem printable_writeUnit (n : ℕ) : Printable (writeUnit n) := by
  have hdigit (k : ℕ) : 32 ≤ (Nat.digitChar (k % 16)).toNat ∧
      (Nat.digitChar (k % 16)).toNat ≤ 126 := by
    have hlt : k % 16 < 16 := Nat.mod_lt _ (by decide)
    generalize k % 16 = d at hlt
    interval_cases d <;> decide
  exact .cons (by decide) (.cons (by decide) (.cons (hdigit _) (.cons (hdigit _) (.cons (hdigit _)
    (.cons (hdigit _) printable_nil)))))

theorem printable_writeCodePoint (c : CodePoint) : Printable (writeCodePoint c) := by
  rcases writeCodePoint_cases c with
    ⟨e, he, -, hwrite⟩ | ⟨hprintable, -, -, hwrite⟩ | ⟨-, hwrite⟩ | ⟨high, low, -, -, -, hwrite⟩
  · have hall : ∀ e ∈ shortEscapes, 32 ≤ e.1.toNat ∧ e.1.toNat ≤ 126 := by decide
    rw [hwrite]
    exact .cons (by decide) (.cons (hall e he) printable_nil)
  · rw [hwrite]
    intro d hd
    rw [List.mem_singleton.1 hd]
    exact hprintable
  · rw [hwrite]
    exact printable_writeUnit _
  · rw [hwrite]
    exact (printable_writeUnit _).append (printable_writeUnit _)

theorem printable_writeString (s : Text) : Printable (writeString s) := by
  refine .cons (by decide) (.append ?_ (.cons (by decide) printable_nil))
  intro d hd
  obtain ⟨c, -, hd⟩ := List.mem_flatMap.1 hd
  exact printable_writeCodePoint c d hd

theorem printable_writeNat (n : ℕ) : Printable (writeNat n) := by
  intro d hd
  have hdigit := isDigit_of_mem_writeNat hd
  simp only [isDigit, Bool.and_eq_true, decide_eq_true_eq] at hdigit
  omega

theorem printable_writeMember : Printable (writeMember member) := by
  refine (printable_writeString _).append (.cons (by decide) ?_)
  cases member.2 with
  | string s => exact printable_writeString s
  | nat n => exact printable_writeNat n

theorem printable_writeObject (members : List (Text × JsonScalar)) :
    Printable (writeObject members) := by
  have hmembers : Printable (writeMembers members) := by
    induction members with
    | nil => exact printable_nil
    | cons member members ih =>
      cases members with
      | nil => exact printable_writeMember member
      | cons next members => exact (printable_writeMember member).append (.cons (by decide) ih)
  exact .cons (by decide) (hmembers.append (.cons (by decide) printable_nil))

/-! ## Lengths -/

/-- The number of characters that a code point takes in a string. -/
def quotedLength (c : CodePoint) : ℕ :=
  if (shortEscapes.find? (codePoint ·.2 = c)).isSome then 2
  else if 32 ≤ c.val ∧ c.val ≤ 126 then 1
  else if c.val < 0x10000 then 6
  else 12

theorem length_writeCodePoint (c : CodePoint) : (writeCodePoint c).length = quotedLength c := by
  unfold writeCodePoint quotedLength
  cases shortEscapes.find? (codePoint ·.2 = c) with
  | some e => rfl
  | none =>
    simp only [Option.isSome_none, Bool.false_eq_true, if_false]
    split
    · rfl
    · split <;> rfl

theorem quotedLength_le (c : CodePoint) : quotedLength c ≤ 12 := by
  unfold quotedLength
  split
  · omega
  · split
    · omega
    · split <;> omega

/-- The length of a string with its quotes. -/
theorem length_writeString (s : Text) : (writeString s).length = (s.map quotedLength).sum + 2 := by
  rw [writeString, List.length_cons, List.length_append, List.length_flatMap]
  simp only [length_writeCodePoint, List.length_singleton]

theorem length_writeString_le {s : Text} (h : s.length ≤ n) :
    (writeString s).length ≤ 12 * n + 2 := by
  have hsum : (s.map quotedLength).sum ≤ s.length • 12 := by
    rw [← List.length_map (f := quotedLength)]
    refine List.sum_le_card_nsmul _ _ fun x hx => ?_
    obtain ⟨c, -, rfl⟩ := List.mem_map.1 hx
    exact quotedLength_le c
  rw [length_writeString]
  rw [smul_eq_mul] at hsum
  omega

theorem length_writeMember : (writeMember member).length =
      (writeString member.1).length + (writeScalar member.2).length + 1 := by
  rw [writeMember, List.length_append, List.length_cons]
  omega

/-- The length of an object: a colon and a comma or brace for each member, and one brace. -/
theorem length_writeObject (hne : members ≠ []) : (writeObject members).length =
      (members.map fun member => (writeString member.1).length).sum +
        (members.map fun member => (writeScalar member.2).length).sum +
          2 * members.length + 1 := by
  have hmembers : (writeMembers members).length + 1 =
      (members.map fun member => (writeString member.1).length).sum +
        (members.map fun member => (writeScalar member.2).length).sum + 2 * members.length := by
    induction members with
    | nil => exact absurd rfl hne
    | cons member members ih =>
      cases members with
      | nil =>
        simp only [writeMembers, length_writeMember, List.map_cons, List.map_nil, List.sum_cons,
          List.sum_nil, List.length_cons, List.length_nil]
        omega
      | cons next members =>
        have hnext := ih (by simp)
        rw [writeMembers, List.length_append, length_writeMember, List.length_cons]
        simp only [List.map_cons, List.sum_cons, List.length_cons] at hnext ⊢
        omega
  rw [writeObject, List.length_cons, List.length_append, List.length_singleton]
  omega

end PrismInfer.Lib
