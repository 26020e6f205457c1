import Mathlib.Tactic

/-!
# JSON texts

A reader of JSON texts (RFC 8259) with the three places where readers differ left
open: what becomes of a number, of an object's members and of the constants that are
not JSON. Texts are lists of code points, surrogates included, since an escape can
put a lone surrogate into a string.

The reader goes from left to right and stops at the first thing it cannot take, so its
answer is also the first complaint of a reader that works this way.
-/

namespace PrismInfer.Lib

/-! ## Texts -/

/-- A code point of Unicode, the surrogates included. -/
abbrev CodePoint := Fin 0x110000

instance codeCap : NeZero 0x110000 := ⟨by decide⟩

/-- A text, by code points. -/
abbrev Text := List CodePoint

/-- The code point of a character. -/
def codePoint (c : Char) : CodePoint := Fin.ofNat 0x110000 c.toNat

@[simp] theorem codePoint_val (c : Char) : (codePoint c).val = c.toNat := by
  have hvalid : c.toNat.isValidChar := c.valid
  refine Nat.mod_eq_of_lt ?_
  rcases hvalid with h | h <;> omega

@[simp] theorem codePoint_inj {c d : Char} : codePoint c = codePoint d ↔ c = d := by
  rw [Fin.ext_iff, codePoint_val, codePoint_val]
  exact Char.toNat_inj

/-- The text of a list of characters. -/
def ofChars (chars : List Char) : Text := chars.map codePoint

/-- The text of a string. -/
def text (s : String) : Text := ofChars s.toList

theorem text_inj {a b : String} : text a = text b ↔ a = b := by
  constructor
  · intro h
    exact String.toList_inj.1 (List.map_injective_iff.2 (fun _ _ => codePoint_inj.1) h)
  · rintro rfl
    rfl

/-- A continuation byte, or a byte of a smaller range. -/
def tailByte (b : BitVec 8) (low high : ℕ) : Bool :=
  low ≤ b.toNat && b.toNat ≤ high

/-- The code point of a leading byte and its continuation bytes. -/
def joinBytes (lead : ℕ) (tail : List (BitVec 8)) : CodePoint :=
  Fin.ofNat 0x110000 (tail.foldl (fun value b => value * 64 + b.toNat % 64) lead)

/-- The range of the second byte of a sequence of three. -/
def secondOfThree (b : ℕ) : ℕ × ℕ :=
  if b = 0xE0 then (0xA0, 0xBF) else if b = 0xED then (0x80, 0x9F) else (0x80, 0xBF)

/-- The range of the second byte of a sequence of four. -/
def secondOfFour (b : ℕ) : ℕ × ℕ :=
  if b = 0xF0 then (0x90, 0xBF) else if b = 0xF4 then (0x80, 0x8F) else (0x80, 0xBF)

/-- Strict UTF-8: no overlong forms, no surrogates, nothing above `U+10FFFF`. -/
def decodeUtf8 : List (BitVec 8) → Option Text
  | [] => some []
  | b :: rest =>
    let lead := b.toNat
    if lead < 0x80 then (decodeUtf8 rest).map (joinBytes lead [] :: ·)
    else
      match rest with
      | [] => none
      | b₁ :: rest₁ =>
        if 0xC2 ≤ lead && lead ≤ 0xDF then
          if tailByte b₁ 0x80 0xBF then (decodeUtf8 rest₁).map (joinBytes (lead % 32) [b₁] :: ·)
          else none
        else
          match rest₁ with
          | [] => none
          | b₂ :: rest₂ =>
            if 0xE0 ≤ lead && lead ≤ 0xEF then
              if tailByte b₁ (secondOfThree lead).1 (secondOfThree lead).2 &&
                  tailByte b₂ 0x80 0xBF then
                (decodeUtf8 rest₂).map (joinBytes (lead % 16) [b₁, b₂] :: ·)
              else none
            else
              match rest₂ with
              | [] => none
              | b₃ :: rest₃ =>
                if 0xF0 ≤ lead && lead ≤ 0xF4 && tailByte b₁ (secondOfFour lead).1
                    (secondOfFour lead).2 && tailByte b₂ 0x80 0xBF && tailByte b₃ 0x80 0xBF then
                  (decodeUtf8 rest₃).map (joinBytes (lead % 8) [b₁, b₂, b₃] :: ·)
                else none

/-- ASCII is its own encoding. -/
theorem decodeUtf8_of_ascii {t : Text} (h : ∀ c ∈ t, c.val < 128) :
    decodeUtf8 (t.map fun c => BitVec.ofNat 8 c.val) = some t := by
  induction t with
  | nil => rfl
  | cons c t ih =>
    have hc := h c List.mem_cons_self
    have hbyte : (BitVec.ofNat 8 c.val).toNat = c.val := by
      rw [BitVec.toNat_ofNat]
      omega
    have hjoin : joinBytes c.val [] = c := Fin.ext (Nat.mod_eq_of_lt c.isLt)
    rw [List.map_cons, decodeUtf8.eq_def]
    simp only [hbyte, if_pos hc, hjoin, ih fun d hd => h d (List.mem_cons_of_mem _ hd)]
    rfl

/-! ## Values -/

/-- A number as it is written: its sign, its digits, and its fraction and exponent with
their marks, empty when there is none. -/
structure JsonNumber where
  negative : Bool
  (digits fraction exponent : Text)

/-- The value of decimal digits. -/
def decimalValue (digits : Text) : ℕ :=
  digits.foldl (fun value d => 10 * value + (d.val - 48)) 0

/-- The number is written without fraction and exponent. -/
def JsonNumber.isInt (n : JsonNumber) : Bool :=
  n.fraction.isEmpty && n.exponent.isEmpty

/-- The value of a number without fraction and exponent. -/
def JsonNumber.intValue (n : JsonNumber) : ℤ :=
  if n.negative then -(decimalValue n.digits : ℤ) else decimalValue n.digits

/-- A value; the members of an object in their order, repeated names included. -/
inductive Json
  | null
  | bool (value : Bool)
  | number (value : JsonNumber)
  | string (value : Text)
  | array (items : List Json)
  | object (members : List (Text × Json))

/-! ## Tokens -/

/-- The rest of a text behind a code point. -/
def expect (c : Char) : Text → Option Text
  | [] => none
  | d :: rest => if d = codePoint c then some rest else none

@[simp] theorem expect_self (c : Char) (rest : Text) : expect c (codePoint c :: rest) = some rest :=
  if_pos rfl

theorem expect_of_ne {c d : Char} (h : d ≠ c) (rest : Text) :
    expect c (codePoint d :: rest) = none :=
  if_neg (by rwa [codePoint_inj])

theorem expect_eq_some {c : Char} {t rest : Text} (h : expect c t = some rest) :
    t = codePoint c :: rest := by
  cases t with
  | nil => cases h
  | cons d t =>
    obtain ⟨rfl, hrest⟩ := Option.ite_none_right_eq_some.1 h
    rw [Option.some.inj hrest]

theorem expect_other {c d : Char} {t rest : Text} (h : expect c t = some rest) (hcd : c ≠ d) :
    expect d t = none := by
  rw [expect_eq_some h, expect_of_ne hcd]

/-- The rest of a text behind a word. -/
def expectWord : List Char → Text → Option Text
  | [], t => some t
  | c :: word, t => (expect c t).bind (expectWord word)

/-- The white space of JSON. -/
def isJsonSpace (c : CodePoint) : Bool :=
  c = codePoint ' ' || c = codePoint '\t' || c = codePoint '\n' || c = codePoint '\r'

/-- A decimal digit. -/
def isDigit (c : CodePoint) : Bool :=
  48 ≤ c.val && c.val ≤ 57

/-- The value of a hexadecimal digit. -/
def hexValue (c : CodePoint) : Option ℕ :=
  if 48 ≤ c.val ∧ c.val ≤ 57 then some (c.val - 48)
  else if 97 ≤ c.val ∧ c.val ≤ 102 then some (c.val - 87)
  else if 65 ≤ c.val ∧ c.val ≤ 70 then some (c.val - 55)
  else none

/-- Four hexadecimal digits. -/
def scanHex : Text → Option (ℕ × Text)
  | a :: b :: c :: d :: rest =>
    match hexValue a, hexValue b, hexValue c, hexValue d with
    | some a, some b, some c, some d => some (((a * 16 + b) * 16 + c) * 16 + d, rest)
    | _, _, _, _ => none
  | _ => none

/-- The first half of a surrogate pair. -/
def isHighSurrogate (n : ℕ) : Bool := 0xD800 ≤ n && n ≤ 0xDBFF

/-- The second half of a surrogate pair. -/
def isLowSurrogate (n : ℕ) : Bool := 0xDC00 ≤ n && n ≤ 0xDFFF

/-- The code point of a surrogate pair. -/
def joinSurrogates (high low : ℕ) : ℕ :=
  0x10000 + (high - 0xD800) * 0x400 + (low - 0xDC00)

variable (t : Text)

/-- The code point of a `\u` escape, behind the `u`. A surrogate that is not followed by
the escape of its other half stays alone. -/
def scanUnicode : Option (CodePoint × Text) :=
  (scanHex t).bind fun (high, rest) =>
    let alone := (Fin.ofNat 0x110000 high, rest)
    if isHighSurrogate high then
      match expectWord ['\\', 'u'] rest with
      | none => some alone
      | some rest' =>
        (scanHex rest').map fun (low, rest'') =>
          if isLowSurrogate low then (Fin.ofNat 0x110000 (joinSurrogates high low), rest'')
          else alone
    else some alone

/-- The characters behind a backslash and what they stand for. -/
def simpleEscapes : List (Char × Char) :=
  [('"', '"'), ('\\', '\\'), ('/', '/'), ('b', '\x08'), ('f', '\x0c'), ('n', '\n'),
    ('r', '\r'), ('t', '\t')]

/-- An escape, behind the backslash. -/
def scanEscape : Text → Option (CodePoint × Text)
  | [] => none
  | c :: rest =>
    if c = codePoint 'u' then scanUnicode rest
    else (simpleEscapes.find? (codePoint ·.1 = c)).map fun e => (codePoint e.2, rest)

/-- The body of a string up to its quote, with fuel for its length. -/
def scanBody : ℕ → Text → Option (Text × Text)
  | 0, _ => none
  | _ + 1, [] => none
  | fuel + 1, c :: rest =>
    if c = codePoint '"' then some ([], rest)
    else if c = codePoint '\\' then
      (scanEscape rest).bind fun (d, rest') =>
        (scanBody fuel rest').map fun (body, rest'') => (d :: body, rest'')
    else if c.val < 32 then none
    else (scanBody fuel rest).map fun (body, rest') => (c :: body, rest')

/-- A string, behind its opening quote. -/
def scanString : Option (Text × Text) := scanBody t.length t

/-- A fraction with its point, if there is one. -/
def scanFraction : Text × Text :=
  match expect '.' t with
  | none => ([], t)
  | some rest =>
    let digits := rest.takeWhile isDigit
    if digits.isEmpty then ([], t) else (codePoint '.' :: digits, rest.dropWhile isDigit)

/-- The sign of an exponent. -/
def scanSign : Text → Text × Text
  | [] => ([], [])
  | c :: rest => if c = codePoint '+' || c = codePoint '-' then ([c], rest) else ([], c :: rest)

/-- An exponent with its mark, if there is one. -/
def scanExponent : Text → Text × Text
  | [] => ([], [])
  | c :: rest =>
    if c = codePoint 'e' || c = codePoint 'E' then
      let (sign, rest') := scanSign rest
      let digits := rest'.takeWhile isDigit
      if digits.isEmpty then ([], c :: rest) else (c :: sign ++ digits, rest'.dropWhile isDigit)
    else ([], c :: rest)

/-- The digits in front of fraction and exponent: a zero alone, or digits that do not
begin with one. -/
def scanDigits : Text → Option (Text × Text)
  | [] => none
  | d :: rest =>
    if d = codePoint '0' then some ([d], rest)
    else if isDigit d then some (d :: rest.takeWhile isDigit, rest.dropWhile isDigit)
    else none

/-- A number. -/
def scanNumber : Option (JsonNumber × Text) :=
  let (negative, unsigned) :=
    match expect '-' t with
    | none => (false, t)
    | some rest => (true, rest)
  (scanDigits unsigned).map fun (digits, rest) =>
    let (fraction, rest') := scanFraction rest
    let (exponent, rest'') := scanExponent rest'
    (⟨negative, digits, fraction, exponent⟩, rest'')

/-! ## The beginning of a number -/

theorem expect_of_isDigit {c : Char} {d : CodePoint} (hd : isDigit d = true)
    (hc : isDigit (codePoint c) = false) (rest : Text) : expect c (d :: rest) = none := by
  refine if_neg ?_
  rintro rfl
  rw [hc] at hd
  cases hd

theorem scanDigits_head {t : Text} {p : Text × Text} (h : scanDigits t = some p) :
    ∃ d rest, t = d :: rest ∧ isDigit d = true := by
  cases t with
  | nil => cases h
  | cons d rest =>
    refine ⟨d, rest, rfl, ?_⟩
    rw [scanDigits] at h
    split at h
    · rename_i hzero
      rw [hzero]
      decide
    · exact (Option.ite_none_right_eq_some.1 h).1

theorem scanNumber_head {t : Text} {p : JsonNumber × Text} (h : scanNumber t = some p) :
    ∃ d rest, isDigit d = true ∧ (t = d :: rest ∨ t = codePoint '-' :: d :: rest) := by
  unfold scanNumber at h
  cases hsign : expect '-' t with
  | none =>
    rw [hsign] at h
    obtain ⟨digits, hdigits, -⟩ := Option.map_eq_some_iff.1 h
    obtain ⟨d, rest, rfl, hd⟩ := scanDigits_head hdigits
    exact ⟨d, rest, hd, .inl rfl⟩
  | some unsigned =>
    rw [hsign] at h
    obtain ⟨digits, hdigits, -⟩ := Option.map_eq_some_iff.1 h
    obtain ⟨d, rest, rfl, hd⟩ := scanDigits_head hdigits
    exact ⟨d, rest, hd, .inr (expect_eq_some hsign)⟩

/-- A number does not begin with a character that is no digit and no sign. -/
theorem expect_of_scanNumber {t : Text} {p : JsonNumber × Text} (h : scanNumber t = some p)
    {c : Char} (hc : isDigit (codePoint c) = false) (hminus : '-' ≠ c) : expect c t = none := by
  obtain ⟨d, rest, hd, rfl | rfl⟩ := scanNumber_head h
  · exact expect_of_isDigit hd hc rest
  · exact expect_of_ne hminus _

/-! ## Values -/

/-- What a reader makes of numbers, objects and the constants `NaN`, `Infinity` and
`-Infinity`, with the errors it may raise. -/
structure JsonHooks (ε : Type*) where
  malformed : ε
  tooDeep : ε
  number : JsonNumber → Except ε Json
  constant : List Char → Except ε Json
  object : List (Text × Json) → Except ε Json

namespace JsonHooks

variable {ε : Type*} (hooks : JsonHooks ε)

/-- The rest of a text behind a character that must come. -/
def need (c : Char) (t : Text) : Except ε Text :=
  (expect c t).elim (.error hooks.malformed) .ok

/-- Elements with commas between them, from the first one up to the closing character. -/
def scanList {α : Type} (close : Char) (element : Text → Except ε (α × Text)) :
    ℕ → Text → Except ε (List α × Text)
  | 0, _ => .error hooks.malformed
  | fuel + 1, t => do
    let (first, rest) ← element t
    match expect close rest with
    | some rest => .ok ([first], rest)
    | none =>
      let rest ← hooks.need ',' rest
      let (others, rest) ← scanList close element fuel (rest.dropWhile isJsonSpace)
      .ok (first :: others, rest)

/-- An item of an array with the white space behind it. -/
def scanItem (value : Text → Except ε (Json × Text)) (t : Text) : Except ε (Json × Text) := do
  let (item, rest) ← value t
  .ok (item, rest.dropWhile isJsonSpace)

/-- A member of an object with the white space behind it, at the quote of its name. -/
def scanMember (value : Text → Except ε (Json × Text)) (t : Text) :
    Except ε ((Text × Json) × Text) := do
  let rest ← hooks.need '"' t
  let (name, rest) ← (scanString rest).elim (.error hooks.malformed) .ok
  let rest ← hooks.need ':' (rest.dropWhile isJsonSpace)
  let (member, rest) ← value (rest.dropWhile isJsonSpace)
  .ok ((name, member), rest.dropWhile isJsonSpace)

/-- The words that are values or constants, in the order they are tried. -/
def scanWord : Option (Except ε Json × Text) :=
  ((expectWord ['n', 'u', 'l', 'l'] t).map (.ok .null, ·)).or <|
  ((expectWord ['t', 'r', 'u', 'e'] t).map (.ok (.bool true), ·)).or <|
  ((expectWord ['f', 'a', 'l', 's', 'e'] t).map (.ok (.bool false), ·)).or <|
  ((expectWord "NaN".toList t).map (hooks.constant "NaN".toList, ·)).or <|
  ((expectWord "Infinity".toList t).map (hooks.constant "Infinity".toList, ·)).or <|
  (expectWord "-Infinity".toList t).map (hooks.constant "-Infinity".toList, ·)

/-- A word is a value or a constant. -/
theorem scanWord_cases {t : Text} {p : Except ε Json × Text} (h : hooks.scanWord t = some p) :
    (∃ value, p.1 = .ok value) ∨ ∃ word, p.1 = hooks.constant word := by
  simp only [scanWord, Option.or_eq_some_iff, Option.map_eq_some_iff] at h
  rcases h with ⟨_, -, rfl⟩ | ⟨-, ⟨_, -, rfl⟩ | ⟨-, ⟨_, -, rfl⟩ | ⟨-, ⟨_, -, rfl⟩ |
    ⟨-, ⟨_, -, rfl⟩ | ⟨-, _, -, rfl⟩⟩⟩⟩⟩
  · exact .inl ⟨_, rfl⟩
  · exact .inl ⟨_, rfl⟩
  · exact .inl ⟨_, rfl⟩
  all_goals exact .inr ⟨_, rfl⟩

theorem scanWord_of_scanNumber {t : Text} {p : JsonNumber × Text} (h : scanNumber t = some p) :
    hooks.scanWord t = none := by
  have hfirst (c : Char) (word : List Char) (hc : isDigit (codePoint c) = false)
      (hminus : '-' ≠ c) : expectWord (c :: word) t = none := by
    rw [expectWord, expect_of_scanNumber h hc hminus]
    rfl
  have hinfinite : expectWord ('-' :: 'I' :: "nfinity".toList) t = none := by
    obtain ⟨d, rest, hd, rfl | rfl⟩ := scanNumber_head h
    · rw [expectWord, expect_of_isDigit hd (by decide)]
      rfl
    · rw [expectWord, expect_self, Option.bind_some, expectWord, expect_of_isDigit hd (by decide)]
      rfl
  simp only [scanWord, hfirst 'n' _ (by decide) (by decide), hfirst 't' _ (by decide) (by decide),
    hfirst 'f' _ (by decide) (by decide), show "NaN".toList = ['N', 'a', 'N'] from rfl,
    hfirst 'N' _ (by decide) (by decide),
    show "Infinity".toList = 'I' :: "nfinity".toList from rfl,
    hfirst 'I' _ (by decide) (by decide),
    show "-Infinity".toList = '-' :: 'I' :: "nfinity".toList from rfl, hinfinite,
    Option.map_none, Option.or_none]

/-- A number or a word. -/
def scanPlain : Except ε (Json × Text) :=
  match hooks.scanWord t with
  | some (value, rest) => value.map (·, rest)
  | none =>
    match scanNumber t with
    | none => .error hooks.malformed
    | some (n, rest) => (hooks.number n).map (·, rest)

/-- An object, behind its opening brace. -/
def scanObject (value : Text → Except ε (Json × Text)) (t : Text) : Except ε (Json × Text) := do
  let rest := t.dropWhile isJsonSpace
  let (members, rest) ←
    match expect '\x7d' rest with
    | some rest => .ok ([], rest)
    | none => hooks.scanList '\x7d' (hooks.scanMember value) rest.length rest
  (hooks.object members).map (·, rest)

/-- An array, behind its opening bracket. -/
def scanArray (value : Text → Except ε (Json × Text)) (t : Text) : Except ε (Json × Text) := do
  let rest := t.dropWhile isJsonSpace
  match expect ']' rest with
  | some rest => .ok (.array [], rest)
  | none =>
    (hooks.scanList ']' (scanItem value) rest.length rest).map fun (items, rest) =>
      (.array items, rest)

/-- One value; `nested` reads the values inside it, unless it may hold none. -/
def scanOnce (nested : Option (Text → Except ε (Json × Text))) (t : Text) :
    Except ε (Json × Text) :=
  match expect '"' t with
  | some rest =>
    (scanString rest).elim (.error hooks.malformed) fun (s, rest) => .ok (.string s, rest)
  | none =>
    match expect '\x7b' t with
    | some rest => nested.elim (.error hooks.tooDeep) (hooks.scanObject · rest)
    | none =>
      match expect '[' t with
      | some rest => nested.elim (.error hooks.tooDeep) (hooks.scanArray · rest)
      | none => hooks.scanPlain t

/-- One value with at most `depth` levels of nesting. -/
def scan : ℕ → Text → Except ε (Json × Text)
  | 0 => hooks.scanOnce none
  | depth + 1 => hooks.scanOnce (some (scan depth))

/-- A text that is one value, with white space around it. -/
def read (depth : ℕ) (t : Text) : Except ε Json := do
  let (value, rest) ← hooks.scan depth (t.dropWhile isJsonSpace)
  if (rest.dropWhile isJsonSpace).isEmpty then .ok value else .error hooks.malformed

/-! ## Where the reader stops -/

/-- The place of the `n`-th element, behind elements that are read. -/
def elementAt {α : Type} (element : Text → Except ε (α × Text)) : ℕ → Text → Option Text
  | 0, t => some t
  | n + 1, t => do
    let (_, rest) ← (element t).toOption
    let rest ← expect ',' rest
    elementAt element n (rest.dropWhile isJsonSpace)

/-- The place of a member's value. -/
def memberValue (t : Text) : Option Text := do
  let rest ← expect '"' t
  let (_, rest) ← scanString rest
  let rest ← expect ':' (rest.dropWhile isJsonSpace)
  some (rest.dropWhile isJsonSpace)

/-- Reading the value at `t` with `depth` levels, the reader gets to the value at `u`, with
`left` levels left for it. -/
inductive Visits : ℕ → Text → ℕ → Text → Prop
  | here {depth : ℕ} {t : Text} : Visits depth t depth t
  | item {depth left n : ℕ} {t rest v u : Text} (hopen : expect '[' t = some rest)
      (hitems : expect ']' (rest.dropWhile isJsonSpace) = none)
      (hn : n < (rest.dropWhile isJsonSpace).length)
      (hv : elementAt (scanItem (hooks.scan depth)) n (rest.dropWhile isJsonSpace) = some v)
      (h : Visits depth v left u) : Visits (depth + 1) t left u
  | member {depth left n : ℕ} {t rest w v u : Text} (hopen : expect '\x7b' t = some rest)
      (hmembers : expect '\x7d' (rest.dropWhile isJsonSpace) = none)
      (hn : n < (rest.dropWhile isJsonSpace).length)
      (hw : elementAt (hooks.scanMember (hooks.scan depth)) n (rest.dropWhile isJsonSpace) = some w)
      (hv : memberValue w = some v) (h : Visits depth v left u) : Visits (depth + 1) t left u

/-- An object or an array begins here. -/
def Opens : Prop := expect '\x7b' t ≠ none ∨ expect '[' t ≠ none

/-- Neither a string nor an object or array begins here. -/
def Plain : Prop := expect '"' t = none ∧ ¬ Opens t

theorem plain_of_scanNumber {t : Text} {p : JsonNumber × Text} (h : scanNumber t = some p) :
    Plain t := by
  simp [Plain, Opens, expect_of_scanNumber h (c := '"') (by decide) (by decide),
    expect_of_scanNumber h (c := '\x7b') (by decide) (by decide),
    expect_of_scanNumber h (c := '[') (by decide) (by decide)]

section Errors

variable {hooks} {e : ε} (he : e ≠ hooks.malformed)
include he

/-- A list of elements stops where one of them does, unless it is malformed. -/
theorem scanList_eq_error_iff {α : Type} {close : Char} (hclose : close ≠ ',')
    {element : Text → Except ε (α × Text)} {fuel : ℕ} {t : Text} :
    hooks.scanList close element fuel t = .error e ↔
      ∃ n < fuel, ∃ u, elementAt element n t = some u ∧ element u = .error e := by
  induction fuel generalizing t with
  | zero => simp [scanList, he.symm]
  | succ fuel ih =>
    rw [Nat.exists_lt_succ_left]
    cases hfirst : element t with
    | error e' => simp [scanList, elementAt, hfirst, bind, Except.bind, Except.toOption]
    | ok first =>
      obtain ⟨first, rest⟩ := first
      cases hend : expect close rest with
      | some rest' =>
        simp [scanList, elementAt, hfirst, hend, expect_other hend hclose, bind, Except.bind,
          Except.toOption]
      | none =>
        cases hcomma : expect ',' rest with
        | none =>
          simp [scanList, elementAt, hfirst, hend, need, hcomma, bind, Except.bind,
            Except.toOption, he.symm]
        | some rest' =>
          have hrest := @ih (rest'.dropWhile isJsonSpace)
          simp only [scanList, elementAt, hfirst, hend, need, hcomma, bind, Except.bind,
            Except.toOption, Option.elim_some, Option.bind_some]
          rw [← hrest]
          cases hooks.scanList close element fuel (rest'.dropWhile isJsonSpace) <;> simp [hfirst]

omit he in
theorem scanItem_eq_error_iff {value : Text → Except ε (Json × Text)} {t : Text} :
    scanItem value t = .error e ↔ value t = .error e := by
  cases h : value t <;> simp [scanItem, h, bind, Except.bind]

theorem scanMember_eq_error_iff {value : Text → Except ε (Json × Text)} {t : Text} :
    hooks.scanMember value t = .error e ↔ ∃ v, memberValue t = some v ∧ value v = .error e := by
  simp only [scanMember, memberValue, need, bind, Except.bind]
  cases expect '"' t with
  | none => simp [he.symm]
  | some rest =>
    cases hname : scanString rest with
    | none => simp [hname, he.symm]
    | some name =>
      cases hcolon : expect ':' (name.2.dropWhile isJsonSpace) with
      | none => simp [hname, hcolon, he.symm]
      | some rest =>
        cases hvalue : value (rest.dropWhile isJsonSpace) <;> simp [hname, hcolon, hvalue]

theorem scanArray_eq_error_iff {value : Text → Except ε (Json × Text)} {t : Text} :
    hooks.scanArray value t = .error e ↔ expect ']' (t.dropWhile isJsonSpace) = none ∧
      ∃ n < (t.dropWhile isJsonSpace).length, ∃ v,
        elementAt (scanItem value) n (t.dropWhile isJsonSpace) = some v ∧ value v = .error e := by
  rw [scanArray]
  cases expect ']' (t.dropWhile isJsonSpace) with
  | some rest => simp
  | none =>
    have hlist := @scanList_eq_error_iff _ hooks e he _ ']' (by decide) (scanItem value)
      (t.dropWhile isJsonSpace).length (t.dropWhile isJsonSpace)
    simp only [scanItem_eq_error_iff] at hlist
    rw [← hlist]
    cases hooks.scanList ']' (scanItem value) _ (t.dropWhile isJsonSpace) <;> simp [Except.map]

theorem scanOnce_eq_error_iff {nested : Option (Text → Except ε (Json × Text))} {t : Text} :
    hooks.scanOnce nested t = .error e ↔ Plain t ∧ hooks.scanPlain t = .error e ∨
      nested = none ∧ Opens t ∧ hooks.tooDeep = e ∨
      ∃ value, nested = some value ∧ ∃ rest,
        (expect '\x7b' t = some rest ∧ hooks.scanObject value rest = .error e ∨
          expect '[' t = some rest ∧ hooks.scanArray value rest = .error e) := by
  rw [scanOnce, Plain, Opens]
  cases hquote : expect '"' t with
  | some rest =>
    have hbrace := expect_other hquote (d := '\x7b') (by decide)
    have hbracket := expect_other hquote (d := '[') (by decide)
    cases hstring : scanString rest <;> simp [hstring, hbrace, hbracket, he.symm]
  | none =>
    cases hbrace : expect '\x7b' t with
    | some rest =>
      have hbracket := expect_other hbrace (d := '[') (by decide)
      cases nested <;> simp [hbracket]
    | none => cases hbracket : expect '[' t <;> cases nested <;> simp

variable (hobject : ∀ members, hooks.object members ≠ .error e)
include hobject

theorem scanObject_eq_error_iff {value : Text → Except ε (Json × Text)} {t : Text} :
    hooks.scanObject value t = .error e ↔ expect '\x7d' (t.dropWhile isJsonSpace) = none ∧
      ∃ n < (t.dropWhile isJsonSpace).length, ∃ w,
        elementAt (hooks.scanMember value) n (t.dropWhile isJsonSpace) = some w ∧
          ∃ v, memberValue w = some v ∧ value v = .error e := by
  have hbuilt (members : List (Text × Json)) (rest : Text) :
      (hooks.object members).map (·, rest) ≠ .error e := by
    have h := hobject members
    cases hmade : hooks.object members <;> simp_all [Except.map]
  rw [scanObject]
  cases expect '\x7d' (t.dropWhile isJsonSpace) with
  | some rest => simp [bind, Except.bind, hbuilt]
  | none =>
    have hlist := @scanList_eq_error_iff _ hooks e he _ '\x7d' (by decide) (hooks.scanMember value)
      (t.dropWhile isJsonSpace).length (t.dropWhile isJsonSpace)
    simp only [scanMember_eq_error_iff he] at hlist
    rw [← hlist]
    cases hooks.scanList '\x7d' (hooks.scanMember value) _ (t.dropWhile isJsonSpace) <;>
      simp [bind, Except.bind, hbuilt]

/-- An error that neither a malformed text nor an object makes is that of a bracket with no
level left for it, or that of a number or a word. -/
theorem scan_eq_error_iff {depth : ℕ} {t : Text} :
    hooks.scan depth t = .error e ↔ ∃ left u, hooks.Visits depth t left u ∧
      (left = 0 ∧ Opens u ∧ hooks.tooDeep = e ∨ Plain u ∧ hooks.scanPlain u = .error e) := by
  -- on the levels that are left: a bracket takes one
  induction depth generalizing t with
  | zero =>
    rw [scan, scanOnce_eq_error_iff he]
    constructor
    · rintro (hplain | ⟨-, hopens⟩ | ⟨value, hnested, -⟩)
      · exact ⟨0, t, .here, .inr hplain⟩
      · exact ⟨0, t, .here, .inl ⟨rfl, hopens⟩⟩
      · cases hnested
    · rintro ⟨left, u, hvisits, hstop⟩
      cases hvisits
      rcases hstop with ⟨-, hopens⟩ | hplain
      · exact .inr (.inl ⟨rfl, hopens⟩)
      · exact .inl hplain
  | succ depth ih =>
    rw [scan, scanOnce_eq_error_iff he]
    constructor
    · rintro (hplain | ⟨hnested, -⟩ | ⟨value, hnested, rest, ⟨hopen, h⟩ | ⟨hopen, h⟩⟩)
      · exact ⟨depth + 1, t, .here, .inr hplain⟩
      · cases hnested
      · cases hnested
        obtain ⟨hmembers, n, hn, w, hw, v, hv, h⟩ := (scanObject_eq_error_iff he hobject).1 h
        obtain ⟨left, u, hvisits, hstop⟩ := ih.1 h
        exact ⟨left, u, .member hopen hmembers hn hw hv hvisits, hstop⟩
      · cases hnested
        obtain ⟨hitems, n, hn, v, hv, h⟩ := (scanArray_eq_error_iff he).1 h
        obtain ⟨left, u, hvisits, hstop⟩ := ih.1 h
        exact ⟨left, u, .item hopen hitems hn hv hvisits, hstop⟩
    · rintro ⟨left, u, hvisits, hstop⟩
      cases hvisits with
      | here => exact .inl (hstop.resolve_left fun h => absurd h.1 (Nat.succ_ne_zero depth))
      | item hopen hitems hn hv hvisits =>
        exact .inr (.inr ⟨_, rfl, _, .inr ⟨hopen, (scanArray_eq_error_iff he).2
          ⟨hitems, _, hn, _, hv, ih.2 ⟨left, u, hvisits, hstop⟩⟩⟩⟩)
      | member hopen hmembers hn hw hv hvisits =>
        exact .inr (.inr ⟨_, rfl, _, .inl ⟨hopen, (scanObject_eq_error_iff he hobject).2
          ⟨hmembers, _, hn, _, hw, _, hv, ih.2 ⟨left, u, hvisits, hstop⟩⟩⟩⟩)

/-- See `scan_eq_error_iff`; the white space around the value stops no reader. -/
theorem read_eq_error_iff {depth : ℕ} {t : Text} :
    hooks.read depth t = .error e ↔ ∃ left u,
      hooks.Visits depth (t.dropWhile isJsonSpace) left u ∧
        (left = 0 ∧ Opens u ∧ hooks.tooDeep = e ∨ Plain u ∧ hooks.scanPlain u = .error e) := by
  rw [← scan_eq_error_iff he hobject, read]
  cases hooks.scan depth (t.dropWhile isJsonSpace) with
  | error e' => simp [bind, Except.bind]
  | ok value =>
    simp only [bind, Except.bind, reduceCtorEq, iff_false]
    split <;> simp [he.symm]

end Errors

end JsonHooks

end PrismInfer.Lib
