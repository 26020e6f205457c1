import PrismInfer.Validation.C2ClearanceReceipt

/-!
# Printed receipts

What the parser makes of a printed receipt. A line whose value is escaped, a number or a
boolean is read as what was printed. A line whose string is printed as it is may be read
as several members, and as a string with other characters than the printed ones.

The validator excludes both. Nothing reaches over the end of a line (`members_cut`), so
every line gives a member at least, and the number of fields leaves one for each
(`lines_read`). The strings that are printed as they are have formats without any
character that an escape stands for, so they were read as printed (`raw_of_unescaped`).
-/

namespace PrismInfer.Validation

open PrismInfer.Lib

/-! ## Strings -/

/-- The character stands for itself in a string. -/
def isPlain (c : Char) : Bool :=
  c != '"' && !(c < ' ') && c != '\\'

theorem stringBody_of_plain {text : List Char} (h : ∀ c ∈ text, isPlain c = true)
    (rest : List Char) : stringBody (text ++ '"' :: rest) = some (text, rest) := by
  induction text with
  | nil => exact stringBody_quote
  | cons c text ih =>
    have hc := h c List.mem_cons_self
    simp only [isPlain, Bool.and_eq_true, bne_iff_ne, Bool.not_eq_true', decide_eq_false_iff_not]
      at hc
    rw [List.cons_append, stringBody_plain hc.1.1 hc.1.2 hc.2,
      ih fun d hd => h d (List.mem_cons_of_mem _ hd)]
    rfl

/-- A string that is printed with escapes may contain the character. -/
def isPrintable (c : Char) : Bool :=
  !(c < ' ') || c == '\n' || c == '\r' || c == '\t'

theorem stringBody_escapedChar (c : Char) (rest : List Char) : stringBody (escapedChar c ++ rest) =
      if isPrintable c then (stringBody rest).map fun body => (c :: body.1, body.2)
      else none := by
  unfold escapedChar
  split
  -- the five characters that have an escape
  case h_6 hslash hquote hn hr ht =>
    rw [List.singleton_append]
    by_cases hc : c < ' '
    · rw [stringBody_control hquote hc, if_neg]
      simp only [isPrintable, hc, decide_true, Bool.not_true, Bool.false_or, Bool.or_eq_true,
        beq_iff_eq]
      rintro ((h | h) | h)
      · exact hn h
      · exact hr h
      · exact ht h
    · rw [stringBody_plain hquote hc hslash, if_pos]
      simp [isPrintable, hc]
  all_goals
    rw [List.cons_append, List.singleton_append, stringBody_escape, if_pos (by decide)]
    rfl

/-- **Escapes.** A string that is printed with escapes is read back, or not read at all. -/
theorem stringBody_escaped (text rest : List Char) : stringBody (escaped text ++ '"' :: rest) =
      if text.all isPrintable then some (text, rest) else none := by
  induction text with
  | nil => exact stringBody_quote
  | cons c text ih =>
    rw [escaped, List.flatMap_cons, List.append_assoc, stringBody_escapedChar, ← escaped, ih,
      List.all_cons]
    cases isPrintable c <;> cases text.all isPrintable <;> rfl

/-- An escape stands for the character. -/
def isEscapable (c : Char) : Bool :=
  ['"', '\\', '/', '\n', '\r', '\t'].contains c

theorem isEscapable_of_unescape {e d : Char} (h : unescape e = some d) : isEscapable d = true := by
  unfold unescape at h
  split at h <;> cases h <;> rfl

/-- A string in which no escape was read was printed as it is. -/
theorem raw_of_unescaped : ∀ {text body : List Char},
    stringBody (text ++ ['"']) = some (body, []) → (∀ c ∈ body, isEscapable c = false) →
    text = body
  | [], body, h, _ => by
    rw [List.nil_append, stringBody_quote] at h
    cases h
    rfl
  | c :: text, body, h, hbody => by
    rw [List.cons_append] at h
    by_cases hquote : c = '"'
    · -- a quote would end the string before its end
      rw [hquote, stringBody_quote, Option.some_inj, Prod.mk.injEq] at h
      simp at h
    by_cases hc : c < ' '
    · rw [stringBody_control hquote hc] at h
      cases h
    by_cases hslash : c = '\\'
    · obtain ⟨e, rest, hrest⟩ := List.exists_cons_of_ne_nil (show text ++ ['"'] ≠ [] by simp)
      rw [hslash, hrest, stringBody_escape] at h
      obtain ⟨d, hd, h⟩ := Option.bind_eq_some_iff.1 h
      obtain ⟨⟨tail, after⟩, -, heq⟩ := Option.map_eq_some_iff.1 h
      cases heq
      have hclear := hbody d List.mem_cons_self
      rw [isEscapable_of_unescape hd] at hclear
      cases hclear
    rw [stringBody_plain hquote hc hslash] at h
    obtain ⟨⟨tail, after⟩, htail, heq⟩ := Option.map_eq_some_iff.1 h
    cases heq
    rw [raw_of_unescaped htail fun d hd => hbody d (List.mem_cons_of_mem _ hd)]

theorem parseJsonString_quote (rest : List Char) : parseJsonString ('"' :: rest) =
    (stringBody rest).map fun body => (String.ofList body.1, body.2) := by
  rw [parseJsonString]
  rfl

/-! ## Values -/

theorem parseJsonLiteral_quote (rest : List Char) : parseJsonLiteral ('"' :: rest) =
    (stringBody rest).map fun body => (⟨String.ofList body.1, .string⟩, body.2) := by
  rw [parseJsonLiteral]
  rfl

theorem parseJsonLiteral_boolean (value : Bool) (rest : List Char) :
    parseJsonLiteral ((booleanText value).toList ++ rest) =
      some (⟨booleanText value, .boolean⟩, rest) := by
  cases value <;> rfl

/-- A digit, or the minus sign. -/
def isNumberChar (c : Char) : Bool :=
  c.isDigit || c == '-'

theorem isNumberChar_toString (i : ℤ) :
    (toString i).toList ≠ [] ∧ ∀ c ∈ (toString i).toList, isNumberChar c = true := by
  have hdigits : ∀ n, ∀ c ∈ Nat.toDigits 10 n, isNumberChar c = true := by
    intro n c hc
    rw [isNumberChar, Nat.isDigit_of_mem_toDigits (by decide) (by decide) hc, Bool.true_or]
  cases i with
  | ofNat n =>
    rw [toList_toString_ofNat]
    exact ⟨Nat.toDigits_ne_nil, hdigits n⟩
  | negSucc n =>
    rw [toList_toString_negSucc]
    refine ⟨List.cons_ne_nil _ _, ?_⟩
    intro c hc
    rcases List.mem_cons.1 hc with rfl | hc
    · rfl
    · exact hdigits _ c hc

theorem parseUnsigned_toString {bits n : ℕ} (h : n < 2 ^ bits) :
    parseUnsigned bits ⟨toString (n : ℤ), .number⟩ = some n := by
  have htext : (toString (n : ℤ)).toList = Nat.toDigits 10 n := toList_toString_ofNat n
  rw [parseUnsigned]
  dsimp only
  rw [htext, digitsValue_toDigits, if_pos ⟨rfl, isNumeral_toDigits n, h⟩]

variable {c : Char}

theorem endsNumber_of_isNumberChar (h : isNumberChar c = true) : endsNumber c = false := by
  rw [isNumberChar, Bool.or_eq_true, beq_iff_eq] at h
  rcases h with hdigit | rfl
  · have hcomma : c ≠ ',' := by
      rintro rfl
      exact absurd hdigit (by decide)
    have hbrace : c ≠ '\x7d' := by
      rintro rfl
      exact absurd hdigit (by decide)
    simp [endsNumber, hcomma, hbrace, isSpace_of_isDigit hdigit]
  · decide

theorem parseJsonLiteral_number (i : ℤ) (hc : endsNumber c = true) (rest : List Char) :
    parseJsonLiteral ((toString i).toList ++ c :: rest) =
      some (⟨toString i, .number⟩, c :: rest) := by
  obtain ⟨hne, hchars⟩ := isNumberChar_toString i
  have hrun := @takeWhile_append_boundary (fun c => !endsNumber c) (toString i).toList (c :: rest)
    (fun d hd => by rw [endsNumber_of_isNumberChar (hchars d hd)]; rfl)
    (fun d hd => by cases hd; simp [hc])
  obtain ⟨d, digits, htext⟩ := List.exists_cons_of_ne_nil hne
  have hd : isNumberChar d = true := hchars d (htext ▸ List.mem_cons_self)
  -- no other value starts like a number
  have hother : ∀ e, isNumberChar e = false → d ≠ e := by
    rintro e he rfl
    rw [hd] at he
    cases he
  have hend := endsNumber_of_isNumberChar hd
  have hspace : isSpace d = false := by
    rw [endsNumber, Bool.or_eq_false_iff] at hend
    exact hend.2
  rw [htext, List.cons_append] at hrun ⊢
  rw [parseJsonLiteral, skipSpace, List.dropWhile_cons_of_neg (by simp [hspace])]
  dsimp only
  rw [if_neg (hother _ (by decide)), if_neg, if_neg, if_neg, if_neg (by simp [hend]), hrun.1,
    hrun.2, ← htext, String.ofList_toList]
  · rintro (h | h)
    · exact hother _ (by decide) h
    · exact hother _ (by decide) h
  · intro h
    exact hother _ (by decide) (List.cons_prefix_cons.1 h).1.symm
  · intro h
    exact hother _ (by decide) (List.cons_prefix_cons.1 h).1.symm

/-- The parser reads the value as it was printed. -/
def Readable : Printed → Prop
  | .raw text => ∀ c ∈ text.toList, isPlain c = true
  | .escaped text => ∀ c ∈ text.toList, isPrintable c = true
  | .number _ => True
  | .boolean _ => True

variable {p : Printed}

theorem parseJsonLiteral_render (hp : Readable p) (hc : endsNumber c = true) (rest : List Char) :
    parseJsonLiteral (p.render ++ c :: rest) = some (p.value, c :: rest) := by
  cases p with
  | raw text =>
    rw [Printed.render, List.cons_append, List.append_assoc, List.singleton_append,
      parseJsonLiteral_quote, stringBody_of_plain hp, Option.map_some, String.ofList_toList]
    rfl
  | escaped text =>
    rw [Printed.render, List.cons_append, List.append_assoc, List.singleton_append,
      parseJsonLiteral_quote, stringBody_escaped, if_pos (List.all_eq_true.2 hp), Option.map_some,
      String.ofList_toList]
    rfl
  | number i => exact parseJsonLiteral_number i hc rest
  | boolean value => exact parseJsonLiteral_boolean value _

/-- Whatever is read of a value that is not printed as it is, is what was printed. -/
theorem eq_of_parseJsonLiteral_render (hp : ∀ text, p ≠ .raw text) (hc : endsNumber c = true)
    {rest : List Char} {result : FlatJsonValue × List Char}
    (h : parseJsonLiteral (p.render ++ c :: rest) = some result) :
    result = (p.value, c :: rest) := by
  have hread : Readable p := by
    cases p with
    | raw text => exact absurd rfl (hp text)
    | escaped text =>
      rw [Printed.render, List.cons_append, List.append_assoc, List.singleton_append,
        parseJsonLiteral_quote, stringBody_escaped] at h
      split at h
      · rename_i hall
        exact List.all_eq_true.1 hall
      · cases h
    | number i => trivial
    | boolean value => trivial
  rw [parseJsonLiteral_render hread hc, Option.some_inj] at h
  exact h.symm

/-! ## Lines -/

/-- What a line is read as, when it is read as one member. -/
def ReadAs : Printed → FlatJsonValue → Prop
  | .raw text, value => ∃ body, stringBody (text.toList ++ ['"']) = some (body, []) ∧
      value = ⟨String.ofList body, .string⟩
  | p, value => value = p.value

theorem readAs_of_ne_raw (hp : ∀ text, p ≠ .raw text) : ReadAs p p.value := by
  cases p with
  | raw text => exact absurd rfl (hp text)
  | escaped text => rfl
  | number i => rfl
  | boolean value => rfl

/-- The key needs no escapes. -/
def PlainKey (line : String × Printed) : Prop :=
  ∀ c ∈ line.1.toList, isPlain c = true

theorem parseMember_line {line : String × Printed} (hkey : PlainKey line) (rest : List Char) :
    parseMember ('\n' :: (printLine line ++ rest)) =
      (parseJsonLiteral (line.2.render ++ rest)).map fun value =>
        ((line.1, value.1), value.2) := by
  have htext : printLine line ++ rest =
      ' ' :: ' ' :: '"' :: (line.1.toList ++ '"' :: ':' :: (line.2.render ++ rest)) := by
    simp [printLine]
  rw [htext, parseMember_space (by decide), parseMember_space (by decide),
    parseMember_space (by decide)]
  have hstring : parseJsonString ('"' :: (line.1.toList ++ '"' :: ':' :: (line.2.render ++ rest))) =
      some (line.1, ':' :: (line.2.render ++ rest)) := by
    rw [parseJsonString_quote, stringBody_of_plain hkey, Option.map_some, String.ofList_toList]
  rw [parseMember, hstring]
  rfl

variable {fuel : ℕ}

/-- One line: its own member, perhaps with others that its string contains, and the next
member starts on the next line. -/
theorem line_read {line : String × Printed} (hkey : PlainKey line) {fields result : FlatJsonFields}
    {rest : List Char}
    (h : parseMembers fuel fields ('\n' :: (printLine line ++ ',' :: '\n' :: rest)) = .ok result) :
    ∃ fuel' value more, (more = [] → ReadAs line.2 value) ∧
      parseMembers fuel' (fields ++ (line.1, value) :: more) ('\n' :: rest) = .ok result := by
  obtain ⟨fuel', member, after, -, hmember, -, hnext⟩ := parseMembers_eq_ok h
  rw [parseMember_line hkey] at hmember
  obtain ⟨value, hvalue, heq⟩ := Option.map_eq_some_iff.1 hmember
  cases heq
  -- a member that ends at the comma of its line
  have hone : value.2 = ',' :: '\n' :: rest → ReadAs line.2 value.1 →
      ∃ fuel' value more, (more = [] → ReadAs line.2 value) ∧
        parseMembers fuel' (fields ++ (line.1, value) :: more) ('\n' :: rest) = .ok result := by
    intro hend hread
    rw [hend] at hnext
    rcases hnext with ⟨tail, hclose, -⟩ | ⟨tail, hcomma, hmore⟩
    · cases hclose
    · cases hcomma
      exact ⟨fuel', value.1, [], fun _ => hread, hmore⟩
  by_cases hraw : ∃ text, line.2 = .raw text
  · obtain ⟨text, htext⟩ := hraw
    have hrender : line.2.render ++ ',' :: '\n' :: rest = '"' :: (text.toList ++ cut rest) := by
      simp [htext, Printed.render, cut]
    rw [hrender, parseJsonLiteral_quote] at hvalue
    obtain ⟨body, hbody, rfl⟩ := Option.map_eq_some_iff.1 hvalue
    rcases stringBody_cut _ hbody with ⟨hwhole, hend⟩ | ⟨before, hbefore⟩
    · refine hone hend ?_
      rw [htext]
      exact ⟨body.1, hwhole, rfl⟩
    · -- the string ended early: other members follow up to the end of the line
      rw [hbefore] at hnext
      obtain ⟨tail, htail⟩ := comma_of_cut hnext
      obtain ⟨fuel'', members, hne, hmembers⟩ := members_cut htail
      rw [List.append_assoc] at hmembers
      exact ⟨fuel'', _, members, fun hnil => absurd hnil hne, hmembers⟩
  · have hnot : ∀ text, line.2 ≠ .raw text := fun text htext => hraw ⟨text, htext⟩
    have heq := eq_of_parseJsonLiteral_render hnot (by decide) hvalue
    refine hone (congrArg Prod.snd heq) ?_
    rw [heq]
    exact readAs_of_ne_raw hnot

/-- A line and the member that it is read as. -/
def ReadLine (line : String × Printed) (member : String × FlatJsonValue) : Prop :=
  member.1 = line.1 ∧ ReadAs line.2 member.2

theorem printLines_cons_cons (line next : String × Printed) (lines : List (String × Printed)) :
    printLines (line :: next :: lines) ++ ['\x7d', '\n'] =
      printLine line ++ ',' :: '\n' :: (printLines (next :: lines) ++ ['\x7d', '\n']) := by
  rw [printLines, List.append_assoc]
  · rfl
  · exact List.cons_ne_nil _ _

variable {lines : List (String × Printed)}

/-- The first line starts with a key, and no line is empty. -/
theorem printLines_start (hne : lines ≠ []) :
    ∃ text, printLines lines ++ ['\x7d', '\n'] = ' ' :: ' ' :: '"' :: text ∧
      lines.length ≤ text.length := by
  induction lines with
  | nil => exact absurd rfl hne
  | cons line lines ih =>
    cases lines with
    | nil =>
      refine ⟨_, rfl, ?_⟩
      exact List.length_pos_of_ne_nil (by simp)
    | cons next lines =>
      obtain ⟨text, htext, hlength⟩ := ih (List.cons_ne_nil _ _)
      rw [printLines_cons_cons, htext, printLine, List.cons_append, List.cons_append,
        List.cons_append]
      refine ⟨_, rfl, ?_⟩
      simp only [List.length_cons, List.length_append] at hlength ⊢
      omega

/-- **Every line gives a member.** If there are no more members than lines, then each
line gives its own and no other. -/
theorem lines_read (hkeys : ∀ line ∈ lines, PlainKey line)
    (hlast : ∀ line ∈ lines.getLast?, ∀ text, line.2 ≠ .raw text) (hne : lines ≠ [])
    {fields result : FlatJsonFields}
    (h : parseMembers fuel fields ('\n' :: (printLines lines ++ ['\x7d', '\n'])) = .ok result) :
    ∃ read, result = fields ++ read ∧ lines.length ≤ read.length ∧
      (read.length = lines.length → List.Forall₂ ReadLine lines read) := by
  induction lines generalizing fuel fields with
  | nil => exact absurd rfl hne
  | cons line lines ih =>
    have hkey := hkeys line List.mem_cons_self
    cases lines with
    | nil =>
      rw [printLines, List.append_assoc] at h
      obtain ⟨fuel', member, after, -, hmember, -, hnext⟩ := parseMembers_eq_ok h
      rw [parseMember_line hkey] at hmember
      obtain ⟨value, hvalue, heq⟩ := Option.map_eq_some_iff.1 hmember
      cases heq
      have hnot := hlast line rfl
      obtain rfl := eq_of_parseJsonLiteral_render hnot (by decide) hvalue
      rcases hnext with ⟨tail, -, -, rfl⟩ | ⟨tail, hcomma, -⟩
      · refine ⟨_, rfl, le_rfl, fun _ => ?_⟩
        exact List.Forall₂.cons ⟨rfl, readAs_of_ne_raw hnot⟩ List.Forall₂.nil
      · cases hcomma
    | cons next lines =>
      rw [printLines_cons_cons] at h
      obtain ⟨fuel', value, more, hvalue, hmore⟩ := line_read hkey h
      obtain ⟨read, hresult, hlength, hread⟩ :=
        ih (fun line hline => hkeys line (List.mem_cons_of_mem _ hline)) hlast
          (List.cons_ne_nil _ _) hmore
      refine ⟨(line.1, value) :: (more ++ read), ?_, ?_, ?_⟩
      · rw [hresult, List.append_assoc]
        rfl
      · simp only [List.length_cons, List.length_append] at hlength ⊢
        omega
      · intro hcount
        simp only [List.length_cons, List.length_append] at hlength hcount
        have hnil : more = [] := List.length_eq_zero_iff.1 (by omega)
        subst hnil
        exact List.Forall₂.cons ⟨rfl, hvalue rfl⟩ (hread (by simp only [List.length_cons]; omega))

/-- The lines as they are printed, read one by one. -/
theorem lines_print (hkeys : ∀ line ∈ lines, PlainKey line)
    (hreadable : ∀ line ∈ lines, Readable line.2) (hne : lines ≠ []) (hfuel : lines.length ≤ fuel)
    {fields : FlatJsonFields} (hnodup : (fields.map Prod.fst ++ lines.map Prod.fst).Nodup) :
    parseMembers fuel fields ('\n' :: (printLines lines ++ ['\x7d', '\n'])) =
      .ok (fields ++ lines.map fun line => (line.1, line.2.value)) := by
  induction lines generalizing fuel fields with
  | nil => exact absurd rfl hne
  | cons line lines ih =>
    have hnew : line.1 ∉ fields.map Prod.fst := by
      intro hmem
      exact (List.nodup_append.1 hnodup).2.2 _ hmem _ List.mem_cons_self rfl
    have hread := hreadable line List.mem_cons_self
    obtain ⟨fuel, rfl⟩ : ∃ more, fuel = more + 1 :=
      ⟨fuel - 1, by rw [List.length_cons] at hfuel; omega⟩
    cases lines with
    | nil =>
      rw [printLines, List.append_assoc, parseMembers,
        parseMember_line (hkeys line List.mem_cons_self), List.singleton_append,
        parseJsonLiteral_render hread (by decide)]
      dsimp only [Option.map_some]
      rw [if_neg hnew]
      rfl
    | cons next lines =>
      rw [printLines_cons_cons, parseMembers, parseMember_line (hkeys line List.mem_cons_self),
        parseJsonLiteral_render hread (by decide)]
      dsimp only [Option.map_some]
      rw [if_neg hnew]
      show parseMembers fuel (fields ++ [(line.1, line.2.value)])
        ('\n' :: (printLines (next :: lines) ++ ['\x7d', '\n'])) = _
      rw [ih (fun line hline => hkeys line (List.mem_cons_of_mem _ hline))
        (fun line hline => hreadable line (List.mem_cons_of_mem _ hline)) (List.cons_ne_nil _ _)
        (by simpa using hfuel) (by simpa using hnodup), List.append_assoc]
      rfl

/-- The parser on an object that is printed line by line. -/
theorem parseFlatJsonObject_lines (hne : lines ≠ []) : ∃ fuel, lines.length ≤ fuel ∧
      parseFlatJsonObject ('\x7b' :: '\n' :: (printLines lines ++ ['\x7d', '\n'])) =
        parseMembers fuel [] ('\n' :: (printLines lines ++ ['\x7d', '\n'])) := by
  obtain ⟨text, htext, hlength⟩ := printLines_start hne
  refine ⟨('"' :: text).length + 1, hlength.trans (by simp only [List.length_cons]; omega), ?_⟩
  have hspace : isSpace ' ' = true := by decide
  rw [htext, parseMembers_space (by decide), parseMembers_space hspace, parseMembers_space hspace]
  rfl

end PrismInfer.Validation
