import PrismInfer.Lib.TextStream

/-!
# The flat JSON parser

`parse_flat_json_object` (src/benchmark/flat_json.cpp): one object whose values are
strings, booleans and everything else, which is called a number. A `std::string` is the
list of its bytes as characters; a position in it is what is left of the text.

A printer that puts every member on a line of its own ends the line of a string with a
quote, a comma and a newline, the `cut`. A parse that gets over the cut starts a new member
right behind it, whatever stands before the cut (`members_cut`).
-/

namespace PrismInfer.Validation

open PrismInfer.Lib

/-! ## The parser -/

/-- `FlatJsonValue::Kind`. -/
inductive FlatJsonKind
  | string
  | number
  | boolean
  deriving DecidableEq

/-- `FlatJsonValue`. -/
structure FlatJsonValue where
  text : String
  kind : FlatJsonKind
  deriving DecidableEq

/-- The fields of a `FlatJsonResult`, in the order of the text. -/
abbrev FlatJsonFields := List (String × FlatJsonValue)

/-- `skip_ws`. -/
def skipSpace (text : List Char) : List Char :=
  text.dropWhile isSpace

/-- The character behind a backslash. -/
def unescape : Char → Option Char
  | '"' => some '"'
  | '\\' => some '\\'
  | '/' => some '/'
  | 'n' => some '\n'
  | 'r' => some '\r'
  | 't' => some '\t'
  | _ => none

/-- A string after its opening quote, and what is left after the closing one. -/
def stringBody : List Char → Option (List Char × List Char)
  | [] => none
  | c :: rest =>
    if c = '"' then some ([], rest)
    else if c < ' ' then none
    else if c = '\\' then
      match rest with
      | [] => none
      | e :: rest =>
        match unescape e with
        | none => none
        | some d => (stringBody rest).map fun body => (d :: body.1, body.2)
    else (stringBody rest).map fun body => (c :: body.1, body.2)

/-- `parse_json_string`. -/
def parseJsonString (text : List Char) : Option (String × List Char) :=
  match skipSpace text with
  | '"' :: rest => (stringBody rest).map fun body => (String.ofList body.1, body.2)
  | _ => none

/-- A number ends here. -/
def endsNumber (c : Char) : Bool :=
  c == ',' || c == '\x7d' || isSpace c

/-- `parse_json_literal`. -/
def parseJsonLiteral (text : List Char) : Option (FlatJsonValue × List Char) :=
  match skipSpace text with
  | [] => none
  | c :: rest =>
    if c = '"' then (stringBody rest).map fun body => (⟨String.ofList body.1, .string⟩, body.2)
    else if ['t', 'r', 'u', 'e'] <+: c :: rest then some (⟨"true", .boolean⟩, (c :: rest).drop 4)
    else if ['f', 'a', 'l', 's', 'e'] <+: c :: rest then
      some (⟨"false", .boolean⟩, (c :: rest).drop 5)
    else if c = '\x7b' ∨ c = '[' then none
    else if endsNumber c then none
    else some (⟨String.ofList ((c :: rest).takeWhile fun c => !endsNumber c), .number⟩,
      (c :: rest).dropWhile fun c => !endsNumber c)

/-- One member: a key, a colon and a value. -/
def parseMember (text : List Char) : Option ((String × FlatJsonValue) × List Char) :=
  match parseJsonString text with
  | none => none
  | some (key, rest) =>
    match skipSpace rest with
    | ':' :: rest => (parseJsonLiteral rest).map fun value => ((key, value.1), value.2)
    | _ => none

def malformed : String := "manifest_json_malformed"

/-- The end of the object: nothing but white space may follow. -/
def parseEnd (fields : FlatJsonFields) (rest : List Char) : Except String FlatJsonFields :=
  if skipSpace rest = [] then .ok fields else .error malformed

/-- The loop over the members. Every member takes at least one character, so the length
of the text is enough fuel. -/
def parseMembers : ℕ → FlatJsonFields → List Char → Except String FlatJsonFields
  | 0, _, _ => .error malformed
  | fuel + 1, fields, text =>
    match parseMember text with
    | none => .error malformed
    | some (member, rest) =>
      if member.1 ∈ fields.map Prod.fst then .error ("duplicate_field:" ++ member.1)
      else
      match skipSpace rest with
      | '\x7d' :: rest => parseEnd (fields ++ [member]) rest
      | ',' :: rest => parseMembers fuel (fields ++ [member]) rest
      | _ => .error malformed

/-- `parse_flat_json_object`. -/
def parseFlatJsonObject (json : List Char) : Except String FlatJsonFields :=
  match skipSpace json with
  | '\x7b' :: rest =>
    match skipSpace rest with
    | '\x7d' :: rest => parseEnd [] rest
    | rest => parseMembers (rest.length + 1) [] rest
  | _ => .error malformed

/-! ## Strings -/

section Strings

variable {rest : List Char}

theorem stringBody_quote : stringBody ('"' :: rest) = some ([], rest) := by
  rw [stringBody.eq_def]
  exact if_pos rfl

variable {c : Char}

theorem stringBody_control (hquote : c ≠ '"') (hc : c < ' ') : stringBody (c :: rest) = none := by
  rw [stringBody.eq_def]
  dsimp only
  rw [if_neg hquote, if_pos hc]

theorem stringBody_escape (e : Char) : stringBody ('\\' :: e :: rest) =
    (unescape e).bind fun d => (stringBody rest).map fun body => (d :: body.1, body.2) := by
  rw [stringBody.eq_def]
  dsimp only
  rw [if_neg (by decide), if_neg (by decide), if_pos rfl]
  cases unescape e <;> rfl

theorem stringBody_plain (hquote : c ≠ '"') (hc : ¬c < ' ') (hslash : c ≠ '\\') :
    stringBody (c :: rest) = (stringBody rest).map fun body => (c :: body.1, body.2) := by
  rw [stringBody.eq_def]
  dsimp only
  rw [if_neg hquote, if_neg hc, if_neg hslash]

/-- The end of a printed string member, and what follows it. -/
def cut (rest : List Char) : List Char :=
  '"' :: ',' :: '\n' :: rest

/-- No string starts at the comma of a cut: it would contain the newline. -/
theorem stringBody_comma : stringBody (',' :: '\n' :: rest) = none := by
  rw [stringBody_plain (by decide) (by decide) (by decide),
    stringBody_control (by decide) (by decide)]
  rfl

/-- A string that starts before the cut is closed by the quote of the cut, or before it. -/
theorem stringBody_cut : ∀ (text : List Char) {rest : List Char} {body : List Char × List Char},
    stringBody (text ++ cut rest) = some body →
    (stringBody (text ++ ['"']) = some (body.1, []) ∧ body.2 = ',' :: '\n' :: rest) ∨
      ∃ after, body.2 = after ++ cut rest
  | [], rest, body, h => by
    rw [List.nil_append, cut, stringBody_quote] at h
    cases h
    exact .inl ⟨stringBody_quote, rfl⟩
  | [c], rest, body, h => by
    rw [List.singleton_append] at h
    by_cases hquote : c = '"'
    · rw [hquote, stringBody_quote] at h
      cases h
      exact .inr ⟨[], rfl⟩
    by_cases hc : c < ' '
    · rw [stringBody_control hquote hc] at h
      cases h
    by_cases hslash : c = '\\'
    · -- the quote of the cut is escaped, and the string goes on over the newline
      rw [hslash, cut, stringBody_escape, stringBody_comma] at h
      cases h
    rw [stringBody_plain hquote hc hslash, cut, stringBody_quote] at h
    cases h
    refine .inl ⟨?_, rfl⟩
    rw [List.singleton_append, stringBody_plain hquote hc hslash, stringBody_quote]
    rfl
  | c :: e :: text, rest, body, h => by
    rw [List.cons_append] at h
    by_cases hquote : c = '"'
    · rw [hquote, stringBody_quote] at h
      cases h
      exact .inr ⟨e :: text, rfl⟩
    by_cases hc : c < ' '
    · rw [stringBody_control hquote hc] at h
      cases h
    by_cases hslash : c = '\\'
    · rw [hslash, List.cons_append, stringBody_escape] at h
      obtain ⟨d, hd, h⟩ := Option.bind_eq_some_iff.1 h
      obtain ⟨tail, htail, rfl⟩ := Option.map_eq_some_iff.1 h
      refine (stringBody_cut text htail).imp ?_ id
      rintro ⟨hbody, hrest⟩
      refine ⟨?_, hrest⟩
      rw [hslash, List.cons_append, List.cons_append, stringBody_escape, hd, hbody]
      rfl
    rw [stringBody_plain hquote hc hslash] at h
    obtain ⟨tail, htail, rfl⟩ := Option.map_eq_some_iff.1 h
    refine (stringBody_cut (e :: text) htail).imp ?_ id
    rintro ⟨hbody, hrest⟩
    refine ⟨?_, hrest⟩
    rw [List.cons_append, stringBody_plain hquote hc hslash, hbody]
    rfl

end Strings

/-! ## Inversion -/

variable {text : List Char}

theorem parseJsonString_eq_some {result : String × List Char}
    (h : parseJsonString text = some result) :
    ∃ rest body, skipSpace text = '"' :: rest ∧ stringBody rest = some body ∧
      result = (String.ofList body.1, body.2) := by
  unfold parseJsonString at h
  split at h
  · rename_i rest htext
    obtain ⟨body, hbody, rfl⟩ := Option.map_eq_some_iff.1 h
    exact ⟨rest, body, htext, hbody, rfl⟩
  · cases h

theorem parseMember_eq_some {result : (String × FlatJsonValue) × List Char}
    (h : parseMember text = some result) :
    ∃ key rest rest' value, parseJsonString text = some (key, rest) ∧
      skipSpace rest = ':' :: rest' ∧ parseJsonLiteral rest' = some value ∧
      result = ((key, value.1), value.2) := by
  unfold parseMember at h
  split at h
  · cases h
  rename_i key rest hkey
  split at h
  · rename_i rest' hcolon
    obtain ⟨value, hvalue, rfl⟩ := Option.map_eq_some_iff.1 h
    exact ⟨key, rest, rest', value, hkey, hcolon, hvalue, rfl⟩
  · cases h

/-- One pass of the loop: a new member, and then the end or a comma. -/
theorem parseMembers_eq_ok {fuel : ℕ} {fields result : FlatJsonFields}
    (h : parseMembers fuel fields text = .ok result) :
    ∃ fuel' member rest, fuel = fuel' + 1 ∧ parseMember text = some (member, rest) ∧
      member.1 ∉ fields.map Prod.fst ∧
      ((∃ after, skipSpace rest = '\x7d' :: after ∧ skipSpace after = [] ∧
          result = fields ++ [member]) ∨
        ∃ after, skipSpace rest = ',' :: after ∧
          parseMembers fuel' (fields ++ [member]) after = .ok result) := by
  cases fuel with
  | zero => cases h
  | succ fuel =>
    rw [parseMembers] at h
    split at h
    · cases h
    rename_i member rest hmember
    split at h
    · cases h
    rename_i hnew
    refine ⟨fuel, member, rest, rfl, hmember, hnew, ?_⟩
    split at h
    · rename_i after hend
      rw [parseEnd] at h
      split at h
      · rename_i hempty
        cases h
        exact .inl ⟨after, hend, hempty, rfl⟩
      · cases h
    · rename_i after hcomma
      exact .inr ⟨after, hcomma, h⟩
    · cases h

/-! ## Fields under their keys -/

theorem lookup_of_mem {json : FlatJsonFields} (hnodup : (json.map Prod.fst).Nodup) {key : String}
    {value : FlatJsonValue} (h : (key, value) ∈ json) : json.lookup key = some value := by
  induction json with
  | nil => cases h
  | cons member json ih =>
    rw [List.map_cons, List.nodup_cons] at hnodup
    rcases List.mem_cons.1 h with rfl | h
    · rw [List.lookup_cons, beq_self_eq_true]
    · have hne : (key == member.1) = false := by
        rw [beq_eq_false_iff_ne]
        rintro rfl
        exact hnodup.1 (List.mem_map.2 ⟨_, h, rfl⟩)
      rw [List.lookup_cons, hne]
      exact ih hnodup.2 h

theorem mem_of_lookup {json : FlatJsonFields} {key : String} {value : FlatJsonValue}
    (h : json.lookup key = some value) : (key, value) ∈ json := by
  obtain ⟨before, after, rfl, -⟩ := List.lookup_eq_some_iff.1 h
  exact List.mem_append_right _ List.mem_cons_self

/-! ## White space before a member -/

theorem parseMember_space (hc : isSpace c = true) (text : List Char) :
    parseMember (c :: text) = parseMember text := by
  have hskip : skipSpace (c :: text) = skipSpace text := List.dropWhile_cons_of_pos hc
  rw [parseMember, parseJsonString, hskip]
  rfl

theorem parseMembers_space (hc : isSpace c = true) (fuel : ℕ) (fields : FlatJsonFields)
    (text : List Char) : parseMembers fuel fields (c :: text) = parseMembers fuel fields text := by
  cases fuel with
  | zero => rfl
  | succ fuel => rw [parseMembers, parseMembers, parseMember_space hc]

/-! ## Members before a cut -/

section Cut

variable {text rest : List Char}

theorem skipSpace_cut (text rest : List Char) :
    skipSpace (text ++ cut rest) = skipSpace text ++ cut rest := by
  have hcut : (cut rest).dropWhile isSpace = cut rest := by
    rw [cut, List.dropWhile_cons_of_neg (by decide)]
  rw [skipSpace, List.dropWhile_append, hcut]
  split
  · rename_i hempty
    rw [skipSpace, List.isEmpty_iff.1 hempty, List.nil_append]
  · rfl

/-- A word without a quote does not reach over the cut. -/
theorem append_of_prefix_cut {word : List Char} (hword : '"' ∉ word)
    (h : word <+: text ++ cut rest) : ∃ after, text = word ++ after := by
  rcases List.prefix_or_prefix_of_prefix h (List.prefix_append text (cut rest)) with
    ⟨after, hafter⟩ | ⟨more, rfl⟩
  · exact ⟨after, hafter.symm⟩
  · rw [List.prefix_append_right_inj] at h
    cases more with
    | nil => exact ⟨[], by rw [List.append_nil, List.append_nil]⟩
    | cons c more =>
      rw [cut, List.cons_prefix_cons] at h
      refine absurd ?_ hword
      rw [h.1]
      exact List.mem_append_right _ List.mem_cons_self

/-- A value that starts before the cut ends at its comma, or before it. -/
theorem parseJsonLiteral_cut {result : FlatJsonValue × List Char}
    (h : parseJsonLiteral (text ++ cut rest) = some result) :
    result.2 = ',' :: '\n' :: rest ∨ ∃ after, result.2 = after ++ cut rest := by
  unfold parseJsonLiteral at h
  rw [skipSpace_cut] at h
  cases hstart : skipSpace text with
  | nil =>
    rw [hstart, List.nil_append, cut] at h
    dsimp only at h
    rw [if_pos rfl, stringBody_comma] at h
    cases h
  | cons c start =>
    rw [hstart, List.cons_append] at h
    dsimp only at h
    split at h
    · obtain ⟨body, hbody, rfl⟩ := Option.map_eq_some_iff.1 h
      exact (stringBody_cut start hbody).imp And.right id
    split at h
    · rename_i htrue
      rw [← List.cons_append] at htrue h
      obtain ⟨after, hafter⟩ := append_of_prefix_cut (by decide) htrue
      rw [hafter] at h
      cases h
      exact .inr ⟨after, rfl⟩
    split at h
    · rename_i hfalse
      rw [← List.cons_append] at hfalse h
      obtain ⟨after, hafter⟩ := append_of_prefix_cut (by decide) hfalse
      rw [hafter] at h
      cases h
      exact .inr ⟨after, rfl⟩
    split at h
    · cases h
    split at h
    · cases h
    -- a number runs up to the comma of the cut unless it ends before
    cases h
    rw [← List.cons_append, List.dropWhile_append]
    split
    · exact .inl rfl
    · exact .inr ⟨_, rfl⟩

theorem parseMember_cut {result : (String × FlatJsonValue) × List Char}
    (h : parseMember (text ++ cut rest) = some result) :
    result.2 = ',' :: '\n' :: rest ∨ ∃ after, result.2 = after ++ cut rest := by
  obtain ⟨key, keyRest, rest', value, hkey, hcolon, hvalue, rfl⟩ := parseMember_eq_some h
  obtain ⟨start, body, hstart, hbody, heq⟩ := parseJsonString_eq_some hkey
  cases heq
  rw [skipSpace_cut] at hstart
  cases htext : skipSpace text with
  | nil =>
    rw [htext] at hstart
    cases hstart
    rw [stringBody_comma] at hbody
    cases hbody
  | cons c after =>
    rw [htext] at hstart
    cases hstart
    rcases stringBody_cut after hbody with ⟨-, hend⟩ | ⟨before, hbefore⟩
    · -- the key is closed by the cut, and no colon follows
      rw [hend] at hcolon
      cases hcolon
    · rw [hbefore, skipSpace_cut] at hcolon
      cases hspace : skipSpace before with
      | nil =>
        rw [hspace] at hcolon
        cases hcolon
      | cons d tail =>
        rw [hspace] at hcolon
        cases hcolon
        exact parseJsonLiteral_cut hvalue

/-- A member that ends before the cut is followed by a comma: an end would leave the
quote of the cut behind. -/
theorem comma_of_cut {P : List Char → Prop} {Q : Prop}
    (h : (∃ after, skipSpace (text ++ cut rest) = '\x7d' :: after ∧ skipSpace after = [] ∧ Q) ∨
      ∃ after, skipSpace (text ++ cut rest) = ',' :: after ∧ P after) :
    ∃ before, P (before ++ cut rest) := by
  rw [skipSpace_cut] at h
  cases htext : skipSpace text with
  | nil =>
    rw [htext] at h
    rcases h with ⟨after, hend, -⟩ | ⟨after, hcomma, -⟩
    · cases hend
    · cases hcomma
  | cons c more =>
    rw [htext] at h
    rcases h with ⟨after, hend, hempty, -⟩ | ⟨after, hcomma, hP⟩
    · cases hend
      change skipSpace (more ++ cut rest) = [] at hempty
      rw [skipSpace_cut] at hempty
      simp [cut] at hempty
    · cases hcomma
      exact ⟨more, hP⟩

/-- **Nothing reaches over a cut.** A parse that starts a member before the cut and
succeeds has read one or more members when it starts the next one right behind it. -/
theorem members_cut {fuel : ℕ} {fields result : FlatJsonFields}
    (h : parseMembers fuel fields (text ++ cut rest) = .ok result) : ∃ fuel' members, members ≠ [] ∧
      parseMembers fuel' (fields ++ members) ('\n' :: rest) = .ok result := by
  -- one member after the other, each of which takes fuel
  induction fuel generalizing fields text with
  | zero => cases h
  | succ fuel ih =>
    obtain ⟨fuel', member, after, hfuel, hmember, -, hnext⟩ := parseMembers_eq_ok h
    cases hfuel
    rcases parseMember_cut hmember with hcut | ⟨before, hbefore⟩
    · obtain rfl : after = ',' :: '\n' :: rest := hcut
      rcases hnext with ⟨tail, hend, -⟩ | ⟨tail, hcomma, hrest⟩
      · cases hend
      · cases hcomma
        exact ⟨fuel, [member], List.cons_ne_nil _ _, hrest⟩
    · obtain rfl : after = before ++ cut rest := hbefore
      obtain ⟨more, hmore⟩ := comma_of_cut hnext
      obtain ⟨fuel', members, -, hmembers⟩ := ih hmore
      refine ⟨fuel', member :: members, List.cons_ne_nil _ _, ?_⟩
      rwa [List.append_assoc] at hmembers

end Cut

end PrismInfer.Validation
