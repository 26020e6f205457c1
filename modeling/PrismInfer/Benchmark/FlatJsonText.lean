import Mathlib.Data.List.TakeWhile
import Mathlib.Data.String.Basic
import PrismInfer.Telemetry.Jsonl
import PrismInfer.Validation.ReceiptRoundTrip

/-!
# Fields as text

A `std::map` of flat JSON fields is printed with one field a line: strings are escaped,
every other value is printed as its text (`serialize` in
src/benchmark/kernel_benchmark_manifest.cpp:88–107). The parser reads a printed field as
itself exactly when the field is `readable`, and everything the parser produces is
readable: the bytes of a number token never end a number, start a string or spell a
boolean, and a parsed string has no control character that only an unescaped byte could
stand for.
-/

namespace PrismInfer.Benchmark

open PrismInfer.Lib PrismInfer.Telemetry PrismInfer.Validation

/-! ## Printing -/

/-- A value as it is printed. -/
def renderValue (value : FlatJsonValue) : List Char :=
  if value.kind = .string then '"' :: (jsonEscape value.text.toList ++ ['"'])
  else value.text.toList

def renderField (field : String × FlatJsonValue) : List Char :=
  ' ' :: ' ' :: '"' :: (jsonEscape field.1.toList ++ '"' :: ':' :: ' ' :: renderValue field.2)

/-- The lines, with commas between them. -/
def renderFields : FlatJsonFields → List Char
  | [] => []
  | [field] => renderField field ++ ['\n']
  | field :: fields => renderField field ++ ',' :: '\n' :: renderFields fields

def renderObject (fields : FlatJsonFields) : List Char :=
  '\x7b' :: '\n' :: (renderFields fields ++ ['\x7d', '\n'])

/-- The fields in the order of a `std::map`. -/
def fieldMap (fields : FlatJsonFields) : FlatJsonFields :=
  fields.mergeSort fun field field' => field.1 ≤ field'.1

/-! ## Readable fields -/

/-- The text of a number that can be printed as it is. -/
structure IsToken (text : List Char) : Prop where
  inside : ∀ c ∈ text, endsNumber c = false
  nonempty : text ≠ []
  start : ∀ c ∈ text.head?, c ≠ '"' ∧ c ≠ '\x7b' ∧ c ≠ '['
  not_true : ¬['t', 'r', 'u', 'e'] <+: text
  not_false : ¬['f', 'a', 'l', 's', 'e'] <+: text

/-- The value is read as it is printed. -/
def ReadableValue (value : FlatJsonValue) : Prop :=
  match value.kind with
  | .string => value.text.toList.all isPrintable = true
  | .number => IsToken value.text.toList
  | .boolean => value.text = "true" ∨ value.text = "false"

structure ReadableField (field : String × FlatJsonValue) : Prop where
  key : field.1.toList.all isPrintable = true
  value : ReadableValue field.2

theorem jsonEscape_eq_escaped (text : List Char) : jsonEscape text = escaped text := by
  have hchar : jsonEscapeChar = escapedChar := rfl
  rw [jsonEscape, escaped, hchar]

theorem stringBody_jsonEscape (text rest : List Char) :
    stringBody (jsonEscape text ++ '"' :: rest) =
      if text.all isPrintable then some (text, rest) else none := by
  rw [jsonEscape_eq_escaped, stringBody_escaped]

/-- **Which strings are read back.** `json_escape` leaves the other control characters as they
are, and the reader takes none of them. -/
theorem escaped_string_read_iff (s : List Char) :
    parseJsonString ('"' :: (jsonEscape s ++ ['"'])) = some (String.ofList s, []) ↔
      ∀ c ∈ s, ¬c < ' ' ∨ c = '\n' ∨ c = '\r' ∨ c = '\t' := by
  have hprintable : (∀ c ∈ s, ¬c < ' ' ∨ c = '\n' ∨ c = '\r' ∨ c = '\t') ↔
      s.all isPrintable = true := by
    simp [isPrintable, or_assoc]
  rw [parseJsonString_quote, stringBody_jsonEscape, hprintable]
  split
  · exact iff_of_true rfl ‹_›
  · exact iff_of_false (by simp) ‹_›

theorem bell_not_read : parseJsonString ('"' :: (jsonEscape ['\x07'] ++ ['"'])) = none := by
  decide

variable {text : List Char} {fields : FlatJsonFields}

/-- A token in front of a character that ends numbers. -/
theorem parseJsonLiteral_token (h : IsToken text) {c : Char} (hc : endsNumber c = true)
    (hnot : c ∉ ['t', 'r', 'u', 'e', 'f', 'a', 'l', 's']) (rest : List Char) :
    parseJsonLiteral (text ++ c :: rest) = some (⟨String.ofList text, .number⟩, c :: rest) := by
  have hrun := @takeWhile_append_boundary (fun c => !endsNumber c) text (c :: rest)
    (fun d hd => by rw [h.inside d hd]; rfl) (fun d hd => by cases hd; simp [hc])
  -- a word that reaches over the token contains the character behind it
  have hword : ∀ word : List Char, c ∉ word → word <+: text ++ c :: rest → word <+: text := by
    intro word hoff hreach
    rcases List.prefix_or_prefix_of_prefix hreach (List.prefix_append text (c :: rest)) with
      hshort | ⟨more, rfl⟩
    · exact hshort
    · rw [List.prefix_append_right_inj] at hreach
      cases more with
      | nil => rw [List.append_nil]
      | cons d more =>
        rw [List.cons_prefix_cons] at hreach
        exact absurd (hreach.1 ▸ List.mem_append_right _ List.mem_cons_self) hoff
  obtain ⟨d, digits, htext⟩ := List.exists_cons_of_ne_nil h.nonempty
  obtain ⟨hquote, hbrace, hbracket⟩ := h.start d (by rw [htext]; rfl)
  have hend := h.inside d (by rw [htext]; exact List.mem_cons_self)
  have hspace : isSpace d = false := by
    rw [endsNumber, Bool.or_eq_false_iff] at hend
    exact hend.2
  have htrue : ¬['t', 'r', 'u', 'e'] <+: text ++ c :: rest := fun hreach =>
    h.not_true (hword _ (fun hmem => hnot (by simp at hmem ⊢; tauto)) hreach)
  have hfalse : ¬['f', 'a', 'l', 's', 'e'] <+: text ++ c :: rest := fun hreach =>
    h.not_false (hword _ (fun hmem => hnot (by simp at hmem ⊢; tauto)) hreach)
  rw [htext, List.cons_append] at hrun htrue hfalse ⊢
  rw [parseJsonLiteral, skipSpace, List.dropWhile_cons_of_neg (by simp [hspace])]
  dsimp only
  rw [if_neg hquote, if_neg htrue, if_neg hfalse, if_neg (not_or.2 ⟨hbrace, hbracket⟩),
    if_neg (by simp [hend]), hrun.1, hrun.2]

/-- A printed value in front of the comma or the line end that follows it. -/
theorem parseJsonLiteral_value {value : FlatJsonValue}
    (hvalue : value.kind ≠ .string → ReadableValue value) {c : Char} (hc : c = ',' ∨ c = '\n')
    (rest : List Char) : (ReadableValue value ∧
      parseJsonLiteral (' ' :: (renderValue value ++ c :: rest)) = some (value, c :: rest)) ∨
    (¬ReadableValue value ∧
      parseJsonLiteral (' ' :: (renderValue value ++ c :: rest)) = none) := by
  have hskip : ∀ text, parseJsonLiteral (' ' :: text) = parseJsonLiteral text := by
    intro text
    rw [parseJsonLiteral, parseJsonLiteral, skipSpace,
      List.dropWhile_cons_of_pos (show isSpace ' ' = true by decide)]
    rfl
  obtain ⟨text, kind⟩ := value
  rw [hskip]
  cases kind with
  | string =>
    have hrender : renderValue ⟨text, .string⟩ ++ c :: rest =
        '"' :: (jsonEscape text.toList ++ '"' :: c :: rest) := by
      simp [renderValue]
    rw [hrender, parseJsonLiteral_quote, stringBody_jsonEscape]
    by_cases hprintable : text.toList.all isPrintable = true
    · rw [if_pos hprintable, Option.map_some, String.ofList_toList]
      exact .inl ⟨hprintable, rfl⟩
    · rw [if_neg hprintable]
      exact .inr ⟨hprintable, rfl⟩
  | number =>
    have htoken : IsToken text.toList := hvalue (by simp)
    refine .inl ⟨htoken, ?_⟩
    show parseJsonLiteral (text.toList ++ c :: rest) = _
    have hend : endsNumber c = true ∧ c ∉ ['t', 'r', 'u', 'e', 'f', 'a', 'l', 's'] := by
      rcases hc with rfl | rfl <;> decide
    rw [parseJsonLiteral_token htoken hend.1 hend.2, String.ofList_toList]
  | boolean =>
    have hboolean := hvalue (by simp)
    refine .inl ⟨hboolean, ?_⟩
    rcases hboolean with htext | htext
    · obtain rfl : text = "true" := htext
      exact parseJsonLiteral_boolean true _
    · obtain rfl : text = "false" := htext
      exact parseJsonLiteral_boolean false _

/-! ## Reading what was printed -/

/-- The values that are not strings are readable. -/
def Settled (fields : FlatJsonFields) : Prop :=
  ∀ field ∈ fields, field.2.kind ≠ .string → ReadableValue field.2

/-- A printed field is read as itself, or it is not read at all. -/
theorem parseMember_field {field : String × FlatJsonValue}
    (hvalue : field.2.kind ≠ .string → ReadableValue field.2) {c : Char} (hc : c = ',' ∨ c = '\n')
    (rest : List Char) : (ReadableField field ∧
      parseMember ('\n' :: (renderField field ++ c :: rest)) = some (field, c :: rest)) ∨
    (¬ReadableField field ∧ parseMember ('\n' :: (renderField field ++ c :: rest)) = none) := by
  have htext : renderField field ++ c :: rest = ' ' :: ' ' :: '"' ::
      (jsonEscape field.1.toList ++ '"' :: ':' :: ' ' :: (renderValue field.2 ++ c :: rest)) := by
    simp [renderField]
  rw [htext, parseMember_space (by decide), parseMember_space (by decide),
    parseMember_space (by decide), parseMember, parseJsonString_quote, stringBody_jsonEscape]
  by_cases hkey : field.1.toList.all isPrintable = true
  · rw [if_pos hkey, Option.map_some, String.ofList_toList]
    show (_ ∧ (parseJsonLiteral (' ' :: (renderValue field.2 ++ c :: rest))).map _ = _) ∨
      (_ ∧ (parseJsonLiteral (' ' :: (renderValue field.2 ++ c :: rest))).map _ = _)
    rcases parseJsonLiteral_value hvalue hc rest with ⟨hread, hparse⟩ | ⟨hunread, hparse⟩
    · exact .inl ⟨⟨hkey, hread⟩, by rw [hparse]; rfl⟩
    · exact .inr ⟨fun h => hunread h.value, by rw [hparse]; rfl⟩
  · rw [if_neg hkey]
    exact .inr ⟨fun h => hkey h.key, rfl⟩

theorem renderFields_cons_cons (field next : String × FlatJsonValue) (fields : FlatJsonFields) :
    renderFields (field :: next :: fields) ++ ['\x7d', '\n'] =
      renderField field ++ ',' :: '\n' :: (renderFields (next :: fields) ++ ['\x7d', '\n']) := by
  rw [renderFields, List.append_assoc]
  · rfl
  · exact List.cons_ne_nil _ _

/-- The printed fields are read one by one, up to one that is not readable. -/
theorem parseMembers_render (hsettled : Settled fields) (hne : fields ≠ []) {fuel : ℕ}
    (hfuel : fields.length ≤ fuel) {before : FlatJsonFields}
    (hnodup : (before.map Prod.fst ++ fields.map Prod.fst).Nodup) :
    ((∀ field ∈ fields, ReadableField field) ∧
      parseMembers fuel before ('\n' :: (renderFields fields ++ ['\x7d', '\n'])) =
        .ok (before ++ fields)) ∨
    ((∃ field ∈ fields, ¬ReadableField field) ∧
      parseMembers fuel before ('\n' :: (renderFields fields ++ ['\x7d', '\n'])) =
        .error malformed) := by
  induction fields generalizing fuel before with
  | nil => exact absurd rfl hne
  | cons field fields ih =>
    have hnew : field.1 ∉ before.map Prod.fst := by
      intro hmem
      exact (List.nodup_append.1 hnodup).2.2 _ hmem _ List.mem_cons_self rfl
    have hvalue := hsettled field List.mem_cons_self
    obtain ⟨fuel, rfl⟩ : ∃ more, fuel = more + 1 :=
      ⟨fuel - 1, by rw [List.length_cons] at hfuel; omega⟩
    cases fields with
    | nil =>
      rw [renderFields, List.append_assoc, parseMembers, List.singleton_append]
      rcases parseMember_field hvalue (.inr rfl) ['\x7d', '\n'] with
        ⟨hread, hparse⟩ | ⟨hunread, hparse⟩
      · rw [hparse]
        dsimp only
        rw [if_neg hnew]
        exact .inl ⟨fun other hmem => List.mem_singleton.1 hmem ▸ hread, rfl⟩
      · rw [hparse]
        exact .inr ⟨⟨field, List.mem_singleton_self _, hunread⟩, rfl⟩
    | cons next fields =>
      rw [renderFields_cons_cons, parseMembers]
      rcases parseMember_field hvalue (.inl rfl)
        ('\n' :: (renderFields (next :: fields) ++ ['\x7d', '\n'])) with
        ⟨hread, hparse⟩ | ⟨hunread, hparse⟩
      · rw [hparse]
        dsimp only
        rw [if_neg hnew]
        have hrest := @ih (fun other hmem => hsettled other (List.mem_cons_of_mem _ hmem))
          (List.cons_ne_nil _ _) fuel (by simpa using hfuel) (before ++ [field])
          (by simpa using hnodup)
        rw [List.append_assoc] at hrest
        rcases hrest with ⟨hall, hok⟩ | ⟨⟨other, hmem, hother⟩, herror⟩
        · refine .inl ⟨?_, hok⟩
          exact List.forall_mem_cons.2 ⟨hread, hall⟩
        · exact .inr ⟨⟨other, List.mem_cons_of_mem _ hmem, hother⟩, herror⟩
      · rw [hparse]
        exact .inr ⟨⟨field, List.mem_cons_self, hunread⟩, rfl⟩

/-- The first line starts with a key, and no line is empty. -/
theorem renderFields_start {fields : FlatJsonFields} (hne : fields ≠ []) :
    ∃ text, renderFields fields ++ ['\x7d', '\n'] = ' ' :: ' ' :: '"' :: text ∧
      fields.length ≤ text.length := by
  induction fields with
  | nil => exact absurd rfl hne
  | cons field fields ih =>
    cases fields with
    | nil =>
      refine ⟨_, rfl, ?_⟩
      exact List.length_pos_of_ne_nil (by simp)
    | cons next fields =>
      obtain ⟨text, htext, hlength⟩ := ih (List.cons_ne_nil _ _)
      rw [renderFields_cons_cons, htext, renderField, List.cons_append, List.cons_append,
        List.cons_append]
      refine ⟨_, rfl, ?_⟩
      simp only [List.length_cons, List.length_append] at hlength ⊢
      omega

/-- **Printed objects.** Fields with distinct keys are read back if all of them are readable,
and otherwise nothing is read. -/
theorem parseFlatJsonObject_render {fields : FlatJsonFields} (hsettled : Settled fields)
    (hne : fields ≠ []) (hnodup : (fields.map Prod.fst).Nodup) :
    ((∀ field ∈ fields, ReadableField field) ∧
      parseFlatJsonObject (renderObject fields) = .ok fields) ∨
    ((∃ field ∈ fields, ¬ReadableField field) ∧
      parseFlatJsonObject (renderObject fields) = .error malformed) := by
  obtain ⟨text, htext, hlength⟩ := renderFields_start hne
  have hspace : isSpace ' ' = true := by decide
  have hparse : parseFlatJsonObject (renderObject fields) =
      parseMembers (('"' :: text).length + 1) []
        ('\n' :: (renderFields fields ++ ['\x7d', '\n'])) := by
    rw [renderObject, htext, parseMembers_space (by decide), parseMembers_space hspace,
      parseMembers_space hspace]
    rfl
  rw [hparse]
  exact parseMembers_render hsettled hne (hlength.trans (by simp only [List.length_cons]; omega))
    hnodup

/-! ## What the parser produces -/

theorem isPrintable_of_unescape {e d : Char} (h : unescape e = some d) : isPrintable d = true := by
  unfold unescape at h
  split at h <;> cases h <;> decide

/-- A parsed string can be printed: its control characters were escaped. -/
theorem printable_of_stringBody : ∀ {text : List Char} {body : List Char × List Char},
    stringBody text = some body → body.1.all isPrintable = true
  | [], _, h => by cases h
  | [c], body, h => by
    by_cases hquote : c = '"'
    · rw [hquote, stringBody_quote] at h
      cases h
      rfl
    · rw [stringBody.eq_def] at h
      dsimp only at h
      rw [if_neg hquote] at h
      repeat' split at h
      all_goals cases h
  | c :: e :: text, body, h => by
    by_cases hquote : c = '"'
    · rw [hquote, stringBody_quote] at h
      cases h
      rfl
    by_cases hc : c < ' '
    · rw [stringBody_control hquote hc] at h
      cases h
    by_cases hslash : c = '\\'
    · rw [hslash, stringBody_escape] at h
      obtain ⟨d, hd, h⟩ := Option.bind_eq_some_iff.1 h
      obtain ⟨tail, htail, rfl⟩ := Option.map_eq_some_iff.1 h
      rw [List.all_cons, isPrintable_of_unescape hd, printable_of_stringBody htail]
      rfl
    · rw [stringBody_plain hquote hc hslash] at h
      obtain ⟨tail, htail, rfl⟩ := Option.map_eq_some_iff.1 h
      rw [List.all_cons, printable_of_stringBody htail, isPrintable]
      simp [hc]

theorem readable_of_parseJsonLiteral {result : FlatJsonValue × List Char}
    (h : parseJsonLiteral text = some result) : ReadableValue result.1 := by
  unfold parseJsonLiteral at h
  split at h
  · cases h
  rename_i c rest htext
  split at h
  · obtain ⟨body, hbody, rfl⟩ := Option.map_eq_some_iff.1 h
    show (String.ofList body.1).toList.all isPrintable = true
    rw [String.toList_ofList]
    exact printable_of_stringBody hbody
  rename_i hquote
  split at h
  · cases h
    exact .inl rfl
  rename_i htrue
  split at h
  · cases h
    exact .inr rfl
  rename_i hfalse
  split at h
  · cases h
  rename_i hopen
  split at h
  · cases h
  rename_i hend
  cases h
  show IsToken (String.ofList _).toList
  rw [String.toList_ofList]
  have hprefix : (c :: rest).takeWhile (fun c => !endsNumber c) <+: c :: rest :=
    List.takeWhile_prefix _
  have hhead : ((c :: rest).takeWhile fun c => !endsNumber c) =
      c :: rest.takeWhile fun c => !endsNumber c :=
    List.takeWhile_cons_of_pos (by simpa using hend)
  refine ⟨?_, by rw [hhead]; exact List.cons_ne_nil _ _, ?_,
    fun hword => htrue (hword.trans hprefix), fun hword => hfalse (hword.trans hprefix)⟩
  · intro d hd
    simpa using List.mem_takeWhile_imp hd
  · intro d hd
    rw [hhead] at hd
    cases hd
    exact ⟨hquote, fun h => hopen (.inl h), fun h => hopen (.inr h)⟩

theorem readable_of_parseMember {result : (String × FlatJsonValue) × List Char}
    (h : parseMember text = some result) : ReadableField result.1 := by
  obtain ⟨key, rest, rest', value, hkey, -, hvalue, rfl⟩ := parseMember_eq_some h
  obtain ⟨start, body, -, hbody, heq⟩ := parseJsonString_eq_some hkey
  cases heq
  refine ⟨?_, readable_of_parseJsonLiteral hvalue⟩
  rw [String.toList_ofList]
  exact printable_of_stringBody hbody

/-- What a list of fields of one object is. -/
structure IsObject (fields : FlatJsonFields) : Prop where
  readable : ∀ field ∈ fields, ReadableField field
  nodup : (fields.map Prod.fst).Nodup

theorem IsObject.snoc (h : IsObject fields) {field : String × FlatJsonValue}
    (hfield : ReadableField field) (hnew : field.1 ∉ fields.map Prod.fst) :
    IsObject (fields ++ [field]) := by
  refine ⟨?_, ?_⟩
  · intro other hmem
    rcases List.mem_append.1 hmem with hold | hlast
    · exact h.readable other hold
    · rw [List.mem_singleton.1 hlast]
      exact hfield
  · rw [List.map_append, List.map_singleton]
    exact List.nodup_append.2 ⟨h.nodup, List.nodup_singleton _,
      fun key hkey key' hkey' heq => hnew (by rwa [heq, List.mem_singleton.1 hkey'] at hkey)⟩

theorem isObject_of_parseMembers {fuel : ℕ} {result : FlatJsonFields} (hfields : IsObject fields)
    (h : parseMembers fuel fields text = .ok result) : IsObject result := by
  induction fuel generalizing fields text with
  | zero => cases h
  | succ fuel ih =>
    obtain ⟨fuel', member, rest, hfuel, hmember, hnew, hnext⟩ := parseMembers_eq_ok h
    cases hfuel
    have hmore := hfields.snoc (readable_of_parseMember hmember) hnew
    rcases hnext with ⟨after, -, -, rfl⟩ | ⟨after, -, hrest⟩
    · exact hmore
    · exact ih hmore hrest

/-- Everything that the parser produces can be printed and read back. -/
theorem isObject_of_parse (h : parseFlatJsonObject text = .ok fields) : IsObject fields := by
  have hempty : IsObject [] := ⟨nofun, List.nodup_nil⟩
  unfold parseFlatJsonObject at h
  split at h
  · split at h
    · rw [parseEnd] at h
      split at h
      · cases h
        exact hempty
      · cases h
    · exact isObject_of_parseMembers hempty h
  · cases h

/-! ## The order of the map -/

theorem fieldMap_perm (fields : FlatJsonFields) : (fieldMap fields).Perm fields :=
  List.mergeSort_perm _ _

theorem IsObject.fieldMap (h : IsObject fields) : IsObject (fieldMap fields) where
  readable field hmem := h.readable field ((fieldMap_perm fields).mem_iff.1 hmem)
  nodup := ((fieldMap_perm fields).map Prod.fst).nodup_iff.2 h.nodup

theorem fieldMap_ne_nil (h : fields ≠ []) : fieldMap fields ≠ [] :=
  fun hnil => h (List.nil_perm.1 (hnil ▸ fieldMap_perm fields))

theorem fieldMap_sorted (fields : FlatJsonFields) :
    (fieldMap fields).Pairwise fun field field' => decide (field.1 ≤ field'.1) = true := by
  refine List.pairwise_mergeSort ?_ ?_ fields
  · intro field field' field'' h h'
    exact decide_eq_true (le_trans (of_decide_eq_true h) (of_decide_eq_true h'))
  · intro field field'
    rw [Bool.or_eq_true, decide_eq_true_eq, decide_eq_true_eq]
    exact le_total _ _

/-- The map of fields that stand in the order of a map. -/
theorem fieldMap_fieldMap (fields : FlatJsonFields) :
    fieldMap (fieldMap fields) = fieldMap fields :=
  List.mergeSort_of_pairwise (fieldMap_sorted fields)

/-- The fields are the same map: every key has the same value. -/
def SameMap (fields fields' : FlatJsonFields) : Prop :=
  ∀ key, fields.lookup key = fields'.lookup key

section

variable (h : IsObject fields)
include h

theorem IsObject.mem_iff_lookup {key : String} {value : FlatJsonValue} :
    (key, value) ∈ fields ↔ fields.lookup key = some value :=
  ⟨lookup_of_mem h.nodup, mem_of_lookup⟩

theorem IsObject.nodup_fields : fields.Nodup :=
  List.Nodup.of_map Prod.fst h.nodup

theorem IsObject.sameMap_iff_perm {fields' : FlatJsonFields} (h' : IsObject fields') :
    SameMap fields fields' ↔ fields.Perm fields' := by
  constructor
  · intro hsame
    rw [List.perm_ext_iff_of_nodup h.nodup_fields h'.nodup_fields]
    rintro ⟨key, value⟩
    rw [h.mem_iff_lookup, h'.mem_iff_lookup, hsame key]
  · intro hperm key
    refine Option.ext fun value => ?_
    rw [← h.mem_iff_lookup, ← h'.mem_iff_lookup, hperm.mem_iff]

/-- One map has one order. -/
theorem IsObject.fieldMap_congr {fields' : FlatJsonFields} (h' : IsObject fields')
    (hsame : SameMap fields fields') : Benchmark.fieldMap fields = Benchmark.fieldMap fields' := by
  have hperm : (Benchmark.fieldMap fields).Perm (Benchmark.fieldMap fields') :=
    (fieldMap_perm fields).trans
      (((h.sameMap_iff_perm h').1 hsame).trans (fieldMap_perm fields').symm)
  refine hperm.eq_of_pairwise ?_ (fieldMap_sorted fields) (fieldMap_sorted fields')
  -- two fields under one key are one field
  intro field field' hmem hmem' hle hle'
  have hkey : field.1 = field'.1 := le_antisymm (of_decide_eq_true hle) (of_decide_eq_true hle')
  exact List.inj_on_of_nodup_map h.fieldMap.nodup hmem (hperm.mem_iff.2 hmem') hkey

/-- **Objects are read back from their print.** -/
theorem parse_render_of_isObject (hne : fields ≠ []) :
    parseFlatJsonObject (renderObject fields) = .ok fields := by
  have hsettled : Settled fields := fun field hmem _ => (h.readable field hmem).value
  rcases parseFlatJsonObject_render hsettled hne h.nodup with ⟨-, hparse⟩ | ⟨⟨field, hmem, hnot⟩, -⟩
  · exact hparse
  · exact absurd (h.readable field hmem) hnot

end

end PrismInfer.Benchmark
