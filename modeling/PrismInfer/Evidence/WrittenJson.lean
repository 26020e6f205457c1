import PrismInfer.Evidence.Bundle

/-!
# What the producer writes is what both sides read

The bytes of `json.dumps` and of the digests, as the checks of evidence-runner.py see
them: an object that was written is read back by `strict_json` (`strictJson_dumps`), a
log of such objects falls into its records (`splitLines_log`), and a digest is 64
hexadecimal digits.
-/

namespace PrismInfer.Evidence

open PrismInfer.Lib PrismInfer.Benchmark

/-! ## Bytes -/

@[simp] theorem length_encode (t : Text) : (encode t).length = t.length := List.length_map _

theorem encode_append (s t : Text) : encode (s ++ t) = encode s ++ encode t := List.map_append

theorem mem_encode {t : Text} {b : Byte} (ht : Printable t) (hb : b ∈ encode t) :
    32 ≤ b.toNat ∧ b.toNat ≤ 126 := by
  obtain ⟨c, hc, rfl⟩ := List.mem_map.1 hb
  have hprintable := ht c hc
  rw [BitVec.toNat_ofNat]
  omega

/-! ## Objects -/

/-- An object as the program writes it: it has members, with different names in ASCII, and
its numbers are not too long for `int`. -/
structure Writable (members : List (Text × JsonScalar)) : Prop where
  ne_nil : members ≠ []
  nodup : (members.map Prod.fst).Nodup
  ascii : ∀ member ∈ members, ∀ c ∈ member.1, c.val < 128
  numbers : ∀ member ∈ members, ∀ n, member.2 = .nat n → n < 10 ^ 7

theorem firstDuplicate_eq_none {dict : Dict} {seen : List Text} (hnodup : (dict.map Prod.fst).Nodup)
    (hseen : ∀ key ∈ dict.map Prod.fst, key ∉ seen) : firstDuplicate seen dict = none := by
  induction dict generalizing seen with
  | nil => rfl
  | cons member dict ih =>
    obtain ⟨key, value⟩ := member
    rw [List.map_cons, List.nodup_cons] at hnodup
    rw [firstDuplicate, if_neg (hseen key List.mem_cons_self)]
    refine ih hnodup.2 fun other hother hmem => ?_
    rcases List.mem_cons.1 hmem with rfl | hmem
    · exact hnodup.1 hother
    · exact hseen other (List.mem_cons_of_mem _ hother) hmem

variable {value : JsonScalar}

theorem takesNumber_of_lt (h : ∀ n, value = .nat n → n < 10 ^ 7) :
    loadsHooks.TakesNumber value := by
  intro n hvalue
  have hlength : (writeNat n).length ≤ 7 := by
    rw [writeNat, ofChars, List.length_map]
    exact (Nat.length_toDigits_le_iff (by decide) (by decide)).2 (h n hvalue)
  have hfits : ¬ maximumIntDigits < (numberOfNat n).digits.length := by
    rw [maximumIntDigits, numberOfNat]
    dsimp only
    omega
  simp [loadsHooks, hfits]

theorem map_fst_readMember {members : List (Text × JsonScalar)}
    (h : ∀ member ∈ members, ∀ c ∈ member.1, c.val < 128) :
    (members.map readMember).map Prod.fst = members.map Prod.fst := by
  rw [List.map_map]
  refine List.map_congr_left fun member hmember => ?_
  exact joinPairs_of_lt fun c hc => (h member hmember c hc).trans (by decide)

/-- A written object is read back, also with a line end behind it. -/
theorem strictJson_dumps (lib : PythonLibrary) {members : List (Text × JsonScalar)}
    (h : Writable members) {tail : List Byte} (htail : tail = [] ∨ tail = [10]) {maximum : ℕ}
    (hsize : (dumps members ++ tail).length ≤ maximum) (label : String) :
    strictJson lib (dumps members ++ tail) maximum label = .ok (members.map readMember) := by
  obtain ⟨space, hspace, rfl⟩ : ∃ space : Text,
      (∀ c ∈ space, isJsonSpace c = true ∧ c.val < 128) ∧ tail = encode space := by
    rcases htail with rfl | rfl
    · exact ⟨[], nofun, rfl⟩
    · exact ⟨[codePoint '\n'], by simp [isJsonSpace], rfl⟩
  have hprintable := printable_writeObject members
  have hdecode :
      decodeUtf8 (dumps members ++ encode space) = some (writeObject members ++ space) := by
    rw [dumps, ← encode_append]
    refine decodeUtf8_of_ascii fun c hc => ?_
    rcases List.mem_append.1 hc with hc | hc
    · exact (hprintable c hc).2.trans_lt (by decide)
    · exact (hspace c hc).2
  have hread : loadsHooks.read (lib.nesting + 1) (writeObject members ++ space) =
      .ok (.object (members.map readMember)) := by
    rw [loadsHooks.read_writeObject h.ne_nil (fun member hmember =>
      takesNumber_of_lt (h.numbers member hmember)) _ fun c hc => (hspace c hc).1]
    have hkeys := map_fst_readMember h.ascii
    have hnone : firstDuplicate [] (members.map readMember) = none :=
      firstDuplicate_eq_none (hkeys ▸ h.nodup) (by simp)
    simp [loadsHooks, hnone]
  -- the first byte is the opening brace
  have hfirst : (dumps members ++ encode space).isEmpty = false ∧
      [0xEF, 0xBB, 0xBF].isPrefixOf (dumps members ++ encode space) = false := ⟨rfl, rfl⟩
  rw [strictJson, hfirst.1, hfirst.2, Bool.false_or, Bool.or_false, if_neg (by simpa using hsize),
    hdecode]
  simp only [hread]

/-! ## Names and members -/

section Names

variable {members : List (Text × JsonScalar)} {names : List String}

/-- All characters of the names are ASCII. -/
def asciiNames (names : List String) : Bool :=
  names.all fun name => name.toList.all (·.toNat < 128)

variable {c : CodePoint}

theorem lt_of_asciiNames (hascii : asciiNames names = true)
    (hnames : members.map Prod.fst = names.map text) {member : Text × JsonScalar}
    (hmember : member ∈ members) (hc : c ∈ member.1) : c.val < 128 := by
  have hname : member.1 ∈ names.map text := hnames ▸ List.mem_map_of_mem hmember
  obtain ⟨name, hname, heq⟩ := List.mem_map.1 hname
  rw [← heq] at hc
  obtain ⟨d, hd, rfl⟩ := List.mem_map.1 hc
  have hchars := List.all_eq_true.1 (List.all_eq_true.1 hascii name hname) d hd
  rw [codePoint_val]
  exact of_decide_eq_true hchars

theorem writable_of_names (hnames : members.map Prod.fst = names.map text) (hne : names ≠ [])
    (hnodup : names.Nodup) (hascii : asciiNames names = true)
    (hnumbers : ∀ member ∈ members, ∀ n, member.2 = .nat n → n < 10 ^ 7) : Writable members where
  ne_nil := by
    rintro rfl
    exact hne (List.map_eq_nil_iff.1 hnames.symm)
  nodup := hnames ▸ hnodup.map fun _ _ => text_inj.1
  ascii _ hmember _ hc := lt_of_asciiNames hascii hnames hmember hc
  numbers := hnumbers

/-- The names of a dictionary decide whether it has the keys. -/
theorem sameKeys_of_names {dict : Dict} (hnames : dict.map Prod.fst = names.map text)
    (keys : List String) : sameKeys dict keys =
      (names.all (fun name => keys.any (· = name)) && keys.all fun key => names.any (· = key)) := by
  have hall (p : Text → Bool) : dict.all (fun member => p member.1) =
      names.all fun name => p (text name) := by
    have hmap := congrArg (·.all p) hnames
    simpa only [List.all_map, Function.comp_def] using hmap
  have hany (p : Text → Bool) : dict.any (fun member => p member.1) =
      names.any fun name => p (text name) := by
    have hmap := congrArg (·.any p) hnames
    simpa only [List.any_map, Function.comp_def] using hmap
  have hkeys (key : String) : dict.any (·.1 = text key) = names.any (text · = text key) :=
    hany fun name => name = text key
  rw [sameKeys, hall fun name => keys.any (text · = name)]
  simp only [hkeys, text_inj]

variable {i : ℕ}

/-- With different names, a member is found by its name. -/
theorem lookup_of_getElem? {β : Type} {members : List (Text × β)}
    (hnodup : (members.map Prod.fst).Nodup) {key : Text} {value : β}
    (hat : members[i]? = some (key, value)) : members.lookup key = some value := by
  induction members generalizing i with
  | nil => simp at hat
  | cons member members ih =>
    rw [List.map_cons, List.nodup_cons] at hnodup
    cases i with
    | zero =>
      cases hat
      simp
    | succ i =>
      rw [List.getElem?_cons_succ] at hat
      have hmem : key ∈ members.map Prod.fst :=
        List.mem_map.2 ⟨(key, value), List.mem_of_getElem? hat, rfl⟩
      have hne : (key == member.1) = false := by
        rw [beq_eq_false_iff_ne]
        rintro rfl
        exact hnodup.1 hmem
      rw [List.lookup_cons, hne]
      exact ih hnodup.2 hat

variable {key : String}

/-- The members of an object that the program has built. -/
theorem item_dictOf (hnodup : (members.map Prod.fst).Nodup)
    (hat : members[i]? = some (text key, value)) :
    item (dictOf members) key = .ok (valueOf value) := by
  have hnames : (dictOf members).map Prod.fst = members.map Prod.fst := by
    rw [dictOf, List.map_map]
    rfl
  have hfound : (dictOf members)[i]? = some (text key, valueOf value) := by
    rw [dictOf, List.getElem?_map, hat]
    rfl
  rw [item, lookup_of_getElem? (hnames ▸ hnodup) hfound]
  rfl

/-- The members of an object that was written and read. -/
theorem lookup_readMember (h : Writable members) (hat : members[i]? = some (text key, value)) :
    (members.map readMember).lookup (text key) = some value.readBack := by
  have hfound : (members.map readMember)[i]? = some (text key, value.readBack) := by
    rw [List.getElem?_map, hat, Option.map_some, readMember, joinPairs_text]
  exact lookup_of_getElem? (map_fst_readMember h.ascii ▸ h.nodup) hfound

theorem item_readMember (h : Writable members) (hat : members[i]? = some (text key, value)) :
    item (members.map readMember) key = .ok value.readBack := by
  rw [item, lookup_readMember h hat]
  rfl

theorem item_string (h : Writable members) {s : Text}
    (hat : members[i]? = some (text key, .string s)) (hs : joinPairs s = s) :
    item (members.map readMember) key = .ok (.string s) := by
  rw [item_readMember h hat, JsonScalar.readBack, hs]

/-- Reading back gives the object itself when no string has a pair of surrogates. -/
theorem map_readMember_eq_dictOf (h : Writable members)
    (hvalues : ∀ member ∈ members, ∀ s, member.2 = .string s → joinPairs s = s) :
    members.map readMember = dictOf members := by
  refine List.map_congr_left fun member hmember => ?_
  have hname : joinPairs member.1 = member.1 :=
    joinPairs_of_lt fun c hc => (h.ascii member hmember c hc).trans (by decide)
  have hvalue : member.2.readBack = valueOf member.2 := by
    cases hscalar : member.2 with
    | string s => rw [JsonScalar.readBack, valueOf, hvalues member hmember s hscalar]
    | nat n => rfl
  rw [readMember, hname, hvalue]

end Names

/-! ## Lines -/

/-- A line without line ends is split off. -/
theorem splitLines_append {line : List Byte} (h : ∀ b ∈ line, b ≠ 10 ∧ b ≠ 13)
    (rest : List Byte) : splitLines (line ++ 10 :: rest) = line :: splitLines rest := by
  induction line with
  | nil =>
    rw [List.nil_append, splitLines.eq_def]
    simp
  | cons b line ih =>
    obtain ⟨hfeed, hreturn⟩ := h b List.mem_cons_self
    have hrest := ih fun c hc => h c (List.mem_cons_of_mem _ hc)
    rw [List.cons_append, splitLines.eq_def]
    simp only [if_neg hfeed, if_neg hreturn, hrest]

theorem dumps_no_line_end (members : List (Text × JsonScalar)) :
    ∀ b ∈ dumps members, b ≠ 10 ∧ b ≠ 13 := by
  intro b hb
  have hprintable := mem_encode (printable_writeObject members) hb
  constructor <;> rintro rfl <;> simp at hprintable

/-- A log of written objects falls into these objects. -/
theorem splitLines_log (log : List (List (Text × JsonScalar))) :
    splitLines (log.flatMap fun record => dumps record ++ [10]) = log.map dumps := by
  induction log with
  | nil => rw [List.flatMap_nil, splitLines.eq_def, List.map_nil]
  | cons record log ih =>
    rw [List.flatMap_cons, List.append_assoc, List.singleton_append,
      splitLines_append (dumps_no_line_end record), ih, List.map_cons]

/-! ## Digests -/

@[simp] theorem length_sha256Hex (data : List Byte) : (sha256Hex data).length = 64 := by
  rw [sha256Hex, ofChars, List.length_map]
  exact Fips180.length_hexDigits 64 _

/-- A hexadecimal digit in lower case. -/
def isHexDigit (c : CodePoint) : Bool := isDigit c || (97 ≤ c.val && c.val ≤ 102)

theorem isHexDigit_of_mem_sha256Hex {data : List Byte} (h : c ∈ sha256Hex data) :
    isHexDigit c = true := by
  obtain ⟨d, hd, rfl⟩ := List.mem_map.1 h
  obtain ⟨k, hk, rfl⟩ := Fips180.mem_hexDigits hd
  interval_cases k <;> decide

/-- The digits of a digest need no escape. -/
theorem writeString_sha256Hex (data : List Byte) :
    writeString (sha256Hex data) = codePoint '"' :: (sha256Hex data ++ [codePoint '"']) := by
  have hplain : ∀ c ∈ sha256Hex data, writeCodePoint c = [c] := by
    intro c hc
    obtain ⟨d, hd, rfl⟩ := List.mem_map.1 hc
    obtain ⟨k, hk, rfl⟩ := Fips180.mem_hexDigits hd
    interval_cases k <;> decide
  rw [writeString, List.flatMap_congr hplain, List.flatMap_singleton']

theorem isSha256_sha256Hex (data : List Byte) : isSha256 (sha256Hex data) = true := by
  rw [isSha256, length_sha256Hex]
  simp only [decide_true, Bool.true_and, List.all_eq_true]
  intro c hc
  exact isHexDigit_of_mem_sha256Hex hc

theorem lt_of_isHexDigit (h : isHexDigit c = true) : c.val < 128 := by
  simp only [isHexDigit, isDigit, Bool.or_eq_true, Bool.and_eq_true, decide_eq_true_eq] at h
  omega

end PrismInfer.Evidence
