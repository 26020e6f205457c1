import PrismInfer.Evidence.BundleAccepted

/-!
# The exceptions of the consumer

`validate_committed_bundle` is meant to answer an untrusted directory with its manifest or
with `Rejected`. Its checks guard most of the lookups and comparisons behind them, and
leave four places open:

* the JSON reader raises for deep nesting and for long integers;
* three members of the manifest are read before its set of names is checked;
* a text can stand for a time without a zone, which is not compared with one that has it;
* the outcome is looked up in a set before its type is checked.

`Unguarded` says when one of them is reached, and `bundle_answered_iff` that no other
exception is possible.
-/

namespace PrismInfer.Evidence

open PrismInfer.Lib PrismInfer.Benchmark

/-! ## Escaping exceptions -/

/-- An exception other than `Rejected` leaves the computation. -/
def Escapes {α : Type} (result : Except PyError α) : Prop :=
  ∃ exception, result = .error (.raised exception)

variable {index : ℕ} {value : Json} {lib : PythonLibrary} {manifest : Dict}

section Escapes

variable {α β : Type}

/-- A computation whose exceptions are all `Rejected`. -/
theorem returns_or_rejects_iff {result : Except PyError α} :
    ((∃ value, result = .ok value) ∨ ∃ reason, result = .error (.rejected reason)) ↔
      ¬ Escapes result := by
  rcases result with (reason | exception) | value <;> simp [Escapes]

@[simp] theorem escapes_bind {m : Except PyError α} {f : α → Except PyError β} :
    Escapes (m >>= f) ↔ Escapes m ∨ ∃ a, m = .ok a ∧ Escapes (f a) := by
  cases m <;> simp [Escapes, bind, Except.bind]

theorem escapes_ite {condition : Prop} [Decidable condition] {m n : Except PyError α} :
    Escapes (if condition then m else n) ↔
      condition ∧ Escapes m ∨ ¬ condition ∧ Escapes n := by
  split <;> simp [*]

@[simp] theorem not_escapes_ok {x : α} : ¬ Escapes (.ok x : Except PyError α) := by
  simp [Escapes]

@[simp] theorem not_escapes_check {condition : Bool} {reason : String} :
    ¬ Escapes (check condition reason) := by
  cases condition <;> simp [Escapes, check, reject]

@[simp] theorem not_escapes_checkAt {condition : Bool} {reason : String} :
    ¬ Escapes (checkAt condition reason index) := by
  cases condition <;> simp [Escapes, checkAt]

variable {maximum : ℕ}

@[simp] theorem not_escapes_requireString {field : String} :
    ¬ Escapes (requireString value field maximum) := by
  rw [requireString.eq_def]
  split
  · split <;> simp [Escapes, reject]
  · simp [Escapes, reject]

@[simp] theorem not_escapes_parseTime {field : String} : ¬ Escapes (parseTime lib value field) := by
  rw [parseTime.eq_def]
  split
  · split
    · split <;> simp [Escapes, reject]
    · simp [Escapes, reject]
  · simp [Escapes, reject]

/-- A value that Python cannot hash. -/
def Unhashable : Json → Prop
  | .array _ => True
  | .object _ => True
  | _ => False

theorem escapes_outcomeIn {names : List String} :
    Escapes (outcomeIn value names) ↔ Unhashable value := by
  cases value <;> simp [Escapes, outcomeIn, Unhashable]

theorem escapes_before {a b : Moment} : Escapes (a.before b) ↔ a.aware ≠ b.aware := by
  rw [Moment.before]
  split <;> simp [Escapes, *]

/-- The member is there. -/
def Has (dict : Dict) (key : String) : Prop := (dict.lookup (text key)).isSome = true

variable {key : String} {dict : Dict}

theorem escapes_item : Escapes (item dict key) ↔ ¬ Has dict key := by
  rw [item, Has]
  cases dict.lookup (text key) <;> simp [Escapes]

theorem has_iff : Has dict key ↔ ∃ value, item dict key = .ok value := by
  rw [item, Has]
  cases dict.lookup (text key) <;> simp

theorem has_of_sameKeys {keys : List String} (hkeys : sameKeys dict keys = true)
    (hkey : key ∈ keys) : Has dict key := by
  obtain ⟨-, hall⟩ := Bool.and_eq_true_iff.1 hkeys
  obtain ⟨member, hmember, hname⟩ := List.any_eq_true.1 (List.all_eq_true.1 hall key hkey)
  rw [Has, List.lookup_isSome_iff]
  exact ⟨member, hmember, by simpa using (of_decide_eq_true hname).symm⟩

end Escapes

/-! ## The JSON reader -/

/-- An integer with more digits than `int` converts. -/
def LongInteger (t : Text) : Prop :=
  ∃ n rest, scanNumber t = some (n, rest) ∧ n.isInt = true ∧ maximumIntDigits < n.digits.length

/-- The JSON reader gets to a bracket inside too many others, or to an integer with too many
digits. -/
def ReaderRaises (lib : PythonLibrary) (data : List Byte) (maximum : ℕ) : Prop :=
  data ≠ [] ∧ data.length ≤ maximum ∧ ¬ [0xEF, 0xBB, 0xBF] <+: data ∧
    ∃ t, decodeUtf8 data = some t ∧ ∃ left u,
      loadsHooks.Visits (lib.nesting + 1) (t.dropWhile isJsonSpace) left u ∧
        (left = 0 ∧ JsonHooks.Opens u ∨ LongInteger u)

theorem scanPlain_raises_iff {t : Text} {exception : String} :
    JsonHooks.Plain t ∧ loadsHooks.scanPlain t = .error (.raises (.raised exception)) ↔
      LongInteger t ∧ "ValueError" = exception := by
  constructor
  · rintro ⟨-, h⟩
    rw [JsonHooks.scanPlain] at h
    cases hword : loadsHooks.scanWord t with
    | some p =>
      -- a constant is refused with `Rejected`
      obtain ⟨result, rest⟩ := p
      rw [hword] at h
      rcases JsonHooks.scanWord_cases loadsHooks hword with ⟨value, rfl⟩ | ⟨word, rfl⟩ <;> cases h
    | none =>
      rw [hword] at h
      cases hscan : scanNumber t with
      | none => simp [hscan, loadsHooks] at h
      | some p =>
        obtain ⟨n, rest⟩ := p
        by_cases hlong : n.isInt = true ∧ maximumIntDigits < n.digits.length
        · simp [hscan, loadsHooks, hlong, Except.map] at h
          exact ⟨⟨n, rest, hscan, hlong⟩, h⟩
        · simp [hscan, loadsHooks, hlong, Except.map] at h
  · rintro ⟨⟨n, rest, hscan, hint, hlong⟩, rfl⟩
    have hnumber : loadsHooks.number n = .error (.raises (.raised "ValueError")) := by
      simp [loadsHooks, hint, hlong]
    refine ⟨JsonHooks.plain_of_scanNumber hscan, ?_⟩
    rw [JsonHooks.scanPlain, JsonHooks.scanWord_of_scanNumber loadsHooks hscan]
    simp only [hscan, hnumber]
    rfl

theorem read_raises_iff {depth : ℕ} {t : Text} :
    (∃ exception, loadsHooks.read depth t = .error (.raises (.raised exception))) ↔
      ∃ left u, loadsHooks.Visits depth (t.dropWhile isJsonSpace) left u ∧
        (left = 0 ∧ JsonHooks.Opens u ∨ LongInteger u) := by
  have hobject (exception : String) (members : List (Text × Json)) :
      loadsHooks.object members ≠ .error (.raises (.raised exception)) := by
    simp only [loadsHooks]
    split <;> simp
  have hread (exception : String) := @JsonHooks.read_eq_error_iff _ loadsHooks
    (.raises (.raised exception)) (by simp [loadsHooks]) (hobject exception) depth t
  simp only [hread, scanPlain_raises_iff]
  constructor
  · rintro ⟨exception, left, u, hvisits, ⟨hleft, hopens, -⟩ | ⟨hlong, -⟩⟩
    · exact ⟨left, u, hvisits, .inl ⟨hleft, hopens⟩⟩
    · exact ⟨left, u, hvisits, .inr hlong⟩
  · rintro ⟨left, u, hvisits, ⟨hleft, hopens⟩ | hlong⟩
    · exact ⟨"RecursionError", left, u, hvisits, .inl ⟨hleft, hopens, rfl⟩⟩
    · exact ⟨"ValueError", left, u, hvisits, .inr ⟨hlong, rfl⟩⟩

theorem escapes_strictJson {data : List Byte} {label : String} :
    Escapes (strictJson lib data maximum label) ↔ ReaderRaises lib data maximum := by
  rw [strictJson, ReaderRaises]
  by_cases hsize : (data.isEmpty || maximum < data.length ||
      [0xEF, 0xBB, 0xBF].isPrefixOf data) = true
  · rw [if_pos hsize]
    simp only [Bool.or_eq_true, List.isEmpty_iff, decide_eq_true_eq, List.isPrefixOf_iff_prefix]
      at hsize
    refine iff_of_false (by simp [Escapes, reject]) ?_
    rintro ⟨hne, hle, hbom, -⟩
    rcases hsize with (hempty | hlong) | hmark
    · exact hne hempty
    · exact hlong.not_ge hle
    · exact hbom hmark
  · rw [if_neg hsize]
    simp only [Bool.or_eq_true, List.isEmpty_iff, decide_eq_true_eq, List.isPrefixOf_iff_prefix,
      not_or, not_lt] at hsize
    simp only [hsize.1.1, hsize.1.2, hsize.2, ne_eq, not_false_eq_true, true_and,
      ← read_raises_iff]
    cases decodeUtf8 data with
    | none => simp [Escapes, reject]
    | some t =>
      cases hread : loadsHooks.read (lib.nesting + 1) t with
      | ok value => cases value <;> simp [Escapes, reject, hread]
      | error error => cases error <;> simp [Escapes, reject, hread]

/-! ## The manifest -/

section Manifest

variable {now : ℤ} {fresh : Bool}

theorem not_escapes_items (hkeys : sameKeys manifest manifestKeys = true) :
    ∀ key ∈ manifestKeys, ¬ Escapes (item manifest key) :=
  fun _ hkey h => escapes_item.1 h (has_of_sameKeys hkeys hkey)

/-- The set of names is the first check of a manifest. -/
theorem sameKeys_of_manifestIdentity (h : manifestIdentity manifest = .ok ()) :
    sameKeys manifest manifestKeys = true := by
  rw [manifestIdentity, check_bind] at h
  exact h.1

theorem not_escapes_manifestIdentity : ¬ Escapes (manifestIdentity manifest) := by
  rw [manifestIdentity, escapes_bind]
  rintro (h | ⟨⟨⟩, hkeys, h⟩)
  · exact not_escapes_check h
  · have hitems := not_escapes_items (check_eq_ok.1 hkeys)
    simp only [manifestKeys, List.forall_mem_cons] at hitems
    simp [hitems, pure, Except.pure] at h

/-- A time with a zone and one without meet in a comparison: the two times of the run, or
the second one and the clock. -/
def Incomparable (started completed : Moment) (fresh : Bool) : Prop :=
  completed.aware ≠ started.aware ∨
    started.time ≤ completed.time ∧ fresh = true ∧ completed.aware = false

theorem escapes_timesRejected {started completed : Moment} :
    Escapes (timesRejected started completed now fresh) ↔ Incomparable started completed fresh := by
  rw [timesRejected, escapes_bind, escapes_before, Incomparable]
  by_cases haware : completed.aware = started.aware
  case neg => simp [haware]
  simp only [haware, ne_eq, not_true_eq_false, false_or]
  constructor
  · rintro ⟨reversed, horder, hrest⟩
    cases reversed with
    | true => exact absurd hrest not_escapes_ok
    | false =>
      refine ⟨(before_eq_ok_false_iff.1 horder).2, ?_⟩
      rw [if_neg Bool.false_ne_true] at hrest
      cases fresh with
      | false => exact absurd hrest not_escapes_ok
      | true =>
        rw [if_pos rfl, escapes_bind, escapes_before] at hrest
        refine ⟨rfl, ?_⟩
        rcases hrest with hzone | ⟨stale, hstale, hlast⟩
        · simpa [haware] using hzone
        · cases stale with
          | true => exact absurd hlast not_escapes_ok
          | false =>
            rw [if_neg Bool.false_ne_true, escapes_before] at hlast
            exact absurd (before_eq_ok_false_iff.1 hstale).1.symm hlast
  · rintro ⟨hle, rfl, hnaive⟩
    refine ⟨false, before_eq_ok_false_iff.2 ⟨haware, hle⟩, ?_⟩
    rw [if_neg Bool.false_ne_true, if_pos rfl, escapes_bind, escapes_before]
    exact .inl (by simp [haware, hnaive])

/-- The time of a member. -/
def timeOf (lib : PythonLibrary) (manifest : Dict) (key : String) : Except PyError Moment := do
  parseTime lib (← item manifest key) key

theorem escapes_manifestTimes (hkeys : sameKeys manifest manifestKeys = true) :
    Escapes (manifestTimes lib manifest now fresh) ↔
      ∃ started completed, timeOf lib manifest "started_at_utc" = .ok started ∧
        timeOf lib manifest "completed_at_utc" = .ok completed ∧
          Incomparable started completed fresh := by
  have hitems := not_escapes_items hkeys
  simp only [manifestKeys, List.forall_mem_cons] at hitems
  simp only [manifestTimes, escapes_bind, hitems, not_escapes_parseTime, not_escapes_check,
    false_or, escapes_timesRejected, and_false, exists_false, or_false]
  simp only [timeOf, bind_eq_ok]
  constructor
  · rintro ⟨value, hvalue, started, hstarted, value', hvalue', completed, hcompleted, h⟩
    exact ⟨started, completed, ⟨value, hvalue, hstarted⟩, ⟨value', hvalue', hcompleted⟩, h⟩
  · rintro ⟨started, completed, ⟨value, hvalue, hstarted⟩, ⟨value', hvalue', hcompleted⟩, h⟩
    exact ⟨value, hvalue, started, hstarted, value', hvalue', completed, hcompleted, h⟩

/-- The counts and the reason of a manifest are accepted, and its outcome has no hash. -/
def OutcomeUnhashable (manifest : Dict) : Prop :=
  ∃ count terminal outcome reason, item manifest "declared_trial_count" = .ok count ∧
    item manifest "terminal_sequence" = .ok terminal ∧
    countsOk (asInt count) (asInt terminal) = true ∧ item manifest "run_outcome" = .ok outcome ∧
    item manifest "failure_reason" = .ok (.string reason) ∧ reason.length ≤ 512 ∧
    Unhashable outcome

theorem requireString_eq_ok_iff {field : String} {s : Text} :
    requireString value field maximum = .ok s ↔ value = .string s ∧ s.length ≤ maximum := by
  rw [requireString.eq_def]
  split
  · rename_i t
    by_cases hfits : t.length ≤ maximum
    · simp only [if_pos hfits, Except.ok.injEq, Json.string.injEq]
      exact ⟨fun h => ⟨h, h ▸ hfits⟩, And.left⟩
    · simp only [if_neg hfits, reject, reduceCtorEq, Json.string.injEq, false_iff]
      rintro ⟨rfl, h⟩
      exact hfits h
  · rename_i hother
    simp only [reject, reduceCtorEq, false_iff]
    rintro ⟨rfl, -⟩
    exact hother s rfl

theorem escapes_manifestClaim (hkeys : sameKeys manifest manifestKeys = true) :
    Escapes (manifestClaim manifest) ↔ OutcomeUnhashable manifest := by
  have hitems := not_escapes_items hkeys
  simp only [manifestKeys, List.forall_mem_cons] at hitems
  simp only [manifestClaim, escapes_bind, hitems, not_escapes_requireString, not_escapes_check,
    escapes_ite, escapes_outcomeIn, false_or, or_false, and_false, exists_false]
  constructor
  · rintro ⟨count, hcount, terminal, hterminal, ⟨⟩, hcounts, outcome, houtcome, value, hvalue,
      reason, hreason, h⟩
    obtain ⟨rfl, hlength⟩ := requireString_eq_ok_iff.1 hreason
    exact ⟨count, terminal, outcome, reason, hcount, hterminal, check_eq_ok.1 hcounts, houtcome,
      hvalue, hlength, h⟩
  · rintro ⟨count, terminal, outcome, reason, hcount, hterminal, hcounts, houtcome, hvalue, hlength,
      h⟩
    exact ⟨count, hcount, terminal, hterminal, (), check_eq_ok.2 hcounts, outcome, houtcome, _,
      hvalue, reason, requireString_eq_ok_iff.2 ⟨rfl, hlength⟩, h⟩

/-- What raises in `validate_manifest`. -/
inductive ManifestRaises (lib : PythonLibrary) (manifest : Dict) (now : ℤ) (fresh : Bool) : Prop
  | times {started completed : Moment} (hidentity : manifestIdentity manifest = .ok ())
      (hstarted : timeOf lib manifest "started_at_utc" = .ok started)
      (hcompleted : timeOf lib manifest "completed_at_utc" = .ok completed)
      (hzones : Incomparable started completed fresh)
  | outcome (hidentity : manifestIdentity manifest = .ok ())
      (htimes : manifestTimes lib manifest now fresh = .ok ())
      (houtcome : OutcomeUnhashable manifest)

theorem escapes_validateManifest :
    Escapes (validateManifest lib manifest now fresh) ↔ ManifestRaises lib manifest now fresh := by
  rw [validateManifest, escapes_bind, or_iff_right not_escapes_manifestIdentity]
  constructor
  · rintro ⟨⟨⟩, hidentity, h⟩
    have hkeys := sameKeys_of_manifestIdentity hidentity
    rcases escapes_bind.1 h with h | ⟨⟨⟩, htimes, h⟩
    · obtain ⟨started, completed, hstarted, hcompleted, hzones⟩ := (escapes_manifestTimes hkeys).1 h
      exact .times hidentity hstarted hcompleted hzones
    · exact .outcome hidentity htimes ((escapes_manifestClaim hkeys).1 h)
  · rintro (⟨hidentity, hstarted, hcompleted, hzones⟩ | ⟨hidentity, htimes, houtcome⟩)
    · have hkeys := sameKeys_of_manifestIdentity hidentity
      exact ⟨(), hidentity, escapes_bind.2 (.inl ((escapes_manifestTimes hkeys).2
        ⟨_, _, hstarted, hcompleted, hzones⟩))⟩
    · have hkeys := sameKeys_of_manifestIdentity hidentity
      exact ⟨(), hidentity, escapes_bind.2 (.inr ⟨(), htimes,
        (escapes_manifestClaim hkeys).2 houtcome⟩)⟩

end Manifest

/-! ## The records -/

section Records

theorem not_escapes_checkShared {record : Dict} {keys : List String}
    (hrecord : ∀ key ∈ keys, ¬ Escapes (item record key))
    (hmanifest : ∀ key ∈ keys, ¬ Escapes (item manifest key)) :
    ¬ Escapes (checkShared lib record manifest index keys) := by
  induction keys with
  | nil => exact not_escapes_ok
  | cons key keys ih =>
    rw [List.forall_mem_cons] at hrecord hmanifest
    have hrest := ih hrecord.2 hmanifest.2
    simp only [checkShared, escapes_bind, hrecord.1, hmanifest.1, escapes_ite, hrest, false_or,
      and_false]
    simp [Escapes]

theorem checkAt_eq_ok {condition : Bool} {reason : String} :
    checkAt condition reason index = .ok () ↔ condition = true := by
  cases condition <;> simp [checkAt]

/-- Only the reader raises on a record. -/
theorem escapes_validateRecord (hkeys : sameKeys manifest manifestKeys = true) {total : ℕ}
    {state : RecordState} {line : List Byte} :
    Escapes (validateRecord lib manifest total index state line) ↔
      ReaderRaises lib line (64 * 1024) := by
  rw [validateRecord, escapes_bind, escapes_strictJson]
  refine or_iff_left ?_
  rintro ⟨record, -, h⟩
  rw [escapes_bind, or_iff_right not_escapes_checkAt] at h
  obtain ⟨⟨⟩, hfields, h⟩ := h
  have hmanifest := not_escapes_items hkeys
  have hrecord : ∀ key ∈ (if (record.lookup (text "record_type")).any (isText · (text "trial"))
      then trialKeys else terminalKeys), ¬ Escapes (item record key) :=
    fun _ hkey h => escapes_item.1 h (has_of_sameKeys (checkAt_eq_ok.1 hfields) hkey)
  have hshared : ¬ Escapes (checkShared lib record manifest index sharedFields) := by
    refine not_escapes_checkShared (fun key hkey => hrecord key ?_)
      (fun key hkey => hmanifest key ?_)
    · split <;> revert key <;> decide
    · revert key
      decide
  cases htrial : (record.lookup (text "record_type")).any (isText · (text "trial")) with
  | true =>
    simp only [htrial, if_true, trialKeys, identityKeys, List.cons_append, List.nil_append,
      List.forall_mem_cons] at hrecord
    simp only [manifestKeys, List.forall_mem_cons] at hmanifest
    simp [htrial, hshared, hrecord, hmanifest] at h
  | false =>
    simp only [htrial, Bool.false_eq_true, if_false, terminalKeys, identityKeys, List.cons_append,
      List.nil_append, List.forall_mem_cons] at hrecord
    simp only [manifestKeys, List.forall_mem_cons] at hmanifest
    simp [htrial, hshared, hrecord, hmanifest] at h

/-- A line on which the reader raises, behind lines that are accepted. -/
def LineRaises (lib : PythonLibrary) (manifest : Dict) (total index : ℕ) (state : RecordState)
    (lines : List (List Byte)) : Prop :=
  ∃ before line after state', lines = before ++ line :: after ∧
    validateLines lib manifest total index state before = .ok state' ∧
    ReaderRaises lib line (64 * 1024)

theorem escapes_validateLines (hkeys : sameKeys manifest manifestKeys = true) {total : ℕ}
    {lines : List (List Byte)} : ∀ {index : ℕ} {state : RecordState},
    Escapes (validateLines lib manifest total index state lines) ↔
      LineRaises lib manifest total index state lines := by
  induction lines with
  | nil =>
    intro index state
    simp [validateLines, LineRaises]
  | cons line lines ih =>
    intro index state
    rw [validateLines, escapes_bind, escapes_validateRecord hkeys]
    constructor
    · rintro (hline | ⟨next, hnext, hrest⟩)
      · exact ⟨[], line, lines, state, rfl, rfl, hline⟩
      · obtain ⟨before, bad, after, last, rfl, hbefore, hbad⟩ := ih.1 hrest
        refine ⟨line :: before, bad, after, last, rfl, ?_, hbad⟩
        rw [validateLines, hnext]
        exact hbefore
    · rintro ⟨before, bad, after, last, hsplit, hbefore, hbad⟩
      cases before with
      | nil =>
        obtain ⟨rfl, -⟩ := List.cons.inj hsplit
        exact .inl hbad
      | cons first before =>
        obtain ⟨rfl, rfl⟩ := List.cons.inj hsplit
        rw [validateLines, bind_eq_ok] at hbefore
        obtain ⟨next, hnext, hbefore⟩ := hbefore
        exact .inr ⟨next, hnext, ih.2 ⟨before, bad, after, last, rfl, hbefore, hbad⟩⟩

/-- What raises in `validate_records`. -/
def RecordsRaise (lib : PythonLibrary) (data : List Byte) (manifest : Dict) : Prop :=
  ∃ lines, logLines data "evidence_missing_final_newline" "evidence_record_count_rejected" =
      .ok lines ∧ LineRaises lib manifest lines.length 1 {} lines

theorem escapes_validateRecords (hkeys : sameKeys manifest manifestKeys = true) {data : List Byte} :
    Escapes (validateRecords lib data manifest) ↔ RecordsRaise lib data manifest := by
  have hmanifest := not_escapes_items hkeys
  simp only [manifestKeys, List.forall_mem_cons] at hmanifest
  have hlines (missing count : String) : ¬ Escapes (logLines data missing count) := by
    simp [logLines]
  rw [validateRecords]
  simp [hlines, hmanifest, escapes_validateLines hkeys, RecordsRaise]

end Records

/-! ## The bundle -/

section Bundle

variable {bundle : Bundle} {now : ℤ} {fresh : Bool}

/-- Manifest and commit file are read as objects, the commit file has its members, and the
digests are those of the files. -/
structure Opened (lib : PythonLibrary) (files : BundleFiles) (manifest commit : Dict) : Prop where
  manifest_read : strictJson lib files.manifest maximumManifest "bundle_manifest" = .ok manifest
  commit_read : strictJson lib files.commit 4096 "bundle_commit" = .ok commit
  fields : (sameKeys commit commitKeys &&
    (commit.lookup (text "bundle_version")).any (isText · (text "committed-evidence-v1"))) = true
  manifest_digest : files.manifestDigest = digestFile files.manifest "manifest.json"
  evidence_digest : files.evidenceDigest = digestFile files.evidence "evidence.jsonl"

variable {commit : Dict}

/-- A bundle that is opened goes on with its identities, its manifest and its records. -/
theorem validateCommittedBundle_opened (hsizes : checkSizes bundle.files = .ok ())
    (hopened : Opened lib bundle.files manifest commit) :
    validateCommittedBundle lib bundle now fresh = (do
      check (← identities lib bundle manifest commit) "bundle_identity_or_hash_mismatch"
      validateManifest lib manifest now fresh
      validateRecords lib bundle.files.evidence manifest
      .ok manifest) := by
  have hpass {reason : String} {f : Unit → Except PyError Dict} :
      (check true reason >>= f) = f () := rfl
  simp only [validateCommittedBundle, hsizes, hopened.manifest_read, hopened.commit_read, ok_bind,
    hopened.fields, hpass, hopened.manifest_digest, hopened.evidence_digest, decide_true]

/-- A member of the manifest that is compared before the set of its names is checked is not
there. -/
def IdentityMissing (bundle : Bundle) (manifest commit : Dict) : Prop :=
  ¬ Has manifest "run_id" ∨ ¬ Has manifest "run_fingerprint_sha256" ∨
    ¬ Has manifest "evidence_sha256" ∧
      item commit "evidence_sha256" = .ok (.string (sha256Hex bundle.files.evidence))

theorem isText_iff {s : Text} : isText value s = true ↔ value = .string s := by
  cases value <;> simp [isText]

theorem escapes_identities (hcommit : sameKeys commit commitKeys = true) :
    Escapes (identities lib bundle manifest commit) ↔ IdentityMissing bundle manifest commit := by
  have hitems (key : String) (hkey : key ∈ commitKeys) : ∃ value, item commit key = .ok value :=
    has_iff.1 (has_of_sameKeys hcommit hkey)
  obtain ⟨run, hrun⟩ := hitems "run_id" (by decide)
  obtain ⟨fingerprint, hfingerprint⟩ := hitems "run_fingerprint_sha256" (by decide)
  obtain ⟨hash, hhash⟩ := hitems "manifest_sha256" (by decide)
  obtain ⟨log, hlog⟩ := hitems "evidence_sha256" (by decide)
  have hmap {f : Json → Bool} {key : String} :
      Escapes ((item manifest key).map f) ↔ Escapes (item manifest key) := by
    cases item manifest key <;> simp [Escapes, Except.map]
  simp only [identities, hrun, hfingerprint, hhash, hlog, ok_bind, escapes_bind, escapes_ite, hmap,
    escapes_item, isText_iff, not_escapes_ok, and_false, exists_false, or_false,
    IdentityMissing, Except.ok.injEq]
  -- a member that is there gives a value, and the next comparison is reached
  by_cases hmissing : Has manifest "run_id"
  case neg => simp [hmissing]
  by_cases hmissing' : Has manifest "run_fingerprint_sha256"
  case neg =>
    obtain ⟨value, hvalue⟩ := has_iff.1 hmissing
    simp [hmissing', hvalue]
  obtain ⟨value, hvalue⟩ := has_iff.1 hmissing
  obtain ⟨value', hvalue'⟩ := has_iff.1 hmissing'
  simp [hmissing, hmissing', hvalue, hvalue', and_comm]

/-- What raises in `validate_committed_bundle`, behind the size limits. -/
inductive Unguarded (lib : PythonLibrary) (bundle : Bundle) (now : ℤ) (fresh : Bool) : Prop
  | manifest (h : ReaderRaises lib bundle.files.manifest maximumManifest)
  | commit {manifest : Dict}
      (hmanifest : strictJson lib bundle.files.manifest maximumManifest "bundle_manifest" =
        .ok manifest)
      (h : ReaderRaises lib bundle.files.commit 4096)
  | identity {manifest commit : Dict} (hopened : Opened lib bundle.files manifest commit)
      (h : IdentityMissing bundle manifest commit)
  | claim {manifest commit : Dict} (hopened : Opened lib bundle.files manifest commit)
      (hidentity : identities lib bundle manifest commit = .ok true)
      (h : ManifestRaises lib manifest now fresh)
  | records {manifest commit : Dict} (hopened : Opened lib bundle.files manifest commit)
      (hidentity : identities lib bundle manifest commit = .ok true)
      (hmanifest : validateManifest lib manifest now fresh = .ok ())
      (h : RecordsRaise lib bundle.files.evidence manifest)

section

variable (hsizes : checkSizes bundle.files = .ok ())
include hsizes

theorem escapes_of_opened (hopened : Opened lib bundle.files manifest commit) :
    Escapes (validateCommittedBundle lib bundle now fresh) ↔
      IdentityMissing bundle manifest commit ∨ identities lib bundle manifest commit = .ok true ∧
        (ManifestRaises lib manifest now fresh ∨ validateManifest lib manifest now fresh = .ok () ∧
          RecordsRaise lib bundle.files.evidence manifest) := by
  have hcommit := (Bool.and_eq_true_iff.1 hopened.fields).1
  rw [validateCommittedBundle_opened hsizes hopened, escapes_bind, escapes_identities hcommit]
  refine or_congr_right ?_
  -- the rest of the function, once the identities agree
  have hrest : Escapes (do
      validateManifest lib manifest now fresh
      validateRecords lib bundle.files.evidence manifest
      .ok manifest) ↔ ManifestRaises lib manifest now fresh ∨
        validateManifest lib manifest now fresh = .ok () ∧
          RecordsRaise lib bundle.files.evidence manifest := by
    rw [escapes_bind, escapes_validateManifest]
    refine or_congr_right ⟨?_, ?_⟩
    · rintro ⟨⟨⟩, hmanifest, h⟩
      have hkeys := sameKeys_of_manifestIdentity (unit_bind.1 hmanifest).1
      rw [escapes_bind, escapes_validateRecords hkeys] at h
      exact ⟨hmanifest, h.resolve_right fun ⟨_, _, hok⟩ => not_escapes_ok hok⟩
    · rintro ⟨hmanifest, h⟩
      have hkeys := sameKeys_of_manifestIdentity (unit_bind.1 hmanifest).1
      exact ⟨(), hmanifest, escapes_bind.2 (.inl ((escapes_validateRecords hkeys).2 h))⟩
  constructor
  · rintro ⟨agree, hagree, h⟩
    rw [escapes_bind, or_iff_right not_escapes_check] at h
    obtain ⟨⟨⟩, hcheck, h⟩ := h
    exact ⟨check_eq_ok.1 hcheck ▸ hagree, hrest.1 h⟩
  · rintro ⟨hagree, h⟩
    exact ⟨true, hagree, escapes_bind.2 (.inr ⟨(), rfl, hrest.2 h⟩)⟩

/-- Up to the digests only the reader raises. -/
theorem opened_or_reader_raises (h : Escapes (validateCommittedBundle lib bundle now fresh)) :
    ReaderRaises lib bundle.files.manifest maximumManifest ∨
      ∃ manifest, strictJson lib bundle.files.manifest maximumManifest "bundle_manifest" =
          .ok manifest ∧ (ReaderRaises lib bundle.files.commit 4096 ∨
            ∃ commit, Opened lib bundle.files manifest commit) := by
  rw [validateCommittedBundle, hsizes, ok_bind, escapes_bind, escapes_strictJson] at h
  refine h.imp_right ?_
  rintro ⟨manifest, hmanifest, h⟩
  refine ⟨manifest, hmanifest, ?_⟩
  rw [escapes_bind, escapes_strictJson] at h
  refine h.imp_right ?_
  rintro ⟨commit, hcommit, h⟩
  rw [escapes_bind, or_iff_right not_escapes_check] at h
  obtain ⟨⟨⟩, hfields, h⟩ := h
  rw [escapes_bind, or_iff_right not_escapes_check] at h
  obtain ⟨⟨⟩, hdigest, h⟩ := h
  rw [escapes_bind, or_iff_right not_escapes_check] at h
  obtain ⟨⟨⟩, hdigest', -⟩ := h
  exact ⟨commit, hmanifest, hcommit, check_eq_ok.1 hfields,
    of_decide_eq_true (check_eq_ok.1 hdigest), of_decide_eq_true (check_eq_ok.1 hdigest')⟩

theorem escapes_validateCommittedBundle :
    Escapes (validateCommittedBundle lib bundle now fresh) ↔ Unguarded lib bundle now fresh := by
  constructor
  · intro h
    rcases opened_or_reader_raises hsizes h with
      hreader | ⟨manifest, hmanifest, hreader | ⟨commit, hopened⟩⟩
    · exact .manifest hreader
    · exact .commit hmanifest hreader
    · rcases (escapes_of_opened hsizes hopened).1 h with
        hmissing | ⟨hidentity, hraises | ⟨hchecked, hraises⟩⟩
      · exact .identity hopened hmissing
      · exact .claim hopened hidentity hraises
      · exact .records hopened hidentity hchecked hraises
  · intro h
    cases h with
    | manifest h =>
      rw [validateCommittedBundle, hsizes, ok_bind, escapes_bind, escapes_strictJson]
      exact .inl h
    | commit hmanifest h =>
      rw [validateCommittedBundle, hsizes, ok_bind, hmanifest, ok_bind, escapes_bind,
        escapes_strictJson]
      exact .inl h
    | identity hopened h => exact (escapes_of_opened hsizes hopened).2 (.inl h)
    | claim hopened hidentity h =>
      exact (escapes_of_opened hsizes hopened).2 (.inr ⟨hidentity, .inl h⟩)
    | records hopened hidentity hmanifest h =>
      exact (escapes_of_opened hsizes hopened).2 (.inr ⟨hidentity, .inr ⟨hmanifest, h⟩⟩)

end

/-- Within the size limits a bundle gets its manifest or a `Rejected` as the answer exactly
when none of the unguarded places is reached. -/
theorem bundle_answered_iff (lib : PythonLibrary) (bundle : Bundle) (now : ℤ) (fresh : Bool)
    (hmanifest : bundle.files.manifest.length ≤ maximumManifest)
    (hevidence : bundle.files.evidence.length ≤ maximumEvidence)
    (hmanifestDigest : bundle.files.manifestDigest.length ≤ 256)
    (hevidenceDigest : bundle.files.evidenceDigest.length ≤ 256)
    (hcommit : bundle.files.commit.length ≤ 4096) :
    ((∃ manifest, validateCommittedBundle lib bundle now fresh = .ok manifest) ∨
        ∃ reason, validateCommittedBundle lib bundle now fresh = .error (.rejected reason)) ↔
      ¬ Unguarded lib bundle now fresh := by
  rw [returns_or_rejects_iff, escapes_validateCommittedBundle]
  exact checkSizes_eq_ok_iff.2 ⟨hmanifest, hevidence, hmanifestDigest, hevidenceDigest, hcommit⟩

end Bundle

/-! ## A manifest without members -/

/-- A bundle whose manifest is `{}`, with the digests and the commit file that belong to it. -/
def emptyManifest : Bundle where
  name := []
  files := bundleFiles [0x7B, 0x7D] [10] (trialRun 1 0).runId []

theorem sizes_emptyManifest : emptyManifest.files.manifest.length ≤ maximumManifest ∧
    emptyManifest.files.evidence.length ≤ maximumEvidence ∧
    emptyManifest.files.manifestDigest.length ≤ 256 ∧
    emptyManifest.files.evidenceDigest.length ≤ 256 ∧
    emptyManifest.files.commit.length ≤ 4096 := by
  simp only [emptyManifest, bundleFiles]
  exact ⟨by decide, by decide, length_digestFile_le (by decide), length_digestFile_le (by decide),
    length_commit_le (generated_trialRun 1 0) (by decide)⟩

/-- The files of `publish` are opened. -/
theorem opened_bundleFiles {input : EmitInput} (hinput : input.Generated)
    {manifestData evidence : List Byte} {fingerprint : Text}
    (hfits : joinPairs fingerprint = fingerprint ∧ fingerprint.length ≤ 64)
    (hmanifest : strictJson lib manifestData maximumManifest "bundle_manifest" = .ok manifest) :
    Opened lib (bundleFiles manifestData evidence input.runId fingerprint) manifest
      (dictOf (commitMembers manifestData evidence input.runId fingerprint)) := by
  constructor
  case manifest_read => simpa only [bundleFiles] using hmanifest
  case commit_read => simpa only [bundleFiles] using strictJson_commit hinput hfits
  case fields => exact fields_commitMembers input.runId
  all_goals simp only [bundleFiles]

theorem validate_emptyManifest (lib : PythonLibrary) (now : ℤ) (fresh : Bool) :
    validateCommittedBundle lib emptyManifest now fresh = .error (.raised "KeyError") := by
  have hsizes := checkSizes_eq_ok_iff.2 sizes_emptyManifest
  have hmanifest : strictJson lib [0x7B, 0x7D] maximumManifest "bundle_manifest" = .ok [] := rfl
  have hopened : Opened lib emptyManifest.files [] _ :=
    opened_bundleFiles (generated_trialRun 1 0) ⟨rfl, by decide⟩ hmanifest
  have hwritable : Writable (commitMembers [0x7B, 0x7D] [10] (trialRun 1 0).runId []) :=
    writable_commitMembers _
  have hidentities : identities lib emptyManifest []
      (dictOf (commitMembers [0x7B, 0x7D] [10] (trialRun 1 0).runId [])) =
        .error (.raised "KeyError") := by
    rw [identities, item_dictOf hwritable.nodup (i := 4) rfl, ok_bind]
    rfl
  rw [validateCommittedBundle_opened hsizes hopened, hidentities]
  rfl

/-- A manifest without members is not rejected: the lookup of its run id raises. -/
theorem empty_manifest_raises : checkSizes emptyManifest.files = .ok () ∧
    ∀ (lib : PythonLibrary) (now : ℤ) (fresh : Bool),
      validateCommittedBundle lib emptyManifest now fresh = .error (.raised "KeyError") :=
  ⟨checkSizes_eq_ok_iff.2 sizes_emptyManifest, validate_emptyManifest⟩

/-- The bundle with the empty manifest reaches an unguarded place; the bundle of three trials
is accepted and reaches none. -/
theorem empty_manifest_unguarded : Unguarded oneTime emptyManifest 0 false ∧
    ∃ manifest, validateCommittedBundle oneTime (trialBundle 3) 0 false = .ok manifest ∧
      ¬ Unguarded oneTime (trialBundle 3) 0 false := by
  constructor
  · obtain ⟨hmanifest, hevidence, hmanifestDigest, hevidenceDigest, hcommit⟩ := sizes_emptyManifest
    by_contra hguarded
    have hanswer := (bundle_answered_iff oneTime emptyManifest 0 false hmanifest hevidence
      hmanifestDigest hevidenceDigest hcommit).2 hguarded
    rw [validate_emptyManifest] at hanswer
    rcases hanswer with ⟨manifest, h⟩ | ⟨reason, h⟩ <;> cases h
  · have hfits : (evidenceData (trialRun 3 0) (completed 3)).length ≤ maximumEvidence := by
      rw [length_evidenceData (generated_trialRun 3 0)]
      decide
    have haccepted := (@validate_trialBundle 3 (by decide) (by decide) 0 _).2 ⟨hfits, rfl⟩
    obtain ⟨hmanifest, hevidence, hmanifestDigest, hevidenceDigest, hcommit⟩ :=
      checkSizes_eq_ok_iff.1 ((checkSizes_emitted (generated_trialRun 3 0) (by simp [trialRun])
        (@completed_ok 3 (by decide) (by decide))).2 hfits)
    exact ⟨_, haccepted, (bundle_answered_iff oneTime (trialBundle 3) 0 false hmanifest hevidence
      hmanifestDigest hevidenceDigest hcommit).1 (.inl ⟨_, haccepted⟩)⟩

end PrismInfer.Evidence
