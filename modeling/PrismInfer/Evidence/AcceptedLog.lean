import PrismInfer.Evidence.BundleErrors

/-!
# Accepted logs

What a log is that `validate_records` accepts against an accepted manifest: so many trials
as the manifest declares, one to a line, and one last record.

* `LineText`: a text of lines. `splitLines` takes a lone carriage return for a line end, so
  it falls apart into the same lines exactly when there is none (`lineText_splitLines`).
* `accepted_log_iff`: the last record may have any type but `trial`.
-/

namespace PrismInfer.Evidence

open PrismInfer.Lib PrismInfer.Benchmark

/-! ## Lines -/

/-- A text of lines, each with a line feed behind it. A carriage return in front of the line
feed is white space to JSON and belongs to the line end here. -/
inductive LineText : List (List Byte) → List Byte → Prop
  | nil : LineText [] []
  | cons {line ending rest : List Byte} {lines : List (List Byte)}
      (hline : ∀ b ∈ line, b ≠ 10 ∧ b ≠ 13) (hending : ending = [10] ∨ ending = [13, 10])
      (hrest : LineText lines rest) : LineText (line :: lines) (line ++ (ending ++ rest))

/-- Every carriage return stands in front of a line feed. -/
def returnsPaired : List Byte → Bool
  | [] => true
  | b :: rest => (b ≠ 13 || rest.head? = some 10) && returnsPaired rest

variable {line data : List Byte} {lines : List (List Byte)}

theorem splitLines_cons {b : Byte} (hfeed : b ≠ 10) (hreturn : b ≠ 13) {rest : List Byte}
    (h : splitLines rest = line :: lines) : splitLines (b :: rest) = (b :: line) :: lines := by
  rw [splitLines.eq_def]
  simp only [if_neg hfeed, if_neg hreturn, h]

theorem splitLines_line {ending rest : List Byte} (hline : ∀ b ∈ line, b ≠ 10 ∧ b ≠ 13)
    (hending : ending = [10] ∨ ending = [13, 10]) :
    splitLines (line ++ (ending ++ rest)) = line :: splitLines rest := by
  induction line with
  | nil =>
    rcases hending with rfl | rfl <;> rw [List.nil_append, splitLines.eq_def] <;> simp
  | cons b line ih =>
    obtain ⟨hfeed, hreturn⟩ := hline b List.mem_cons_self
    exact splitLines_cons hfeed hreturn (ih fun c hc => hline c (List.mem_cons_of_mem _ hc))

theorem LineText.splitLines_eq (h : LineText lines data) : splitLines data = lines := by
  induction h with
  | nil => rw [splitLines.eq_def]
  | cons hline hending hrest ih => rw [splitLines_line hline hending, ih]

theorem LineText.returnsPaired (h : LineText lines data) : returnsPaired data = true := by
  induction h with
  | nil => rfl
  | @cons line ending rest lines hline hending hrest ih =>
    clear hrest
    induction line with
    | nil => rcases hending with rfl | rfl <;> simpa [Evidence.returnsPaired] using ih
    | cons b line ihline =>
      have hrest := ihline fun c hc => hline c (List.mem_cons_of_mem _ hc)
      have hreturn := (hline b List.mem_cons_self).2
      rw [List.cons_append, Evidence.returnsPaired, hrest, Bool.and_true, Bool.or_eq_true]
      exact .inl (decide_eq_true hreturn)

theorem splitLines_eq_nil (h : splitLines data = []) : data = [] := by
  cases data with
  | nil => rfl
  | cons b rest =>
    rw [splitLines.eq_def] at h
    dsimp only at h
    split at h
    · cases h
    · split at h
      · split at h
        · cases h
        · split at h <;> cases h
      · split at h <;> cases h

/-- A text that is empty or has a line feed at its end. -/
def EndsLine (data : List Byte) : Prop := data = [] ∨ data.getLast? = some 10

theorem EndsLine.tail {b : Byte} {rest : List Byte} (h : EndsLine (b :: rest)) : EndsLine rest := by
  cases rest with
  | nil => exact .inl rfl
  | cons c rest => exact .inr (by simpa [EndsLine] using h)

theorem EndsLine.feed_of_singleton {b : Byte} (h : EndsLine [b]) : b = 10 := by
  simpa [EndsLine] using h

/-- Without lone carriage returns, a text with a line feed at its end falls into its lines. -/
theorem lineText_splitLines (hends : EndsLine data) (hpaired : returnsPaired data = true) :
    LineText (splitLines data) data := by
  -- the cases are those of `splitLines`
  fun_induction splitLines data with
  | case1 => exact .nil
  | case2 rest ih =>
    rw [returnsPaired, Bool.and_eq_true] at hpaired
    exact @LineText.cons [] [10] _ _ nofun (.inl rfl) (ih hends.tail hpaired.2)
  | case3 hne => exact absurd hends.feed_of_singleton hne
  | case4 rest hne ih =>
    rw [returnsPaired, returnsPaired, Bool.and_eq_true, Bool.and_eq_true] at hpaired
    exact @LineText.cons [] [13, 10] _ _ nofun (.inr rfl) (ih hends.tail.tail hpaired.2.2)
  | case5 c rest hfeed hne ih =>
    rw [returnsPaired, Bool.and_eq_true] at hpaired
    exact absurd (by simpa using hpaired.1) hfeed
  | case6 b rest hfeed hreturn hnil ih =>
    obtain rfl := splitLines_eq_nil hnil
    exact absurd hends.feed_of_singleton hfeed
  | case7 b rest hfeed hreturn line lines hsplit ih =>
    rw [returnsPaired, Bool.and_eq_true] at hpaired
    have hrest := ih hends.tail hpaired.2
    rw [hsplit] at hrest
    cases hrest with
    | cons hline hending htail =>
      rw [← List.cons_append]
      exact .cons (List.forall_mem_cons.2 ⟨⟨hfeed, hreturn⟩, hline⟩) hending htail

/-! ## The accepted manifest -/

/-- What the checks of the records use of an accepted manifest: the members are there, and
those that a record repeats are texts. -/
structure ManifestTexts (manifest : Dict) : Prop where
  keys : sameKeys manifest manifestKeys = true
  shared : ∀ key ∈ sharedFields, ∃ s, item manifest key = .ok (.string s)
  outcome : ∃ s, item manifest "run_outcome" = .ok (.string s)
  reason : ∃ s, item manifest "failure_reason" = .ok (.string s)

section Manifest

variable {lib : PythonLibrary} {manifest : Dict} {now : ℤ} {fresh : Bool}

theorem shared_of_manifestIdentity (h : manifestIdentity manifest = .ok ()) :
    ∀ key ∈ sharedFields, ∃ s, item manifest key = .ok (.string s) := by
  rw [manifestIdentity, check_bind] at h
  obtain ⟨version, -, h⟩ := bind_eq_ok.1 h.2
  obtain ⟨policyValue, hpolicy, h⟩ := bind_eq_ok.1 h
  obtain ⟨plan, hplan, h⟩ := bind_eq_ok.1 h
  obtain ⟨htexts, h⟩ := check_bind.1 h
  simp only [Bool.and_eq_true, isText_iff] at htexts
  obtain ⟨run, hrun, h⟩ := bind_eq_ok.1 h
  obtain ⟨runId, hrunId, h⟩ := bind_eq_ok.1 h
  -- the check of the run id and the two digests lie between the run id and the cell id
  obtain ⟨-, h⟩ := check_bind.1 h
  obtain ⟨_, -, h⟩ := bind_eq_ok.1 h
  obtain ⟨_, -, h⟩ := bind_eq_ok.1 h
  obtain ⟨_, -, h⟩ := bind_eq_ok.1 h
  obtain ⟨_, -, h⟩ := bind_eq_ok.1 h
  obtain ⟨-, h⟩ := check_bind.1 h
  obtain ⟨cell, hcell, h⟩ := bind_eq_ok.1 h
  obtain ⟨cellId, hcellId, -⟩ := bind_eq_ok.1 h
  obtain ⟨⟨-, rfl⟩, rfl⟩ := htexts
  obtain ⟨rfl, -⟩ := requireString_eq_ok_iff.1 hrunId
  obtain ⟨rfl, -⟩ := requireString_eq_ok_iff.1 hcellId
  simp only [sharedFields, List.forall_mem_cons]
  exact ⟨⟨_, hrun⟩, ⟨_, hcell⟩, ⟨_, hpolicy⟩, ⟨_, hplan⟩, List.forall_mem_nil _⟩

theorem outcome_of_manifestClaim (h : manifestClaim manifest = .ok ()) :
    (∃ s, item manifest "run_outcome" = .ok (.string s)) ∧
      ∃ s, item manifest "failure_reason" = .ok (.string s) := by
  rw [manifestClaim] at h
  obtain ⟨_, -, h⟩ := bind_eq_ok.1 h
  obtain ⟨_, -, h⟩ := bind_eq_ok.1 h
  obtain ⟨-, h⟩ := check_bind.1 h
  obtain ⟨outcome, houtcome, h⟩ := bind_eq_ok.1 h
  obtain ⟨reason, hreason, h⟩ := bind_eq_ok.1 h
  obtain ⟨reasonText, hreasonText, h⟩ := bind_eq_ok.1 h
  obtain ⟨known, hknown, h⟩ := bind_eq_ok.1 h
  obtain ⟨rfl, -⟩ := check_bind.1 h
  obtain ⟨rfl, -⟩ := requireString_eq_ok_iff.1 hreasonText
  refine ⟨?_, _, hreason⟩
  -- only a text is one of the outcomes
  cases outcome with
  | string s => exact ⟨s, houtcome⟩
  | _ => simp [outcomeIn] at hknown

theorem manifestTexts_of_validateManifest (h : validateManifest lib manifest now fresh = .ok ()) :
    ManifestTexts manifest := by
  obtain ⟨hidentity, h⟩ := unit_bind.1 h
  obtain ⟨-, hclaim⟩ := unit_bind.1 h
  obtain ⟨houtcome, hreason⟩ := outcome_of_manifestClaim hclaim
  exact ⟨sameKeys_of_manifestIdentity hidentity, shared_of_manifestIdentity hidentity, houtcome,
    hreason⟩

end Manifest

/-! ## The records -/

/-- A line is an object of JSON. -/
def ReadsObject (lib : PythonLibrary) (line : List Byte) (record : Dict) : Prop :=
  ∃ t, decodeUtf8 line = some t ∧ loadsHooks.read (lib.nesting + 1) t = .ok (.object record)

/-- The members have the same value. -/
def SameMember (record : Dict) (key : String) (manifest : Dict) (key' : String) : Prop :=
  ∃ value, item record key = .ok value ∧ item manifest key' = .ok value

/-- The member is this integer. -/
def IntMember (record : Dict) (key : String) (n : ℕ) : Prop :=
  ∃ value, item record key = .ok value ∧ asInt value = some (n : ℤ)

/-- The record of a trial. -/
structure TrialAt (manifest : Dict) (index : ℕ) (record : Dict) : Prop where
  record_type : item record "record_type" = .ok (.string (text "trial"))
  trial_index : IntMember record "trial_index" index
  sequence : IntMember record "sequence" index
  status : item record "status" = .ok (.string (text "ok"))
  shared : ∀ key ∈ sharedFields, SameMember record key manifest key

/-- The record behind the trials, whatever its type is. -/
structure LastAt (manifest : Dict) (index : ℕ) (record : Dict) : Prop where
  sequence : IntMember record "sequence" index
  outcome : SameMember record "outcome" manifest "run_outcome"
  reason : SameMember record "reason" manifest "failure_reason"
  shared : ∀ key ∈ sharedFields, SameMember record key manifest key

section Records

variable {lib : PythonLibrary} {manifest record : Dict}

theorem readsObject_of_strictJson {maximum : ℕ} {label : String}
    (h : strictJson lib line maximum label = .ok record) : ReadsObject lib line record := by
  unfold strictJson at h
  split at h
  · cases h
  · cases hdecode : decodeUtf8 line with
    | none => simp [hdecode, reject] at h
    | some t =>
      refine ⟨t, hdecode, ?_⟩
      cases hread : loadsHooks.read (lib.nesting + 1) t with
      | error error => cases error <;> simp [hdecode, hread, reject] at h
      | ok value => cases value <;> simp [hdecode, hread, reject] at h ⊢; exact h

theorem pyEquals_string_iff {depth : ℕ} {value : Json} {s : Text} :
    pyEquals lib depth value (.string s) = true ↔ value = .string s := by
  cases value <;> cases depth <;> simp [pyEquals]

variable {index : ℕ}

theorem int_of_pyEquals {depth : ℕ} {value : Json}
    (hequal : pyEquals lib depth value (.number (numberOfNat index)) = true)
    (hint : (asInt value).isSome = true) : asInt value = some (index : ℤ) := by
  cases value with
  | number n =>
    have hn : n.isInt = true := by
      by_contra hn
      simp [asInt, hn] at hint
    have hnat : (numberOfNat index).isInt = true := rfl
    have hself := asInt_numberOfNat index
    rw [asInt, if_pos hnat, Option.some.injEq] at hself
    rw [pyEquals, numbersEqual, hn, hnat] at hequal
    rw [asInt, if_pos hn, of_decide_eq_true hequal, hself]
  | _ => cases hint

theorem shared_of_checkShared {keys : List String}
    (hmanifest : ∀ key ∈ keys, ∃ s, item manifest key = .ok (.string s))
    (h : checkShared lib record manifest index keys = .ok ()) :
    ∀ key ∈ keys, SameMember record key manifest key := by
  induction keys with
  | nil => nofun
  | cons key keys ih =>
    rw [List.forall_mem_cons] at hmanifest ⊢
    obtain ⟨⟨s, hs⟩, hrest⟩ := hmanifest
    rw [checkShared, bind_eq_ok] at h
    obtain ⟨value, hvalue, h⟩ := h
    rw [hs, ok_bind] at h
    split at h
    case isFalse => cases h
    case isTrue hequal =>
      obtain rfl := pyEquals_string_iff.1 hequal
      exact ⟨⟨_, hvalue, hs⟩, ih hrest h⟩

theorem item_of_any_isText {key : String} {s : Text}
    (h : (record.lookup (text key)).any (isText · s) = true) :
    item record key = .ok (.string s) := by
  rw [item]
  cases hvalue : record.lookup (text key) with
  | none => simp [hvalue] at h
  | some value =>
    rw [hvalue, Option.any_some, isText_iff] at h
    rw [h]
    rfl

/-- An accepted record is that of the next trial, or the last record of the log. -/
theorem validateRecord_cases (hmanifest : ManifestTexts manifest) {total : ℕ}
    {state state' : RecordState}
    (h : validateRecord lib manifest total index state line = .ok state') :
    state.terminalSeen = false ∧ ∃ record, ReadsObject lib line record ∧
      (TrialAt manifest index record ∧ state' = ⟨state.trials + 1, false⟩ ∨
        LastAt manifest index record ∧ index = total ∧ state' = ⟨state.trials, true⟩) := by
  rw [validateRecord] at h
  obtain ⟨record, hread, h⟩ := bind_eq_ok.1 h
  obtain ⟨hkeys, h⟩ := checkAt_bind.1 h
  obtain ⟨hshared, h⟩ := unit_bind.1 h
  obtain ⟨sequence, hsequence, h⟩ := bind_eq_ok.1 h
  obtain ⟨hequal, h⟩ := checkAt_bind.1 h
  obtain ⟨hint, h⟩ := checkAt_bind.1 h
  have hsequences : IntMember record "sequence" index := ⟨_, hsequence, int_of_pyEquals hequal hint⟩
  have hsame := shared_of_checkShared hmanifest.shared hshared
  split at h
  case isTrue htrial =>
    obtain ⟨trialIndex, htrialIndex, h⟩ := bind_eq_ok.1 h
    obtain ⟨outcome, -, h⟩ := bind_eq_ok.1 h
    obtain ⟨status, hstatus, h⟩ := bind_eq_ok.1 h
    obtain ⟨hchecks, h⟩ := checkAt_bind.1 h
    have hstate := Except.ok.inj h
    simp only [Bool.and_eq_true, decide_eq_true_eq, Bool.not_eq_true', isText_iff] at hchecks
    obtain ⟨⟨⟨hindex, hseen⟩, -⟩, rfl⟩ := hchecks
    refine ⟨hseen, record, readsObject_of_strictJson hread, .inl ⟨?_, ?_⟩⟩
    · exact ⟨item_of_any_isText htrial, ⟨_, htrialIndex, hindex⟩, hsequences, hstatus, hsame⟩
    · rw [← hstate, hseen]
  case isFalse hother =>
    obtain ⟨outcome, houtcome, h⟩ := bind_eq_ok.1 h
    obtain ⟨outcome', houtcome', h⟩ := bind_eq_ok.1 h
    obtain ⟨reason, hreason, h⟩ := bind_eq_ok.1 h
    obtain ⟨reason', hreason', h⟩ := bind_eq_ok.1 h
    obtain ⟨hchecks, h⟩ := checkAt_bind.1 h
    have hstate := Except.ok.inj h
    obtain ⟨s, hs⟩ := hmanifest.outcome
    obtain ⟨t, ht⟩ := hmanifest.reason
    obtain rfl := Except.ok.inj (houtcome'.symm.trans hs)
    obtain rfl := Except.ok.inj (hreason'.symm.trans ht)
    simp only [Bool.and_eq_true, decide_eq_true_eq, Bool.not_eq_true', pyEquals_string_iff]
      at hchecks
    obtain ⟨⟨⟨hseen, htotal⟩, rfl⟩, rfl⟩ := hchecks
    refine ⟨hseen, record, readsObject_of_strictJson hread, .inr ⟨?_, htotal, ?_⟩⟩
    · exact ⟨hsequences, ⟨_, houtcome, hs⟩, ⟨_, hreason, ht⟩, hsame⟩
    · exact hstate.symm

/-- Lines of trials, counted from a number on. -/
def TrialLines (lib : PythonLibrary) (manifest : Dict) (start : ℕ) (trials : List (List Byte)) :
    Prop :=
  ∀ i line, trials[i]? = some line → ∃ record, ReadsObject lib line record ∧
    TrialAt manifest (start + i) record

theorem TrialLines.cons {start : ℕ} {trials : List (List Byte)}
    (hread : ReadsObject lib line record) (hline : TrialAt manifest start record)
    (htrials : TrialLines lib manifest (start + 1) trials) :
    TrialLines lib manifest start (line :: trials) := by
  intro i other hat
  cases i with
  | zero =>
    obtain rfl := Option.some.inj hat
    exact ⟨record, hread, hline⟩
  | succ i =>
    obtain ⟨record', hread', htrial⟩ := htrials i other hat
    exact ⟨record', hread', by rwa [← Nat.add_assoc, Nat.add_right_comm]⟩

/-- Accepted lines up to the last one are trials, and the last one ends the log. -/
theorem validateLines_cases (hmanifest : ManifestTexts manifest) {total : ℕ}
    {state state' : RecordState}
    (h : validateLines lib manifest total index state lines = .ok state')
    (htotal : index + lines.length = total + 1) (hseen : state.terminalSeen = false)
    (hended : state'.terminalSeen = true) :
    ∃ trials last, lines = trials ++ [last] ∧ state'.trials = state.trials + trials.length ∧
      TrialLines lib manifest index trials ∧
      ∃ record, ReadsObject lib last record ∧ LastAt manifest total record := by
  induction lines generalizing index state with
  | nil =>
    obtain rfl := Except.ok.inj h
    exact absurd (hseen.symm.trans hended) Bool.false_ne_true
  | cons line lines ih =>
    rw [validateLines, bind_eq_ok] at h
    obtain ⟨next, hnext, h⟩ := h
    rw [List.length_cons] at htotal
    obtain ⟨-, record, hread, ⟨htrial, rfl⟩ | ⟨hlast, rfl, rfl⟩⟩ :=
      validateRecord_cases hmanifest hnext
    · obtain ⟨trials, last, rfl, hcount, htrials, hlast⟩ := ih h (by omega) rfl
      refine ⟨line :: trials, last, rfl, ?_, .cons hread htrial htrials, hlast⟩
      rw [hcount, List.length_cons]
      dsimp only
      omega
    · -- the last record has the number of lines as its number
      obtain rfl : lines = [] := List.length_eq_zero_iff.1 (by omega)
      obtain rfl := Except.ok.inj h
      exact ⟨[], line, rfl, rfl, by simp [TrialLines], record, hread, hlast⟩

/-- An accepted log: as many trials as the manifest declares, and a last record. -/
theorem validateRecords_cases (hmanifest : ManifestTexts manifest) {count : ℕ}
    (hcount : IntMember manifest "declared_trial_count" count)
    (h : validateRecords lib data manifest = .ok ()) :
    EndsLine data ∧ ∃ trials last, splitLines data = trials ++ [last] ∧ trials.length = count ∧
      TrialLines lib manifest 1 trials ∧
      ∃ record, ReadsObject lib last record ∧ LastAt manifest (count + 1) record := by
  rw [validateRecords] at h
  obtain ⟨lines, hlines, h⟩ := bind_eq_ok.1 h
  obtain ⟨state, hstate, h⟩ := bind_eq_ok.1 h
  obtain ⟨declared, hdeclared, h⟩ := bind_eq_ok.1 h
  obtain ⟨terminal, -, h⟩ := bind_eq_ok.1 h
  rw [logLines] at hlines
  obtain ⟨hfeed, hlines⟩ := check_bind.1 hlines
  obtain ⟨-, hlines⟩ := check_bind.1 hlines
  obtain rfl := Except.ok.inj hlines
  obtain ⟨value, hvalue, hint⟩ := hcount
  obtain rfl := Except.ok.inj (hdeclared.symm.trans hvalue)
  simp only [check_eq_ok, Bool.and_eq_true, decide_eq_true_eq, hint, Option.some.injEq,
    Nat.cast_inj] at h
  obtain ⟨⟨hended, rfl⟩, -⟩ := h
  obtain ⟨trials, last, hsplit, hnumber, htrials, hlast⟩ :=
    validateLines_cases hmanifest hstate (Nat.add_comm 1 _) rfl hended
  have hlength : state.trials = trials.length := hnumber.trans (Nat.zero_add _)
  rw [hsplit, List.length_append, List.length_singleton] at hlast
  rw [hlength]
  exact ⟨.inr (of_decide_eq_true hfeed), trials, last, hsplit, rfl, htrials, hlast⟩

/-- The log of a run: so many trials, in order, one to a line, and a terminal record. -/
def LogOf (lib : PythonLibrary) (manifest : Dict) (count : ℕ) (data : List Byte) : Prop :=
  ∃ trials last, LineText (trials ++ [last]) data ∧ trials.length = count ∧
    TrialLines lib manifest 1 trials ∧
    ∃ record, ReadsObject lib last record ∧
      item record "record_type" = .ok (.string (text "terminal")) ∧
      LastAt manifest (count + 1) record

/-- The record of the last line has the type `terminal`. -/
def EndsTerminal (lib : PythonLibrary) (data : List Byte) : Prop :=
  ∃ line record, (splitLines data).getLast? = some line ∧ ReadsObject lib line record ∧
    item record "record_type" = .ok (.string (text "terminal"))

theorem readsObject_unique {record record' : Dict} (h : ReadsObject lib line record)
    (h' : ReadsObject lib line record') : record = record' := by
  obtain ⟨t, ht, hread⟩ := h
  obtain ⟨t', ht', hread'⟩ := h'
  cases ht.symm.trans ht'
  exact Json.object.inj (Except.ok.inj (hread.symm.trans hread'))

theorem LogOf.endsTerminal {count : ℕ} (h : LogOf lib manifest count data) :
    EndsTerminal lib data := by
  obtain ⟨trials, last, hlines, -, -, record, hread, htype, -⟩ := h
  refine ⟨last, record, ?_, hread, htype⟩
  rw [hlines.splitLines_eq, List.getLast?_concat]

/-- A log that `validate_records` accepts for an accepted manifest is the log of the declared
trials exactly when no carriage return stands alone and the last record is a terminal one. -/
theorem accepted_log_iff (lib : PythonLibrary) (manifest : Dict) (now : ℤ) (fresh : Bool)
    (count : ℕ) (data : List Byte)
    (hmanifest : validateManifest lib manifest now fresh = .ok ())
    (hcount : IntMember manifest "declared_trial_count" count)
    (haccepted : validateRecords lib data manifest = .ok ()) :
    LogOf lib manifest count data ↔ returnsPaired data = true ∧ EndsTerminal lib data := by
  obtain ⟨hends, trials, last, hsplit, hlength, htrials, record, hread, hlast⟩ :=
    validateRecords_cases (manifestTexts_of_validateManifest hmanifest) hcount haccepted
  constructor
  · intro hlog
    refine ⟨?_, hlog.endsTerminal⟩
    obtain ⟨trials', last', hlines, -⟩ := hlog
    exact hlines.returnsPaired
  · rintro ⟨hpaired, line, record', hline, hread', htype⟩
    have hlines := lineText_splitLines hends hpaired
    rw [hsplit] at hlines
    rw [hsplit, List.getLast?_concat, Option.some.injEq] at hline
    obtain rfl := hline
    obtain rfl := readsObject_unique hread hread'
    exact ⟨trials, last, hlines, hlength, htrials, record, hread, htype, hlast⟩

end Records

/-! ## A run without trials -/

/-- The claim of a run that was stopped before its first trial. -/
def abortedRun : Claim := ⟨text "aborted", text "stopped", text "rejected", 0⟩

/-- The manifest of that run. -/
def abortedManifest : Dict := dictOf (manifestMembers (trialRun 0 0) abortedRun)

/-- Its only record, with a type. -/
def onlyRecord (recordType : String) : List (Text × JsonScalar) :=
  [(text "evidence_policy_version", .string policy),
    (text "outcome", .string (text "aborted")),
    (text "reason", .string (text "stopped")),
    (text "record_type", .string (text recordType)),
    (text "run_id", .string (trialRun 0 0).runId),
    (text "sample_plan_version", .string samplePlan),
    (text "sequence", .nat 1),
    (text "validation_cell_id", .string [])]

/-- Its log. -/
def onlyLine (recordType : String) : List Byte := dumps (onlyRecord recordType) ++ [10]

theorem validateManifest_aborted : validateManifest oneTime abortedManifest 0 false = .ok () := by
  refine (validateManifest_eq_ok_iff (generated_trialRun 0 0)).2 ⟨by simp [trialRun], ?_, ?_⟩
  · exact timesOk_trialRun rfl _ _ false (by simp)
  · refine ⟨by simp [abortedRun], by decide, ⟨"aborted", by decide, rfl⟩, ?_⟩
    rw [if_neg]
    · exact ⟨rfl, by decide, rfl⟩
    · rw [abortedRun, text_inj]
      decide

theorem writable_onlyRecord (recordType : String) : Writable (onlyRecord recordType) := by
  have hnames : (onlyRecord recordType).map Prod.fst = terminalNames.map text := rfl
  refine writable_of_names hnames (by decide) (by decide) (by decide +kernel) ?_
  simp [onlyRecord]

/-- The type of the last record is what `validate_records` does not look at. -/
theorem endsTerminal_log_iff {lib : PythonLibrary} {log : List (List (Text × JsonScalar))}
    {record : List (Text × JsonScalar)} {recordType : String} (hwritable : Writable record)
    (hsize : (dumps record).length ≤ 64 * 1024)
    (htype : record[3]? = some (text "record_type", .string (text recordType))) :
    EndsTerminal lib ((log ++ [record]).flatMap fun record => dumps record ++ [10]) ↔
      recordType = "terminal" := by
  have hread : ReadsObject lib (dumps record) (record.map readMember) := by
    have hread := strictJson_dumps lib hwritable (.inl rfl) (by simpa using hsize) "record"
    exact readsObject_of_strictJson (by simpa using hread)
  have hmember := item_string hwritable htype (joinPairs_text recordType)
  rw [EndsTerminal, splitLines_log, List.map_append, List.map_singleton, List.getLast?_concat]
  constructor
  · rintro ⟨line, record', hline, hread', hterminal⟩
    obtain rfl := Option.some.inj hline
    obtain rfl := readsObject_unique hread hread'
    exact text_inj.1 (Json.string.inj (Except.ok.inj (hmember.symm.trans hterminal)))
  · rintro rfl
    exact ⟨_, _, rfl, hread, hmember⟩

/-- A last record of another type is accepted. -/
theorem untyped_log_accepted :
    validateManifest oneTime abortedManifest 0 false = .ok () ∧
      IntMember abortedManifest "declared_trial_count" 0 ∧
      validateRecords oneTime (onlyLine "summary") abortedManifest = .ok () ∧
      ¬ LogOf oneTime abortedManifest 0 (onlyLine "summary") := by
  refine ⟨validateManifest_aborted, ⟨_, item_manifest (i := 2) rfl, by decide⟩,
    by decide +kernel, fun hlog => ?_⟩
  have hterminal := (@endsTerminal_log_iff oneTime [] _ _ (writable_onlyRecord "summary")
    (by decide +kernel) rfl).1 (by simpa [onlyLine] using hlog.endsTerminal)
  exact absurd hterminal (by decide)

/-- The log of two trials. -/
theorem trials_log_accepted :
    LogOf oneTime (dictOf (manifestMembers (trialRun 2 0) (completed 2))) 2
      (evidenceData (trialRun 2 0) (completed 2)) := by
  have hinput := generated_trialRun 2 0
  have hclaim := @completed_ok 2 (by decide) (by decide)
  have hcell : (trialRun 2 0).cell.length ≤ 128 := by simp [trialRun]
  refine (accepted_log_iff oneTime _ 0 false 2 _ ?_ ⟨_, item_manifest (i := 2) rfl, by decide⟩ ?_).2
    ⟨by decide +kernel, ?_⟩
  · exact (validateManifest_eq_ok_iff hinput).2
      ⟨hcell, timesOk_trialRun rfl _ _ false (by simp), hclaim⟩
  · exact (validateRecords_eq_ok_iff hinput hcell hclaim).2 ⟨rfl, rfl⟩
  · exact (endsTerminal_log_iff (writable_terminalRecord (by decide)) (by decide +kernel) rfl).2 rfl

end PrismInfer.Evidence
