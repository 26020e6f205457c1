import PrismInfer.Evidence.WrittenJson
import PrismInfer.Lib.Fallible

/-!
# The producer's objects under the checks of both sides

When the manifest and the log that `emit_bundle` builds pass `validate_manifest` and
`validate_records`.

* `validateManifest_eq_ok_iff`: the conditions on a manifest, in terms of the input.
* `validateRecords_eq_ok_iff`: the log passes exactly when its texts are read back as they
  are, which a text with a split pair of surrogates is not.
* `length_evidenceData`: the size of the log.
-/

namespace PrismInfer.Evidence

open PrismInfer.Lib PrismInfer.Benchmark

/-! ## Checks -/

section Checks

variable {α : Type} {x : α} {condition : Bool} {reason : String}

theorem check_bind {f : Unit → Except PyError α} :
    (check condition reason >>= f) = .ok x ↔ condition = true ∧ f () = .ok x := by
  cases condition <;> simp [check, reject, bind, Except.bind]

theorem checkAt_bind {index : ℕ} {f : Unit → Except PyError α} :
    (checkAt condition reason index >>= f) = .ok x ↔ condition = true ∧ f () = .ok x := by
  cases condition <;> simp [checkAt, bind, Except.bind]

theorem check_eq_ok : check condition reason = .ok () ↔ condition = true := by
  cases condition <;> simp [check, reject]

/-- A string is refused by its length only. -/
theorem requireString_bind {s : Text} {field : String} {maximum : ℕ} {f : Text → Except PyError α} :
    (requireString (.string s) field maximum >>= f) = .ok x ↔
      s.length ≤ maximum ∧ f s = .ok x := by
  rw [requireString]
  split <;> simp [*, bind, Except.bind, reject]

/-- The time of a text that ends with a `Z`. -/
def isoTime (lib : PythonLibrary) (s : Text) : Option Moment :=
  if s.getLast? = some (codePoint 'Z') then lib.fromIsoFormat (s.dropLast ++ text "+00:00")
  else none

theorem parseTime_bind {lib : PythonLibrary} {s : Text} {field : String}
    {f : Moment → Except PyError α} : (parseTime lib (.string s) field >>= f) = .ok x ↔
      ∃ time, isoTime lib s = some time ∧ f time = .ok x := by
  rw [parseTime, isoTime]
  split
  · cases lib.fromIsoFormat (s.dropLast ++ text "+00:00") <;> simp [bind, Except.bind, reject]
  · simp [bind, Except.bind, reject]

end Checks

/-! ## The manifest -/

/-- The run id of `secrets.token_hex(16)`, and the texts of `datetime.isoformat`: at most 42
characters, all of them ASCII. -/
structure EmitInput.Generated (input : EmitInput) : Prop where
  token_length : input.token.length = 32
  token_hex : ∀ c ∈ input.token, isHexDigit c = true
  started_length : input.started.length ≤ 42
  started_ascii : ∀ c ∈ input.started, c.val < 128
  completed_length : input.completed.length ≤ 42
  completed_ascii : ∀ c ∈ input.completed, c.val < 128

section Manifest

variable {input : EmitInput} {claim : Claim}

theorem length_runId (hinput : input.Generated) : input.runId.length = 36 := by
  rw [EmitInput.runId, List.length_append, hinput.token_length]
  rfl

/-- The run id has the form that the manifest asks for. -/
theorem runIdOk_runId (hinput : input.Generated) : runIdOk input.runId = true := by
  have hall : input.runId.all isRunIdChar = true := by
    rw [EmitInput.runId, List.all_append, Bool.and_eq_true]
    refine ⟨by decide, List.all_eq_true.2 fun c hc => ?_⟩
    have hhex := hinput.token_hex c hc
    simp only [isHexDigit, Bool.or_eq_true, Bool.and_eq_true, decide_eq_true_eq] at hhex
    simp only [isRunIdChar, Bool.or_eq_true, Bool.and_eq_true, decide_eq_true_eq]
    rcases hhex with hdigit | hletter
    · exact .inl (.inl (.inl (.inl hdigit)))
    · exact .inl (.inl (.inr ⟨hletter.1, hletter.2.trans (by decide)⟩))
  have hhead : input.runId.head? = some (codePoint 'r') := rfl
  rw [runIdOk, length_runId hinput, hall, hhead]
  decide

/-- The names of a manifest, in order. -/
def manifestNames : List String :=
  ["claim_ceiling", "completed_at_utc", "declared_trial_count", "evidence_policy_version",
    "evidence_sha256", "failure_reason", "manifest_version", "run_fingerprint_sha256", "run_id",
    "run_outcome", "sample_plan_version", "started_at_utc", "terminal_sequence",
    "validation_cell_id"]

theorem map_fst_manifestMembers :
    (manifestMembers input claim).map Prod.fst = manifestNames.map text := rfl

theorem map_fst_dictOf (members : List (Text × JsonScalar)) :
    (dictOf members).map Prod.fst = members.map Prod.fst := by
  rw [dictOf, List.map_map]
  rfl

/-- A member of the manifest, by its place. -/
theorem item_manifest {i : ℕ} {key : String} {value : JsonScalar}
    (hat : (manifestMembers input claim)[i]? = some (text key, value)) :
    item (dictOf (manifestMembers input claim)) key = .ok (valueOf value) := by
  refine item_dictOf ?_ hat
  rw [map_fst_manifestMembers]
  exact List.Nodup.map (fun _ _ => text_inj.1) (by decide)

theorem isText_string (s t : Text) : isText (.string s) t = decide (s = t) := rfl

theorem asInt_numberOfNat (n : ℕ) : asInt (.number (numberOfNat n)) = some (n : ℤ) := by
  have hvalue : (numberOfNat n).intValue = decimalValue (writeNat n) := rfl
  rw [decimalValue_writeNat] at hvalue
  have hint : (numberOfNat n).isInt = true := rfl
  rw [asInt, if_pos hint, hvalue]

/-- The producer writes everything but the cell id itself. -/
theorem manifestIdentity_eq_ok_iff (hinput : input.Generated) :
    manifestIdentity (dictOf (manifestMembers input claim)) = .ok () ↔
      input.cell.length ≤ 128 := by
  have hkeys : sameKeys (dictOf (manifestMembers input claim)) manifestKeys = true := by
    rw [sameKeys_of_names ((map_fst_dictOf _).trans map_fst_manifestMembers)]
    decide
  have hrun : input.runId.length ≤ 64 := (length_runId hinput).trans_le (by decide)
  have hlength (data : List Byte) : (sha256Hex data).length ≤ 64 := (length_sha256Hex data).le
  rw [manifestIdentity, check_bind]
  simp only [item_manifest (i := 3) rfl, item_manifest (i := 4) rfl, item_manifest (i := 6) rfl,
    item_manifest (i := 7) rfl, item_manifest (i := 8) rfl, item_manifest (i := 10) rfl,
    item_manifest (i := 13) rfl, ok_bind, valueOf, check_bind, requireString_bind, isText_string]
  simp [hkeys, hrun, runIdOk_runId hinput, expectedRunFingerprint, isSha256_sha256Hex, pure,
    Except.pure]

/-- The two times of a manifest are read and in order, and recent where that is asked. -/
def TimesOk (lib : PythonLibrary) (input : EmitInput) (now : ℤ) (fresh : Bool) : Prop :=
  ∃ started completed, isoTime lib input.started = some started ∧
    isoTime lib input.completed = some completed ∧ started.aware = completed.aware ∧
    started.time ≤ completed.time ∧ (fresh = true → completed.aware = true ∧
      now - 15 * minute ≤ completed.time ∧ completed.time ≤ now + 5 * minute)

/-- Times are compared only if both or neither have a time zone. -/
theorem before_eq_ok_false_iff {a b : Moment} :
    a.before b = .ok false ↔ a.aware = b.aware ∧ b.time ≤ a.time := by
  rw [Moment.before]
  split <;> simp [*]

variable {fresh : Bool}

theorem timesRejected_eq_ok_false_iff {started completed : Moment} {now : ℤ} :
    timesRejected started completed now fresh = .ok false ↔
      completed.aware = started.aware ∧ started.time ≤ completed.time ∧
        (fresh = true → completed.aware = true ∧ now - 15 * minute ≤ completed.time ∧
          completed.time ≤ now + 5 * minute) := by
  rw [timesRejected, bind_eq_ok]
  constructor
  · rintro ⟨reversed, horder, hrest⟩
    cases reversed with
    | true => simp at hrest
    | false =>
      obtain ⟨haware, hle⟩ := before_eq_ok_false_iff.1 horder
      refine ⟨haware, hle, fun hfresh => ?_⟩
      rw [if_neg Bool.false_ne_true, if_pos hfresh, bind_eq_ok] at hrest
      obtain ⟨stale, hstale, hrest⟩ := hrest
      cases stale with
      | true => simp at hrest
      | false =>
        obtain ⟨hzone, hold⟩ := before_eq_ok_false_iff.1 hstale
        rw [if_neg Bool.false_ne_true] at hrest
        exact ⟨hzone, hold, (before_eq_ok_false_iff.1 hrest).2⟩
  · rintro ⟨haware, hle, hfresh⟩
    refine ⟨false, before_eq_ok_false_iff.2 ⟨haware, hle⟩, ?_⟩
    rw [if_neg Bool.false_ne_true]
    split
    case isFalse => rfl
    case isTrue htrue =>
      obtain ⟨hzone, hold, hnew⟩ := hfresh htrue
      rw [bind_eq_ok]
      refine ⟨false, before_eq_ok_false_iff.2 ⟨hzone, hold⟩, ?_⟩
      rw [if_neg Bool.false_ne_true]
      exact before_eq_ok_false_iff.2 ⟨hzone.symm, hnew⟩

/-- The times of a manifest pass if they are readable, in order and, if asked for, fresh. -/
theorem manifestTimes_eq_ok_iff {lib : PythonLibrary} {now : ℤ} :
    manifestTimes lib (dictOf (manifestMembers input claim)) now fresh = .ok () ↔
      TimesOk lib input now fresh := by
  rw [manifestTimes]
  simp only [item_manifest (i := 1) rfl, item_manifest (i := 11) rfl, ok_bind, valueOf,
    parseTime_bind]
  simp only [bind_eq_ok, check_eq_ok, Bool.not_eq_true', TimesOk]
  constructor
  · rintro ⟨started, hstarted, completed, hcompleted, rejected, htimes, rfl⟩
    obtain ⟨haware, hle, hfresh⟩ := timesRejected_eq_ok_false_iff.1 htimes
    exact ⟨started, completed, hstarted, hcompleted, haware.symm, hle, hfresh⟩
  · rintro ⟨started, completed, hstarted, hcompleted, haware, hle, hfresh⟩
    exact ⟨started, hstarted, completed, hcompleted, false,
      timesRejected_eq_ok_false_iff.2 ⟨haware.symm, hle, hfresh⟩, rfl⟩

/-- The outcome of a manifest with its reason, its ceiling and its count. -/
structure Claim.Ok (claim : Claim) : Prop where
  count : claim.count ≤ 1000000
  reason : claim.reason.length ≤ 512
  outcome : ∃ name ∈ outcomes, text name = claim.outcome
  ceiling : if claim.outcome = text "completed" then
      claim.count ≠ 0 ∧ claim.reason = [] ∧ claim.ceiling = text "research-only"
    else claim.count = 0 ∧ claim.reason ≠ [] ∧ claim.ceiling = text "rejected"

/-- The outcome, its reason and the counts pass together. -/
theorem manifestClaim_eq_ok_iff :
    manifestClaim (dictOf (manifestMembers input claim)) = .ok () ↔ claim.Ok := by
  have hcounts : countsOk (some (claim.count : ℤ)) (some ((claim.count + 1 : ℕ) : ℤ)) =
      decide (claim.count ≤ 1000000) := by
    simp [countsOk]
  rw [manifestClaim]
  simp only [item_manifest (i := 0) rfl, item_manifest (i := 2) rfl, item_manifest (i := 5) rfl,
    item_manifest (i := 7) rfl, item_manifest (i := 9) rfl, item_manifest (i := 12) rfl,
    item_manifest (i := 13) rfl, ok_bind, valueOf, asInt_numberOfNat, hcounts, check_bind,
    requireString_bind, outcomeIn, isText_string]
  simp only [textOf, Option.getD_some, Int.toNat_natCast, decide_true, decide_eq_true_eq]
  have houtcome : (outcomes.any fun name => decide (text name = claim.outcome)) = true ↔
      ∃ name ∈ outcomes, text name = claim.outcome := by simp
  rw [houtcome]
  constructor
  · rintro ⟨hcount, hreason, hname, hceiling⟩
    refine ⟨hcount, hreason, hname, ?_⟩
    split at hceiling <;> simpa [*, check_bind, check_eq_ok, and_assoc] using hceiling
  · rintro ⟨hcount, hreason, hname, hceiling⟩
    refine ⟨hcount, hreason, hname, ?_⟩
    split at hceiling <;> simp [*, check_bind, check_eq_ok]

theorem validateManifest_eq_ok_iff {lib : PythonLibrary} {now : ℤ} (hinput : input.Generated) :
    validateManifest lib (dictOf (manifestMembers input claim)) now fresh = .ok () ↔
      input.cell.length ≤ 128 ∧ TimesOk lib input now fresh ∧ claim.Ok := by
  rw [validateManifest, unit_bind, unit_bind, manifestIdentity_eq_ok_iff hinput,
    manifestTimes_eq_ok_iff, manifestClaim_eq_ok_iff]

end Manifest

/-! ## The sizes of what is written -/

section Sizes

variable {input : EmitInput} {claim : Claim} {members : List (Text × JsonScalar)}
  {names : List String}

/-- The number of characters of a string with its quotes. -/
def stringLength (s : Text) : ℕ := (s.map quotedLength).sum + 2

/-- The number of decimal digits. -/
def digitCount (n : ℕ) : ℕ := (Nat.toDigits 10 n).length

theorem digitCount_le {n : ℕ} (h : n < 10 ^ 7) : digitCount n ≤ 7 :=
  (Nat.length_toDigits_le_iff (by decide) (by decide)).2 h

/-- Twelve characters for one outside of the basic plane, and six or less otherwise. -/
theorem stringLength_le {s : Text} {n : ℕ} (h : s.length ≤ n) : stringLength s ≤ 12 * n + 2 := by
  rw [stringLength, ← length_writeString]
  exact length_writeString_le h

/-- The number of characters of a value. -/
def scalarLength : JsonScalar → ℕ
  | .string s => stringLength s
  | .nat n => digitCount n

/-- The characters that the names take in an object, with everything around the members. -/
def frameLength (names : List String) : ℕ :=
  (names.map fun name => stringLength (text name) + 2).sum + 1

/-- An object takes its names and its values. -/
theorem length_dumps (hnames : members.map Prod.fst = names.map text) (hne : members ≠ []) :
    (dumps members).length =
      frameLength names + (members.map fun member => scalarLength member.2).sum := by
  have hvalues : (members.map fun member => (writeScalar member.2).length) =
      members.map fun member => scalarLength member.2 := by
    refine List.map_congr_left fun member _ => ?_
    cases member.2 with
    | string s => exact length_writeString s
    | nat n => exact List.length_map _
  have hstrings : (members.map fun member => (writeString member.1).length) =
      names.map fun name => stringLength (text name) := by
    have hmap := congrArg (List.map fun name : Text => (writeString name).length) hnames
    simpa only [List.map_map, Function.comp_def, length_writeString, stringLength] using hmap
  have hcount : members.length = names.length := by
    simpa using congrArg List.length hnames
  rw [dumps, length_encode, length_writeObject hne, hvalues, hstrings, hcount, frameLength,
    List.sum_map_add]
  simp
  omega

/-- The fixed texts of a bundle. -/
theorem stringLength_fixed :
    stringLength [] = 2 ∧ stringLength policy = 20 ∧ stringLength samplePlan = 16 ∧
    stringLength (text "1.0") = 5 ∧ stringLength (text "committed-evidence-v1") = 23 ∧
    stringLength (text "run_") = 6 ∧ stringLength (text "trial") = 7 ∧
    stringLength (text "terminal") = 10 ∧ stringLength (text "ok") = 4 ∧
    stringLength (text "completed") = 11 ∧
    ∀ name ∈ outcomes, (text name).length ≤ 20 := by decide

/-- The run id has nothing to escape. -/
theorem stringLength_runId (hinput : input.Generated) : stringLength input.runId = 38 := by
  have hdigit : ∀ c ∈ input.token, quotedLength c = 1 := by
    intro c hc
    have hhex := hinput.token_hex c hc
    simp only [isHexDigit, isDigit, Bool.or_eq_true, Bool.and_eq_true, decide_eq_true_eq] at hhex
    -- the digits are none of the characters with a short escape
    have hplain : shortEscapes.find? (codePoint ·.2 = c) = none := by
      have hall : ∀ e ∈ shortEscapes, (codePoint e.2).val < 48 ∨ (codePoint e.2).val = 92 := by
        decide
      rw [List.find?_eq_none]
      intro e he heq
      have heq := of_decide_eq_true heq
      have hrange := hall e he
      rw [heq] at hrange
      omega
    rw [quotedLength, hplain, if_neg (by simp), if_pos (by omega)]
  have hsum : (input.token.map quotedLength).sum = 32 := by
    rw [List.map_congr_left hdigit, List.map_const', List.sum_replicate, hinput.token_length]
    rfl
  have hstart := stringLength_fixed.2.2.2.2.2.1
  rw [stringLength] at hstart ⊢
  rw [EmitInput.runId, List.map_append, List.sum_append, hsum]
  omega

/-- The names of the record of a trial, in order. -/
def trialNames : List String :=
  ["evidence_policy_version", "record_type", "run_id", "sample_plan_version", "sequence", "status",
    "trial_index", "validation_cell_id"]

/-- The names of the record behind the trials, in order. -/
def terminalNames : List String :=
  ["evidence_policy_version", "outcome", "reason", "record_type", "run_id", "sample_plan_version",
    "sequence", "validation_cell_id"]

theorem names_fixed : asciiNames manifestNames = true ∧ asciiNames trialNames = true ∧
    asciiNames terminalNames = true ∧ frameLength manifestNames ≤ 400 ∧
    frameLength trialNames = 135 ∧ frameLength terminalNames = 131 := by decide

theorem map_fst_trialRecord (index : ℕ) :
    (trialRecord input index).map Prod.fst = trialNames.map text := rfl

theorem map_fst_terminalRecord :
    (terminalRecord input claim).map Prod.fst = terminalNames.map text := rfl

/-- The size of the line of a trial, without its line end. -/
def trialLength (cell : Text) (index : ℕ) : ℕ :=
  220 + 2 * digitCount index + stringLength cell

/-- The line of a trial grows with the index, which stands in it twice. -/
theorem length_trialRecord (hinput : input.Generated) (index : ℕ) :
    (dumps (trialRecord input index)).length = trialLength input.cell index := by
  rw [length_dumps (map_fst_trialRecord index) (by simp [trialRecord])]
  simp only [trialRecord, List.map_cons, List.map_nil, List.sum_cons, List.sum_nil, scalarLength,
    names_fixed, stringLength_fixed, stringLength_runId hinput, trialLength]
  omega

theorem length_terminalRecord (hinput : input.Generated) :
    (dumps (terminalRecord input claim)).length =
      215 + stringLength claim.outcome + stringLength claim.reason + digitCount (claim.count + 1) +
        stringLength input.cell := by
  rw [length_dumps map_fst_terminalRecord (by simp [terminalRecord])]
  simp only [terminalRecord, List.map_cons, List.map_nil, List.sum_cons, List.sum_nil, scalarLength,
    names_fixed, stringLength_fixed, stringLength_runId hinput]
  omega

/-- The size of the log of a run with trials: a line for each trial, and the last line. -/
def logLength (cell : Text) (count : ℕ) : ℕ :=
  ((List.range count).map fun i => trialLength cell (i + 1) + 1).sum +
    (229 + digitCount (count + 1) + stringLength cell)

/-- The size of a log, line by line. -/
theorem length_evidenceData (hinput : input.Generated) : (evidenceData input claim).length =
      ((List.range claim.count).map fun i => trialLength input.cell (i + 1) + 1).sum +
        (216 + stringLength claim.outcome + stringLength claim.reason +
          digitCount (claim.count + 1) + stringLength input.cell) := by
  rw [evidenceData, records, List.flatMap_append, List.length_append, List.length_flatMap,
    List.map_map, List.flatMap_singleton, List.length_append, length_terminalRecord hinput]
  simp only [Function.comp_def, List.length_append, length_trialRecord hinput,
    List.length_singleton]
  omega

end Sizes

/-! ## The records -/

section Records

variable {lib : PythonLibrary} {input : EmitInput} {claim : Claim} {index total : ℕ}
  {state state' : RecordState}

theorem pyEquals_string (depth : ℕ) (s t : Text) :
    pyEquals lib depth (.string s) (.string t) = decide (s = t) := by
  cases depth <;> rw [pyEquals]

theorem pyEquals_numberOfNat (depth n : ℕ) :
    pyEquals lib depth (.number (numberOfNat n)) (.number (numberOfNat n)) = true := by
  have hself : numbersEqual lib (numberOfNat n) (numberOfNat n) = true :=
    decide_eq_true (rfl : (numberOfNat n).intValue = (numberOfNat n).intValue)
  cases depth <;> rw [pyEquals, hself]

/-- The run id has no surrogates. -/
theorem joinPairs_runId (hinput : input.Generated) : joinPairs input.runId = input.runId := by
  refine joinPairs_of_lt fun c hc => ?_
  rcases List.mem_append.1 hc with hc | hc
  · exact of_decide_eq_true
      (List.all_eq_true.1 (by decide : (text "run_").all (·.val < 0xD800)) c hc)
  · exact (lt_of_isHexDigit (hinput.token_hex c hc)).trans (by decide)

theorem Claim.Ok.outcome_fits (hclaim : claim.Ok) :
    joinPairs claim.outcome = claim.outcome ∧ claim.outcome.length ≤ 20 := by
  obtain ⟨name, hname, heq⟩ := hclaim.outcome
  rw [← heq]
  exact ⟨joinPairs_text name, stringLength_fixed.2.2.2.2.2.2.2.2.2.2 name hname⟩

theorem writable_trialRecord (h : index < 10 ^ 7) : Writable (trialRecord input index) := by
  refine writable_of_names (map_fst_trialRecord index) (by decide) (by decide) names_fixed.2.1 ?_
  simpa [trialRecord] using h

theorem writable_terminalRecord (h : claim.count + 1 < 10 ^ 7) :
    Writable (terminalRecord input claim) := by
  refine writable_of_names map_fst_terminalRecord (by decide) (by decide) names_fixed.2.2.1 ?_
  simpa [terminalRecord] using h

/-- The fields that a record shares with the manifest agree when the cell id is read back as it
is. -/
theorem checkShared_eq_ok_iff {record : Dict}
    (hpolicy : item record "evidence_policy_version" = .ok (.string policy))
    (hrun : item record "run_id" = .ok (.string input.runId))
    (hplan : item record "sample_plan_version" = .ok (.string samplePlan))
    (hcell : item record "validation_cell_id" = .ok (.string (joinPairs input.cell))) :
    checkShared lib record (dictOf (manifestMembers input claim)) index sharedFields = .ok () ↔
      joinPairs input.cell = input.cell := by
  simp only [sharedFields, checkShared, hpolicy, hrun, hplan, hcell, ok_bind, valueOf,
    item_manifest (i := 3) rfl, item_manifest (i := 8) rfl, item_manifest (i := 10) rfl,
    item_manifest (i := 13) rfl, pyEquals_string, decide_true, if_true, decide_eq_true_eq]
  split <;> simp [*]

/-- A line of a trial is within the limit of a record. -/
theorem trialLength_le {cell : Text} (hcell : cell.length ≤ 128) (hindex : index < 10 ^ 7) :
    trialLength cell index ≤ 64 * 1024 := by
  have hdigits := digitCount_le hindex
  have hlength := stringLength_le hcell
  rw [trialLength]
  omega

/-- A written record within its limit is read back. -/
theorem strictJson_record {members : List (Text × JsonScalar)} (h : Writable members)
    (hsize : (dumps members).length ≤ 64 * 1024) :
    strictJson lib (dumps members) (64 * 1024) "record" = .ok (members.map readMember) := by
  simpa using strictJson_dumps lib h (.inl rfl) (by simpa using hsize) "record"

/-- The record of a trial passes when the cell id is read back as it is, the run is completed
and the terminal record has not come. -/
theorem validateRecord_trial (hinput : input.Generated) (hcell : input.cell.length ≤ 128)
    (hindex : index < 10 ^ 7) :
    validateRecord lib (dictOf (manifestMembers input claim)) total index state
        (dumps (trialRecord input index)) = .ok state' ↔
      joinPairs input.cell = input.cell ∧ claim.outcome = text "completed" ∧
        state.terminalSeen = false ∧ { state with trials := state.trials + 1 } = state' := by
  have hwritable : Writable (trialRecord input index) := writable_trialRecord hindex
  have hread := @strictJson_record lib _ hwritable
    ((length_trialRecord hinput index).trans_le (trialLength_le hcell hindex))
  have hkeys : sameKeys ((trialRecord input index).map readMember) trialKeys = true := by
    rw [sameKeys_of_names ((map_fst_readMember hwritable.ascii).trans (map_fst_trialRecord index))]
    decide
  have hshared : checkShared lib ((trialRecord input index).map readMember)
      (dictOf (manifestMembers input claim)) index sharedFields = .ok () ↔
        joinPairs input.cell = input.cell :=
    checkShared_eq_ok_iff (item_string hwritable (i := 0) rfl (joinPairs_text _))
      (item_string hwritable (i := 2) rfl (joinPairs_runId hinput))
      (item_string hwritable (i := 3) rfl (joinPairs_text _))
      (item_readMember hwritable (i := 7) rfl)
  -- what is left of the checks is what the record does not fix
  rw [validateRecord, hread, ok_bind]
  simp only [lookup_readMember hwritable (i := 1) rfl, Option.any_some, JsonScalar.readBack,
    joinPairs_text, isText_string, decide_true, if_true, hkeys, checkAt_bind, true_and]
  rw [unit_bind, hshared]
  simp only [item_readMember hwritable (i := 4) rfl, item_readMember hwritable (i := 6) rfl,
    item_string hwritable (i := 5) rfl (joinPairs_text _), item_manifest (i := 9) rfl, ok_bind,
    JsonScalar.readBack, valueOf, pyEquals_numberOfNat, asInt_numberOfNat, Option.isSome_some,
    checkAt_bind, true_and, isText_string, decide_true, Bool.true_and, Bool.and_true,
    Bool.and_eq_true, Bool.not_eq_true', decide_eq_true_eq, Except.ok.injEq]
  constructor
  · rintro ⟨hjoin, ⟨hseen, hcompleted⟩, hstate⟩
    exact ⟨hjoin, hcompleted, hseen, hstate⟩
  · rintro ⟨hjoin, hcompleted, hseen, hstate⟩
    exact ⟨hjoin, ⟨hseen, hcompleted⟩, hstate⟩

/-- The terminal record passes when its texts are read back as they are, and it is the last
one and the first of its kind. -/
theorem validateRecord_terminal (hinput : input.Generated) (hcell : input.cell.length ≤ 128)
    (hclaim : claim.Ok) (hindex : index = claim.count + 1) :
    validateRecord lib (dictOf (manifestMembers input claim)) total index state
        (dumps (terminalRecord input claim)) = .ok state' ↔
      joinPairs input.cell = input.cell ∧ joinPairs claim.reason = claim.reason ∧
        state.terminalSeen = false ∧ index = total ∧
          { state with terminalSeen := true } = state' := by
  subst hindex
  have hcount := hclaim.count
  have hwritable : Writable (terminalRecord input claim) := writable_terminalRecord (by omega)
  have houtcome := hclaim.outcome_fits
  have hsize : (dumps (terminalRecord input claim)).length ≤ 64 * 1024 := by
    have hdigits := digitCount_le (n := claim.count + 1) (by omega)
    have hcellLength := stringLength_le hcell
    have hreasonLength := stringLength_le hclaim.reason
    have houtcomeLength := stringLength_le houtcome.2
    rw [length_terminalRecord hinput]
    omega
  have hread := @strictJson_record lib _ hwritable hsize
  have hkeys : sameKeys ((terminalRecord input claim).map readMember) terminalKeys = true := by
    rw [sameKeys_of_names ((map_fst_readMember hwritable.ascii).trans map_fst_terminalRecord)]
    decide
  -- so that the second branch is taken
  have htype : text "terminal" ≠ text "trial" := by
    rw [Ne, text_inj]
    decide
  have hshared : checkShared lib ((terminalRecord input claim).map readMember)
      (dictOf (manifestMembers input claim)) (claim.count + 1) sharedFields = .ok () ↔
        joinPairs input.cell = input.cell :=
    checkShared_eq_ok_iff (item_string hwritable (i := 0) rfl (joinPairs_text _))
      (item_string hwritable (i := 4) rfl (joinPairs_runId hinput))
      (item_string hwritable (i := 5) rfl (joinPairs_text _))
      (item_readMember hwritable (i := 7) rfl)
  rw [validateRecord, hread, ok_bind]
  simp only [lookup_readMember hwritable (i := 3) rfl, Option.any_some, JsonScalar.readBack,
    joinPairs_text, isText_string, htype, decide_false, Bool.false_eq_true, if_false, hkeys,
    checkAt_bind, true_and]
  rw [unit_bind, hshared]
  simp only [item_readMember hwritable (i := 6) rfl, item_string hwritable (i := 1) rfl houtcome.1,
    item_readMember hwritable (i := 2) rfl, item_manifest (i := 9) rfl, item_manifest (i := 5) rfl,
    ok_bind, JsonScalar.readBack, valueOf, pyEquals_numberOfNat, pyEquals_string,
    asInt_numberOfNat, Option.isSome_some, checkAt_bind, true_and, decide_true, Bool.and_true,
    Bool.and_eq_true, Bool.not_eq_true', decide_eq_true_eq, Except.ok.injEq]
  constructor
  · rintro ⟨hjoin, ⟨⟨hseen, htotal⟩, hreason⟩, hstate⟩
    exact ⟨hjoin, hreason, hseen, htotal, hstate⟩
  · rintro ⟨hjoin, hreason, hseen, htotal, hstate⟩
    exact ⟨hjoin, ⟨⟨hseen, htotal⟩, hreason⟩, hstate⟩

/-- A log of written objects passes the tests of a log, and falls into its objects. -/
theorem logLines_log {log : List (List (Text × JsonScalar))} (hne : log ≠ [])
    (hlength : log.length ≤ maximumRecords) (missing count : String) :
    logLines (log.flatMap fun record => dumps record ++ [10]) missing count =
      .ok (log.map dumps) := by
  have hlast : (log.flatMap fun record => dumps record ++ [10]).getLast? = some 10 := by
    rcases List.eq_nil_or_concat log with rfl | ⟨init, record, rfl⟩
    · exact absurd rfl hne
    · rw [List.concat_eq_append, List.flatMap_append, List.flatMap_singleton, ← List.append_assoc,
        List.getLast?_append]
      rfl
  have hempty : (log.map dumps).isEmpty = false := by
    simpa using hne
  rw [logLines, check, hlast, decide_eq_true rfl, if_pos rfl, ok_bind]
  simp only [splitLines_log, hempty, List.length_map]
  rw [check, if_pos (by simpa using hlength), ok_bind]

/-- The trials from a line on pass one after the other, and are counted. -/
theorem validateLines_trials (hinput : input.Generated) (hcell : input.cell.length ≤ 128)
    (hjoin : joinPairs input.cell = input.cell) (count : ℕ)
    (hcompleted : count ≠ 0 → claim.outcome = text "completed") (lines : List (List Byte))
    {start : ℕ} (hstart : start + count < 10 ^ 7) (trials : ℕ) :
    validateLines lib (dictOf (manifestMembers input claim)) total (start + 1) ⟨trials, false⟩
        ((List.range' (start + 1) count).map (fun i => dumps (trialRecord input i)) ++ lines) =
      validateLines lib (dictOf (manifestMembers input claim)) total (start + count + 1)
        ⟨trials + count, false⟩ lines := by
  induction count generalizing start trials with
  | zero => rfl
  | succ count ih =>
    have hfirst : validateRecord lib (dictOf (manifestMembers input claim)) total (start + 1)
        ⟨trials, false⟩ (dumps (trialRecord input (start + 1))) = .ok ⟨trials + 1, false⟩ :=
      (validateRecord_trial hinput hcell (by omega)).2
        ⟨hjoin, hcompleted (Nat.succ_ne_zero count), rfl, rfl⟩
    have hrest := @ih (fun _ => hcompleted (Nat.succ_ne_zero count)) (start + 1) (by omega)
      (trials + 1)
    rw [List.range'_succ, List.map_cons, List.cons_append, validateLines, hfirst, ok_bind, hrest]
    congr 2 <;> omega

/-- The lines of a log: the trials from 1 on, and the terminal record. -/
theorem map_dumps_records : (records input claim).map dumps =
      (List.range' 1 claim.count).map (fun i => dumps (trialRecord input i)) ++
        [dumps (terminalRecord input claim)] := by
  rw [records, List.map_append, List.map_map, List.range'_eq_map_range, List.map_map]
  simp [Function.comp_def, Nat.add_comm]

/-- The log passes exactly when its texts are read back as they are. -/
theorem validateRecords_eq_ok_iff (hinput : input.Generated) (hcell : input.cell.length ≤ 128)
    (hclaim : claim.Ok) :
    validateRecords lib (evidenceData input claim) (dictOf (manifestMembers input claim)) = .ok () ↔
      joinPairs input.cell = input.cell ∧ joinPairs claim.reason = claim.reason := by
  have hcount := hclaim.count
  have hrecords : (records input claim).length = claim.count + 1 := by
    simp [records]
  have hlength : ((records input claim).map dumps).length = claim.count + 1 := by
    rw [List.length_map, hrecords]
  have hlog : ∀ missing count, logLines (evidenceData input claim) missing count =
      .ok ((records input claim).map dumps) := by
    refine logLines_log ?_ ?_
    · rw [← List.length_pos_iff, hrecords]
      omega
    · rw [hrecords, maximumRecords]
      omega
  rw [validateRecords, hlog, ok_bind, hlength, map_dumps_records]
  simp only [item_manifest (i := 2) rfl, item_manifest (i := 12) rfl, ok_bind, valueOf,
    asInt_numberOfNat]
  rw [bind_eq_ok]
  constructor
  · rintro ⟨state, hlines, -⟩
    -- the first line tells
    cases hn : claim.count with
    | zero =>
      rw [show List.range' 1 claim.count = [] by rw [hn]; rfl, List.map_nil, List.nil_append,
        validateLines, bind_eq_ok] at hlines
      obtain ⟨state', hrecord, -⟩ := hlines
      have hterminal := (validateRecord_terminal hinput hcell hclaim (by omega)).1 hrecord
      exact ⟨hterminal.1, hterminal.2.1⟩
    | succ n =>
      rw [show List.range' 1 claim.count = 1 :: List.range' 2 n by rw [hn]; rfl, List.map_cons,
        List.cons_append, validateLines, bind_eq_ok] at hlines
      obtain ⟨state', hrecord, -⟩ := hlines
      have htrial := (validateRecord_trial hinput hcell (by omega)).1 hrecord
      have hceiling := hclaim.ceiling
      rw [if_pos htrial.2.1] at hceiling
      refine ⟨htrial.1, ?_⟩
      rw [hceiling.2.1]
      rfl
  · rintro ⟨hjoin, hreason⟩
    -- only a completed run has trials
    have hcompleted (hne : claim.count ≠ 0) : claim.outcome = text "completed" := by
      by_contra hfailed
      have hceiling := hclaim.ceiling
      rw [if_neg hfailed] at hceiling
      exact hne hceiling.1
    have hterminal : validateRecord lib (dictOf (manifestMembers input claim)) (claim.count + 1)
        (0 + claim.count + 1) ⟨0 + claim.count, false⟩ (dumps (terminalRecord input claim)) =
          .ok ⟨0 + claim.count, true⟩ :=
      (validateRecord_terminal hinput hcell hclaim (by omega)).2
        ⟨hjoin, hreason, rfl, by omega, rfl⟩
    have htrials := @validateLines_trials lib input claim (claim.count + 1) hinput hcell hjoin
      claim.count hcompleted [dumps (terminalRecord input claim)] 0 (by omega) 0
    refine ⟨⟨0 + claim.count, true⟩, ?_, ?_⟩
    · refine htrials.trans ?_
      rw [validateLines, hterminal, ok_bind, validateLines]
    · simp [check_eq_ok]

end Records

end PrismInfer.Evidence
