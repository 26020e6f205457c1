import PrismInfer.Lib.JsonWrite
import PrismInfer.Benchmark.Sha256Standard

/-!
# Evidence bundles

The producer and the consumer of evidence bundles (scripts/evidence-runner.py):
`emit_bundle` turns raw trials or a failure record into a manifest and a log of
records and publishes them with their digests, `validate_committed_bundle` reads such
a directory back.

A dictionary is the list of its members, in a written object in the order of their names. What
the standard library computes and the program only passes on is in `PythonLibrary`.
-/

namespace PrismInfer.Evidence

open PrismInfer.Lib PrismInfer.Benchmark

/-! ## Python -/

/-- An exception: `Rejected` with its text, or another one by its name. -/
inductive PyError
  | rejected (reason : Text)
  | raised (exception : String)
  deriving DecidableEq

/-- A `datetime`: whether it has a time zone, and its time in microseconds. -/
structure Moment where
  aware : Bool
  time : ℤ

/-- `a < b`, which raises for a time with a zone and one without. -/
def Moment.before (a b : Moment) : Except PyError Bool :=
  if a.aware = b.aware then .ok (a.time < b.time) else .error (.raised "TypeError")

/-- The parts of the standard library that are not modelled: the `datetime` of an ISO text,
the comparison of floating point numbers, given as they were written, and how many levels
the JSON reader may nest below the outermost one. -/
structure PythonLibrary where
  fromIsoFormat : Text → Option Moment
  floatEqualsInt : JsonNumber → ℤ → Bool
  floatsEqual : JsonNumber → JsonNumber → Bool
  nesting : ℕ

/-- A dictionary with text keys. -/
abbrev Dict := List (Text × Json)

/-- `raise Rejected(...)`. -/
def reject {α : Type} (reason : String) : Except PyError α :=
  .error (.rejected (text reason))

/-- `if not ...: raise Rejected(...)`. -/
def check (condition : Bool) (reason : String) : Except PyError Unit :=
  if condition then .ok () else reject reason

/-- `dictionary[key]`. -/
def item (dict : Dict) (key : String) : Except PyError Json :=
  (dict.lookup (text key)).elim (.error (.raised "KeyError")) .ok

/-- `set(dictionary) == {...}`. -/
def sameKeys (dict : Dict) (keys : List String) : Bool :=
  dict.all (fun member => keys.any (text · = member.1)) &&
    keys.all fun key => dict.any (·.1 = text key)

/-- `value == "..."`. -/
def isText (value : Json) (s : Text) : Bool :=
  match value with
  | .string t => t = s
  | _ => false

/-- `type(value) is int`, and the value. -/
def asInt (value : Json) : Option ℤ :=
  match value with
  | .number n => if n.isInt then some n.intValue else none
  | _ => none

variable (lib : PythonLibrary)

/-- `a == b` for numbers and truth values. -/
def numbersEqual (a b : JsonNumber) : Bool :=
  match a.isInt, b.isInt with
  | true, true => a.intValue = b.intValue
  | true, false => lib.floatEqualsInt b a.intValue
  | false, true => lib.floatEqualsInt a b.intValue
  | false, false => lib.floatsEqual a b

/-- The number that a truth value is equal to. -/
def boolNumber (b : Bool) : JsonNumber := numberOfNat (if b then 1 else 0)

/-- `a == b`, for values that nest at most so deep. -/
def pyEquals (lib : PythonLibrary) : ℕ → Json → Json → Bool
  | _, .null, .null => true
  | _, .bool a, .bool b => a = b
  | _, .bool a, .number n => numbersEqual lib (boolNumber a) n
  | _, .number n, .bool b => numbersEqual lib n (boolNumber b)
  | _, .number a, .number b => numbersEqual lib a b
  | _, .string a, .string b => a = b
  | depth + 1, .array a, .array b =>
    a.length = b.length && (a.zip b).all fun (x, y) => pyEquals lib depth x y
  | depth + 1, .object a, .object b =>
    a.length = b.length && a.all fun (key, x) =>
      (b.lookup key).any fun y => pyEquals lib depth x y
  | _, _, _ => false

/-- `str.encode` of a text in ASCII. -/
def encode (t : Text) : List Byte :=
  t.map fun c => BitVec.ofNat 8 c.val

/-- `json.dumps(..., sort_keys=True, separators=(",", ":"))` of members in the order of
their names, encoded. -/
def dumps (members : List (Text × JsonScalar)) : List Byte :=
  encode (writeObject members)

/-- `hashlib.sha256(data).hexdigest()`. -/
def sha256Hex (data : List Byte) : Text :=
  ofChars (Fips180.sha256 data)

/-! ## Untrusted JSON -/

/-- What stops the reader: a text that is no JSON, or an exception of one of its hooks. -/
inductive LoadsError
  | malformed
  | raises (error : PyError)

/-- The first name that is there twice. -/
def firstDuplicate : List Text → Dict → Option Text
  | _, [] => none
  | seen, (key, _) :: rest =>
    if key ∈ seen then some key else firstDuplicate (key :: seen) rest

/-- The limit of the digits that `int` converts. -/
def maximumIntDigits : ℕ := 4300

/-- `json.loads` with `no_duplicates` and the constants refused
(evidence-runner.py:69–83). -/
def loadsHooks : JsonHooks LoadsError where
  malformed := .malformed
  tooDeep := .raises (.raised "RecursionError")
  number n :=
    if n.isInt && maximumIntDigits < n.digits.length then .error (.raises (.raised "ValueError"))
    else .ok (.number n)
  constant word := .error (.raises (.rejected (text "non_finite_json:" ++ ofChars word)))
  object members :=
    match firstDuplicate [] members with
    | some key => .error (.raises (.rejected (text "duplicate_field:" ++ key)))
    | none => .ok (.object members)

/-- `strict_json` (evidence-runner.py:78–88). -/
def strictJson (data : List Byte) (maximum : ℕ) (label : String) : Except PyError Dict :=
  if data.isEmpty || maximum < data.length || [0xEF, 0xBB, 0xBF].isPrefixOf data then
    reject (label ++ "_size_or_encoding_rejected")
  else
    match decodeUtf8 data with
    | none => reject (label ++ "_json_malformed")
    | some t =>
      match loadsHooks.read (lib.nesting + 1) t with
      | .error .malformed => reject (label ++ "_json_malformed")
      | .error (.raises error) => .error error
      | .ok (.object members) => .ok members
      | .ok _ => reject (label ++ "_not_object")

/-! ## The checks of both sides -/

/-- `POLICY`. -/
def policy : Text := text "evidence-policy-v1"

/-- `SAMPLE_PLAN`. -/
def samplePlan : Text := text "sample-plan-v1"

/-- `MANIFEST_KEYS`. -/
def manifestKeys : List String :=
  ["manifest_version", "run_id", "run_fingerprint_sha256", "validation_cell_id",
    "evidence_policy_version", "sample_plan_version", "started_at_utc", "completed_at_utc",
    "terminal_sequence", "declared_trial_count", "evidence_sha256", "run_outcome",
    "claim_ceiling", "failure_reason"]

/-- `IDENTITY_KEYS`. -/
def identityKeys : List String :=
  ["record_type", "run_id", "validation_cell_id", "evidence_policy_version",
    "sample_plan_version", "sequence"]

/-- `TRIAL_KEYS`. -/
def trialKeys : List String := identityKeys ++ ["trial_index", "status"]

/-- `TERMINAL_KEYS`. -/
def terminalKeys : List String := identityKeys ++ ["outcome", "reason"]

/-- `FAILURE_OUTCOMES`. -/
def failureOutcomes : List String := ["skipped", "unsupported", "rejected", "aborted"]

/-- `OUTCOMES`. -/
def outcomes : List String := "completed" :: failureOutcomes

/-- `require_string` (evidence-runner.py:219–222). -/
def requireString (value : Json) (field : String) (maximum : ℕ) : Except PyError Text :=
  match value with
  | .string s => if s.length ≤ maximum then .ok s else reject ("invalid_field:" ++ field)
  | _ => reject ("invalid_field:" ++ field)

/-- `parse_time` (evidence-runner.py:209–216). -/
def parseTime (value : Json) (field : String) : Except PyError Moment :=
  match value with
  | .string s =>
    if s.getLast? = some (codePoint 'Z') then
      match lib.fromIsoFormat (s.dropLast ++ text "+00:00") with
      | some time => .ok time
      | none => reject ("invalid_field:" ++ field)
    else reject ("invalid_field:" ++ field)
  | _ => reject ("invalid_field:" ++ field)

/-- The characters of a run id. -/
def isRunIdChar (c : CodePoint) : Bool :=
  isDigit c || (65 ≤ c.val && c.val ≤ 90) || (97 ≤ c.val && c.val ≤ 122) ||
    c = codePoint '_' || c = codePoint '-'

/-- The test of a run id: of its length, its first character and its characters. -/
def runIdOk (s : Text) : Bool :=
  16 ≤ s.length && s.head?.any (fun c => isRunIdChar c && c ≠ codePoint '_' && c ≠ codePoint '-') &&
    s.all isRunIdChar

/-- 64 hexadecimal digits in lower case. -/
def isSha256 (s : Text) : Bool :=
  s.length = 64 && s.all fun c => isDigit c || (97 ≤ c.val && c.val ≤ 102)

/-- A minute in microseconds. -/
def minute : ℤ := 60 * 1000000

/-- `expected_run_fingerprint` (evidence-runner.py:53–66). -/
def expectedRunFingerprint (cell : Text) (count : ℕ) (ceiling outcome reason : Text) : Text :=
  sha256Hex (dumps [
    (text "claim_ceiling", .string ceiling),
    (text "declared_trial_count", .nat count),
    (text "evidence_policy_version", .string policy),
    (text "failure_reason", .string reason),
    (text "fingerprint_version", .string (text "run-fingerprint-v1")),
    (text "run_outcome", .string outcome),
    (text "sample_plan_version", .string samplePlan),
    (text "validation_cell_id", .string cell)])

/-- `outcome not in OUTCOMES`, which raises for a value that cannot be hashed. -/
def outcomeIn (value : Json) (names : List String) : Except PyError Bool :=
  match value with
  | .string s => .ok (names.any (text · = s))
  | .array _ => .error (.raised "TypeError")
  | .object _ => .error (.raised "TypeError")
  | _ => .ok false

/-- The counts of a manifest: integers in range, the terminal record behind the trials. -/
def countsOk (count terminal : Option ℤ) : Bool :=
  match count, terminal with
  | some count, some terminal => 0 ≤ count && count ≤ 1000000 && terminal = count + 1
  | _, _ => false

/-- The text of a value that is known to be one. -/
def textOf (value : Json) : Text :=
  match value with
  | .string s => s
  | _ => []

/-- `validate_manifest` up to the cell id. The two lists of names behind
`manifest_fields_rejected` are left out of the text. -/
def manifestIdentity (manifest : Dict) : Except PyError Unit := do
  check (sameKeys manifest manifestKeys) "manifest_fields_rejected"
  check (isText (← item manifest "manifest_version") (text "1.0") &&
      isText (← item manifest "evidence_policy_version") policy &&
      isText (← item manifest "sample_plan_version") samplePlan)
    "manifest_version_identity_mismatch"
  let runId ← requireString (← item manifest "run_id") "run_id" 64
  check (runIdOk runId) "invalid_field:run_id"
  let fingerprint ←
    requireString (← item manifest "run_fingerprint_sha256") "run_fingerprint_sha256" 64
  let digest ← requireString (← item manifest "evidence_sha256") "evidence_sha256" 64
  check (isSha256 fingerprint && isSha256 digest) "invalid_sha256_identity"
  let _ ← requireString (← item manifest "validation_cell_id") "validation_cell_id" 128

/-- The test of the order of the two times and, where it is asked, of their age
(evidence-runner.py:240). -/
def timesRejected (started completed : Moment) (now : ℤ) (enforceFreshness : Bool) :
    Except PyError Bool := do
  if ← completed.before started then .ok true
  else if enforceFreshness then
    if ← completed.before ⟨true, now - 15 * minute⟩ then .ok true
    else Moment.before ⟨true, now + 5 * minute⟩ completed
  else .ok false

/-- `validate_manifest`: the two times. -/
def manifestTimes (manifest : Dict) (now : ℤ) (enforceFreshness : Bool) :
    Except PyError Unit := do
  let started ← parseTime lib (← item manifest "started_at_utc") "started_at_utc"
  let completed ← parseTime lib (← item manifest "completed_at_utc") "completed_at_utc"
  check (!(← timesRejected started completed now enforceFreshness)) "manifest_freshness_rejected"

/-- `validate_manifest`: the counts, the outcome with its ceiling, and the fingerprint. -/
def manifestClaim (manifest : Dict) : Except PyError Unit := do
  let count := asInt (← item manifest "declared_trial_count")
  check (countsOk count (asInt (← item manifest "terminal_sequence")))
    "manifest_count_or_sequence_rejected"
  let outcome ← item manifest "run_outcome"
  let reason ← requireString (← item manifest "failure_reason") "failure_reason" 512
  check (← outcomeIn outcome outcomes) "invalid_field:run_outcome"
  let ceiling ← item manifest "claim_ceiling"
  if isText outcome (text "completed") then
    check (count ≠ some 0 && reason.isEmpty && isText ceiling (text "research-only"))
      "completed_manifest_rejected"
  else
    check (count = some 0 && !reason.isEmpty && isText ceiling (text "rejected"))
      "failure_manifest_rejected"
  let cell := textOf (← item manifest "validation_cell_id")
  let fingerprint := textOf (← item manifest "run_fingerprint_sha256")
  check (fingerprint = expectedRunFingerprint cell (count.getD 0).toNat (textOf ceiling)
    (textOf outcome) reason) "run_fingerprint_mismatch"

/-- `validate_manifest` (evidence-runner.py:225–258). -/
def validateManifest (manifest : Dict) (now : ℤ) (enforceFreshness : Bool) :
    Except PyError Unit := do
  manifestIdentity manifest
  manifestTimes lib manifest now enforceFreshness
  manifestClaim manifest

/-- `bytes.splitlines`. -/
def splitLines : List Byte → List (List Byte)
  | [] => []
  | b :: rest =>
    if b = 10 then [] :: splitLines rest
    else if b = 13 then
      match rest with
      | [] => [[]]
      | c :: rest' => if c = 10 then [] :: splitLines rest' else [] :: splitLines (c :: rest')
    else
      match splitLines rest with
      | [] => [[b]]
      | line :: lines => (b :: line) :: lines

/-- `MAX_RECORDS`. -/
def maximumRecords : ℕ := 1000001

/-- The lines of a log: it ends with a line end and has not too many of them
(evidence-runner.py:262–266, 294–298). -/
def logLines (data : List Byte) (missing count : String) : Except PyError (List (List Byte)) := do
  check (data.getLast? = some 10) missing
  let lines := splitLines data
  check (!lines.isEmpty && lines.length ≤ maximumRecords) count
  .ok lines

/-- The `raise Rejected(f"...:{index}")` of a record. -/
def checkAt (condition : Bool) (reason : String) (index : ℕ) : Except PyError Unit :=
  if condition then .ok () else .error (.rejected (text reason ++ text ":" ++ writeNat index))

/-- The fields that every record shares with the manifest. -/
def sharedFields : List String :=
  ["run_id", "validation_cell_id", "evidence_policy_version", "sample_plan_version"]

/-- The comparison of the shared fields, in order (evidence-runner.py:274–276). -/
def checkShared (lib : PythonLibrary) (record manifest : Dict) (index : ℕ) :
    List String → Except PyError Unit
  | [] => .ok ()
  | key :: keys => do
    if pyEquals lib lib.nesting (← item record key) (← item manifest key) then
      checkShared lib record manifest index keys
    else
      .error (.rejected
        (text "record_identity_mismatch:" ++ writeNat index ++ text ":" ++ text key))

/-- What the loop over the records has counted. -/
structure RecordState where
  trials : ℕ := 0
  terminalSeen : Bool := false

/-- One record (evidence-runner.py:270–288). -/
def validateRecord (manifest : Dict) (total index : ℕ) (state : RecordState) (line : List Byte) :
    Except PyError RecordState := do
  let record ← strictJson lib line (64 * 1024) "record"
  let isTrial := (record.lookup (text "record_type")).any (isText · (text "trial"))
  checkAt (sameKeys record (if isTrial then trialKeys else terminalKeys)) "record_fields_rejected"
    index
  checkShared lib record manifest index sharedFields
  let sequence ← item record "sequence"
  checkAt (pyEquals lib lib.nesting sequence (.number (numberOfNat index)))
    "record_sequence_mismatch" index
  checkAt (asInt sequence).isSome "record_sequence_type_rejected" index
  if isTrial then
    checkAt (asInt (← item record "trial_index") = some (index : ℤ) && !state.terminalSeen &&
        isText (← item manifest "run_outcome") (text "completed") &&
        isText (← item record "status") (text "ok"))
      "trial_record_rejected" index
    .ok { state with trials := state.trials + 1 }
  else
    checkAt (!state.terminalSeen && index = total &&
        pyEquals lib lib.nesting (← item record "outcome") (← item manifest "run_outcome") &&
        pyEquals lib lib.nesting (← item record "reason") (← item manifest "failure_reason"))
      "terminal_record_rejected" index
    .ok { state with terminalSeen := true }

/-- The loop over the records, from a line number on. -/
def validateLines (lib : PythonLibrary) (manifest : Dict) (total : ℕ) :
    ℕ → RecordState → List (List Byte) → Except PyError RecordState
  | _, state, [] => .ok state
  | index, state, line :: lines => do
    let state ← validateRecord lib manifest total index state line
    validateLines lib manifest total (index + 1) state lines

/-- `validate_records` (evidence-runner.py:261–290). -/
def validateRecords (data : List Byte) (manifest : Dict) :
    Except PyError Unit := do
  let lines ← logLines data "evidence_missing_final_newline" "evidence_record_count_rejected"
  let state ← validateLines lib manifest lines.length 1 {} lines
  check (state.terminalSeen &&
      asInt (← item manifest "declared_trial_count") = some (state.trials : ℤ) &&
      asInt (← item manifest "terminal_sequence") = some (lines.length : ℤ))
    "evidence_terminal_or_count_mismatch"

/-! ## The producer -/

/-- `parse_jsonl_input` (evidence-runner.py:293–299). -/
def parseJsonlInput (data : List Byte) (label : String) :
    Except PyError (List Dict) := do
  let lines ← logLines data (label ++ "_missing_final_newline") (label ++ "_record_count_rejected")
  lines.mapM fun line => strictJson lib line (64 * 1024) label

/-- The arguments of a bundle: what `emit_bundle` is given, the random part of its run id
and the texts of its two times, with the second time itself. -/
structure EmitInput where
  cell : Text
  declared : ℤ
  raw : Option (List Byte)
  failure : Option (List Byte)
  (token started completed : Text)
  now : ℤ

variable (input : EmitInput)

/-- The run id: `"run_" + secrets.token_hex(16)`. -/
def EmitInput.runId : Text := text "run_" ++ input.token

/-- `RAW_TRIAL_INPUT_KEYS` and `FAILURE_INPUT_KEYS`. -/
def rawTrialInputKeys : List String := ["trial_index", "status"]

/-- See `rawTrialInputKeys`. -/
def failureInputKeys : List String := ["outcome", "reason"]

/-- The loop over the raw trials (evidence-runner.py:316–319). -/
def checkTrials : ℕ → List Dict → Except PyError Unit
  | _, [] => .ok ()
  | index, value :: values => do
    -- `or` reads the members only of a trial with the two names
    let accepted ←
      if sameKeys value rawTrialInputKeys then do
        .ok (asInt (← item value "trial_index") = some (index : ℤ) &&
          isText (← item value "status") (text "ok"))
      else .ok false
    checkAt accepted "raw_trial_rejected" index
    checkTrials (index + 1) values

/-- What a run says: its outcome, its reason, its ceiling and the number of its trials. -/
structure Claim where
  (outcome reason ceiling : Text)
  count : ℕ

/-- The record of a trial. -/
def trialRecord (index : ℕ) : List (Text × JsonScalar) :=
  [(text "evidence_policy_version", .string policy),
    (text "record_type", .string (text "trial")),
    (text "run_id", .string input.runId),
    (text "sample_plan_version", .string samplePlan),
    (text "sequence", .nat index),
    (text "status", .string (text "ok")),
    (text "trial_index", .nat index),
    (text "validation_cell_id", .string input.cell)]

/-- The record behind the trials. -/
def terminalRecord (claim : Claim) : List (Text × JsonScalar) :=
  [(text "evidence_policy_version", .string policy),
    (text "outcome", .string claim.outcome),
    (text "reason", .string claim.reason),
    (text "record_type", .string (text "terminal")),
    (text "run_id", .string input.runId),
    (text "sample_plan_version", .string samplePlan),
    (text "sequence", .nat (claim.count + 1)),
    (text "validation_cell_id", .string input.cell)]

/-- All records of a run. -/
def records (claim : Claim) : List (List (Text × JsonScalar)) :=
  (List.range claim.count).map (fun i => trialRecord input (i + 1)) ++ [terminalRecord input claim]

/-- `evidence_data`. -/
def evidenceData (claim : Claim) : List Byte :=
  (records input claim).flatMap fun record => dumps record ++ [10]

/-- `manifest` with its fingerprint. -/
def manifestMembers (claim : Claim) : List (Text × JsonScalar) :=
  [(text "claim_ceiling", .string claim.ceiling),
    (text "completed_at_utc", .string input.completed),
    (text "declared_trial_count", .nat claim.count),
    (text "evidence_policy_version", .string policy),
    (text "evidence_sha256", .string (sha256Hex (evidenceData input claim))),
    (text "failure_reason", .string claim.reason),
    (text "manifest_version", .string (text "1.0")),
    (text "run_fingerprint_sha256", .string
      (expectedRunFingerprint input.cell claim.count claim.ceiling claim.outcome claim.reason)),
    (text "run_id", .string input.runId),
    (text "run_outcome", .string claim.outcome),
    (text "sample_plan_version", .string samplePlan),
    (text "started_at_utc", .string input.started),
    (text "terminal_sequence", .nat (claim.count + 1)),
    (text "validation_cell_id", .string input.cell)]

/-- A member of a dictionary that the program builds. -/
def valueOf : JsonScalar → Json
  | .string s => .string s
  | .nat n => .number (numberOfNat n)

/-- A dictionary that the program builds. -/
def dictOf (members : List (Text × JsonScalar)) : Dict :=
  members.map fun member => (member.1, valueOf member.2)

/-- The files of a bundle. -/
structure BundleFiles where
  (manifest evidence manifestDigest evidenceDigest commit : List Byte)

/-- A digest file. -/
def digestFile (data : List Byte) (name : String) : List Byte :=
  encode (sha256Hex data ++ text "  " ++ text name ++ text "\n")

/-- `commit`. -/
def commitMembers (manifestData evidence : List Byte) (runId fingerprint : Text) :
    List (Text × JsonScalar) :=
  [(text "bundle_version", .string (text "committed-evidence-v1")),
    (text "evidence_sha256", .string (sha256Hex evidence)),
    (text "manifest_sha256", .string (sha256Hex manifestData)),
    (text "run_fingerprint_sha256", .string fingerprint),
    (text "run_id", .string runId)]

/-- The files that `publish` writes (evidence-runner.py:387–400). -/
def bundleFiles (manifestData evidence : List Byte) (runId fingerprint : Text) : BundleFiles where
  manifest := manifestData
  evidence := evidence
  manifestDigest := digestFile manifestData "manifest.json"
  evidenceDigest := digestFile evidence "evidence.jsonl"
  commit := dumps (commitMembers manifestData evidence runId fingerprint) ++ [10]

/-- A published directory: its name in the output root and its files. -/
structure Bundle where
  name : Text
  files : BundleFiles

/-- `emit_bundle` behind the reading of its input (evidence-runner.py:331–348), with
everything that `publish` asks of the file system succeeding. -/
def finishBundle (input : EmitInput) (claim : Claim) :
    Except PyError Bundle := do
  let manifest := manifestMembers input claim
  let evidence := evidenceData input claim
  validateManifest lib (dictOf manifest) input.now true
  validateRecords lib evidence (dictOf manifest)
  let fingerprint :=
    expectedRunFingerprint input.cell claim.count claim.ceiling claim.outcome claim.reason
  .ok {
    name := fingerprint
    files := bundleFiles (dumps manifest ++ [10]) evidence input.runId fingerprint }

/-- The claim of a run with raw trials. -/
def readTrials (input : EmitInput) (data : List Byte) :
    Except PyError Claim := do
  let inputs ← parseJsonlInput lib data "raw_trial"
  check (0 < input.declared && (inputs.length : ℤ) = input.declared)
    "raw_trial_declared_count_mismatch"
  checkTrials 1 inputs
  .ok ⟨text "completed", [], text "research-only", inputs.length⟩

/-- The claim of a run that failed. -/
def readFailure (input : EmitInput) (data : List Byte) :
    Except PyError Claim := do
  let inputs ← parseJsonlInput lib data "failure"
  match inputs with
  | [value] =>
    check (input.declared = 0 && sameKeys value failureInputKeys) "failure_input_rejected"
    let outcome ← item value "outcome"
    let reason ← requireString (← item value "reason") "reason" 512
    check ((← outcomeIn outcome failureOutcomes) && !reason.isEmpty) "failure_input_rejected"
    .ok ⟨textOf outcome, reason, text "rejected", 0⟩
  | _ => reject "failure_input_rejected"

/-- `emit_bundle` (evidence-runner.py:302–348). -/
def emitBundle (input : EmitInput) : Except PyError Bundle :=
  match input.raw, input.failure with
  | some data, none => do finishBundle lib input (← readTrials lib input data)
  | none, some data => do finishBundle lib input (← readFailure lib input data)
  | _, _ => reject "exactly_one_evidence_input_required"

/-! ## The consumer -/

/-- `MAX_MANIFEST`. -/
def maximumManifest : ℕ := 64 * 1024

/-- `MAX_EVIDENCE`. -/
def maximumEvidence : ℕ := 64 * 1024 * 1024

/-- `COMMIT_KEYS`. -/
def commitKeys : List String :=
  ["bundle_version", "run_id", "run_fingerprint_sha256", "manifest_sha256", "evidence_sha256"]

/-- The size limits, in the order of the reads (evidence-runner.py:145–147, 168–181). -/
def checkSizes (files : BundleFiles) : Except PyError Unit := do
  check (files.manifest.length ≤ maximumManifest) "bundle_manifest_not_bounded_regular_file"
  check (files.evidence.length ≤ maximumEvidence) "bundle_evidence_not_bounded_regular_file"
  check (files.manifestDigest.length ≤ 256) "bundle_manifest_not_bounded_regular_file"
  check (files.evidenceDigest.length ≤ 256) "bundle_evidence_not_bounded_regular_file"
  check (files.commit.length ≤ 4096) "bundle_COMMIT_not_bounded_regular_file"

/-- The five comparisons of commit file, manifest, digests and directory name
(evidence-runner.py:194–200). -/
def identities (bundle : Bundle) (manifest commit : Dict) :
    Except PyError Bool := do
  let sameRun := pyEquals lib lib.nesting (← item commit "run_id") (← item manifest "run_id")
  let fingerprint ← item manifest "run_fingerprint_sha256"
  let sameFingerprint :=
    pyEquals lib lib.nesting (← item commit "run_fingerprint_sha256") fingerprint
  let sameManifest := isText (← item commit "manifest_sha256") (sha256Hex bundle.files.manifest)
  let sameEvidence ←
    if isText (← item commit "evidence_sha256") (sha256Hex bundle.files.evidence) then
      (item manifest "evidence_sha256").map (isText · (sha256Hex bundle.files.evidence))
    else .ok false
  .ok (sameRun && isText fingerprint bundle.name && sameFingerprint && sameManifest && sameEvidence)

/-- `validate_committed_bundle` on a directory with exactly the five regular files, which
nobody changes meanwhile (evidence-runner.py:144–206). -/
def validateCommittedBundle (bundle : Bundle) (now : ℤ) (requireFresh : Bool) :
    Except PyError Dict := do
  let files := bundle.files
  checkSizes files
  let manifest ← strictJson lib files.manifest maximumManifest "bundle_manifest"
  let commit ← strictJson lib files.commit 4096 "bundle_commit"
  check (sameKeys commit commitKeys &&
      (commit.lookup (text "bundle_version")).any (isText · (text "committed-evidence-v1")))
    "bundle_commit_fields_rejected"
  check (files.manifestDigest = digestFile files.manifest "manifest.json")
    "bundle_manifest_digest_rejected"
  check (files.evidenceDigest = digestFile files.evidence "evidence.jsonl")
    "bundle_evidence_digest_rejected"
  check (← identities lib bundle manifest commit) "bundle_identity_or_hash_mismatch"
  validateManifest lib manifest now requireFresh
  validateRecords lib files.evidence manifest
  .ok manifest

end PrismInfer.Evidence
