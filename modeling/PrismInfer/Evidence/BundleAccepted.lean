import PrismInfer.Evidence.EmittedBundle

/-!
# Emitted bundles under the consumer

`validate_committed_bundle` on what `emit_bundle` has published. The two sides make the
same checks on the manifest and on the log, and differ in one limit: the consumer reads
no log above 64 MiB, and the producer has no limit on the size of the log, only one on
the number of trials. So a bundle is accepted exactly when its log fits
(`emitted_bundle_accepted_iff`).
-/

namespace PrismInfer.Evidence

open PrismInfer.Lib PrismInfer.Benchmark

section Consumer

variable {lib : PythonLibrary} {input : EmitInput} {claim : Claim}

/-! ## The files of an emitted bundle -/

theorem joinPairs_sha256Hex (data : List Byte) : joinPairs (sha256Hex data) = sha256Hex data :=
  joinPairs_of_lt fun _ hc => (lt_of_isHexDigit (isHexDigit_of_mem_sha256Hex hc)).trans (by decide)

/-- A fingerprint is a digest. -/
theorem fingerprint_fits (cell : Text) (count : ℕ) (ceiling outcome reason : Text) :
    joinPairs (expectedRunFingerprint cell count ceiling outcome reason) =
        expectedRunFingerprint cell count ceiling outcome reason ∧
      (expectedRunFingerprint cell count ceiling outcome reason).length ≤ 64 := by
  rw [expectedRunFingerprint]
  exact ⟨joinPairs_sha256Hex _, (length_sha256Hex _).le⟩

theorem Claim.Ok.ceiling_fits (hclaim : claim.Ok) :
    joinPairs claim.ceiling = claim.ceiling ∧ claim.ceiling.length ≤ 20 := by
  have hceiling := hclaim.ceiling
  split at hceiling
  · rw [hceiling.2.2]
    exact ⟨joinPairs_text _, by decide⟩
  · rw [hceiling.2.2]
    exact ⟨joinPairs_text _, by decide⟩

theorem writable_manifestMembers (hclaim : claim.Ok) : Writable (manifestMembers input claim) := by
  have hcount := hclaim.count
  refine writable_of_names map_fst_manifestMembers (by decide) (by decide) names_fixed.1 ?_
  simp only [manifestMembers, List.forall_mem_cons, List.not_mem_nil, false_imp_iff, implies_true,
    and_true, JsonScalar.nat.injEq, reduceCtorEq, forall_eq', true_and]
  omega

/-- The manifest fits into the limit of the consumer. -/
theorem length_manifest_le (hinput : input.Generated) (hcell : input.cell.length ≤ 128)
    (hclaim : claim.Ok) :
    (dumps (manifestMembers input claim) ++ [10]).length ≤ maximumManifest := by
  have hcount := hclaim.count
  have hframe := names_fixed.2.2.2.1
  have hsha (data : List Byte) := stringLength_le (length_sha256Hex data).le
  have hceiling := stringLength_le hclaim.ceiling_fits.2
  have houtcome := stringLength_le hclaim.outcome_fits.2
  have hreason := stringLength_le hclaim.reason
  have hstarted := stringLength_le hinput.started_length
  have hcompleted := stringLength_le hinput.completed_length
  have hcells := stringLength_le hcell
  have hdigits := digitCount_le (show claim.count < 10 ^ 7 by omega)
  have hdigits' := digitCount_le (show claim.count + 1 < 10 ^ 7 by omega)
  have hevidence := hsha (evidenceData input claim)
  have hfingerprint := stringLength_le (fingerprint_fits input.cell claim.count claim.ceiling
    claim.outcome claim.reason).2
  rw [List.length_append, length_dumps map_fst_manifestMembers (by simp [manifestMembers]),
    maximumManifest]
  simp only [manifestMembers, List.map_cons, List.map_nil, List.sum_cons, List.sum_nil,
    scalarLength, stringLength_fixed, stringLength_runId hinput, List.length_singleton]
  omega

/-- The names of a commit file, in order. -/
def commitNames : List String :=
  ["bundle_version", "evidence_sha256", "manifest_sha256", "run_fingerprint_sha256", "run_id"]

theorem commitNames_fixed : asciiNames commitNames = true ∧ frameLength commitNames ≤ 200 := by
  decide

section Commit

variable {manifestData evidence : List Byte} {fingerprint : Text} (runId : Text)

theorem map_fst_commitMembers :
    (commitMembers manifestData evidence runId fingerprint).map Prod.fst =
      commitNames.map text := rfl

theorem writable_commitMembers :
    Writable (commitMembers manifestData evidence runId fingerprint) := by
  refine writable_of_names (map_fst_commitMembers runId) (by decide) (by decide)
    commitNames_fixed.1 ?_
  simp [commitMembers]

/-- The commit file of a bundle has its members and its version. -/
theorem fields_commitMembers :
    (sameKeys (dictOf (commitMembers manifestData evidence runId fingerprint)) commitKeys &&
      ((dictOf (commitMembers manifestData evidence runId fingerprint)).lookup
        (text "bundle_version")).any (isText · (text "committed-evidence-v1"))) = true := by
  rw [sameKeys_of_names ((map_fst_dictOf _).trans (map_fst_commitMembers runId)),
    Bool.and_eq_true]
  refine ⟨by decide, ?_⟩
  simp [commitMembers, dictOf, valueOf, isText_string]

theorem length_commit_le (hinput : input.Generated) (hfingerprint : fingerprint.length ≤ 64) :
    (dumps (commitMembers manifestData evidence input.runId fingerprint) ++ [10]).length ≤
      4096 := by
  have hframe := commitNames_fixed.2
  have hfingerprintLength := stringLength_le hfingerprint
  have hmanifest := stringLength_le (length_sha256Hex manifestData).le
  have hevidence := stringLength_le (length_sha256Hex evidence).le
  rw [List.length_append, length_dumps (map_fst_commitMembers input.runId)
    (by simp [commitMembers])]
  simp only [commitMembers, List.map_cons, List.map_nil, List.sum_cons, List.sum_nil,
    scalarLength, stringLength_fixed, stringLength_runId hinput, List.length_singleton]
  omega

end Commit

theorem length_digestFile_le {data : List Byte} {name : String} (hname : (text name).length ≤ 100) :
    (digestFile data name).length ≤ 256 := by
  have hfixed : (text "  ").length = 2 ∧ (text "\n").length = 1 := by decide
  rw [digestFile, length_encode]
  simp only [List.length_append, length_sha256Hex, hfixed]
  omega

theorem checkSizes_eq_ok_iff {files : BundleFiles} :
    checkSizes files = .ok () ↔ files.manifest.length ≤ maximumManifest ∧
      files.evidence.length ≤ maximumEvidence ∧ files.manifestDigest.length ≤ 256 ∧
        files.evidenceDigest.length ≤ 256 ∧ files.commit.length ≤ 4096 := by
  simp only [checkSizes, check_bind, check_eq_ok, decide_eq_true_eq]

/-- The published bundle of a run. -/
def emittedBundle (input : EmitInput) (claim : Claim) : Bundle where
  name := expectedRunFingerprint input.cell claim.count claim.ceiling claim.outcome claim.reason
  files := bundleFiles (dumps (manifestMembers input claim) ++ [10]) (evidenceData input claim)
    input.runId
    (expectedRunFingerprint input.cell claim.count claim.ceiling claim.outcome claim.reason)

/-- The sizes of an emitted bundle fit, except that of the log, which may be larger. -/
theorem checkSizes_emitted (hinput : input.Generated) (hcell : input.cell.length ≤ 128)
    (hclaim : claim.Ok) : checkSizes (emittedBundle input claim).files = .ok () ↔
      (evidenceData input claim).length ≤ maximumEvidence := by
  have hmanifest := length_manifest_le hinput hcell hclaim
  have hdigest (data : List Byte) : (digestFile data "manifest.json").length ≤ 256 :=
    length_digestFile_le (by decide)
  have hdigest' (data : List Byte) : (digestFile data "evidence.jsonl").length ≤ 256 :=
    length_digestFile_le (by decide)
  have hfingerprint := (fingerprint_fits input.cell claim.count claim.ceiling claim.outcome
    claim.reason).2
  have hcommit (manifestData evidence : List Byte) : (dumps (commitMembers manifestData evidence
      input.runId (expectedRunFingerprint input.cell claim.count claim.ceiling claim.outcome
        claim.reason)) ++ [10]).length ≤ 4096 :=
    length_commit_le hinput hfingerprint
  rw [checkSizes_eq_ok_iff]
  simp only [emittedBundle, bundleFiles, hmanifest, hdigest, hdigest', hcommit, true_and, and_true]

/-- The manifest of an emitted bundle is read as it was built. -/
theorem strictJson_manifest (hinput : input.Generated) (hcell : input.cell.length ≤ 128)
    (hclaim : claim.Ok) (hjoin : joinPairs input.cell = input.cell)
    (hreason : joinPairs claim.reason = claim.reason) :
    strictJson lib (dumps (manifestMembers input claim) ++ [10]) maximumManifest "bundle_manifest" =
      .ok (dictOf (manifestMembers input claim)) := by
  have hwritable : Writable (manifestMembers input claim) := writable_manifestMembers hclaim
  have hiso {s : Text} (h : ∀ c ∈ s, c.val < 128) : joinPairs s = s :=
    joinPairs_of_lt fun c hc => (h c hc).trans (by decide)
  rw [strictJson_dumps lib hwritable (.inr rfl) (length_manifest_le hinput hcell hclaim),
    map_readMember_eq_dictOf hwritable]
  simp only [manifestMembers, List.forall_mem_cons, List.not_mem_nil, false_imp_iff, implies_true,
    and_true, JsonScalar.string.injEq, reduceCtorEq, forall_eq', true_and]
  exact ⟨hclaim.ceiling_fits.1, hiso hinput.completed_ascii, joinPairs_text _,
    joinPairs_sha256Hex _, hreason, joinPairs_text _, (fingerprint_fits _ _ _ _ _).1,
    joinPairs_runId hinput, hclaim.outcome_fits.1, joinPairs_text _, hiso hinput.started_ascii,
    hjoin⟩

/-- The commit file of an emitted bundle is read as it was built. -/
theorem strictJson_commit (hinput : input.Generated) {manifestData evidence : List Byte}
    {fingerprint : Text}
    (hfingerprint : joinPairs fingerprint = fingerprint ∧ fingerprint.length ≤ 64) :
    strictJson lib (dumps (commitMembers manifestData evidence input.runId fingerprint) ++ [10])
        4096 "bundle_commit" =
      .ok (dictOf (commitMembers manifestData evidence input.runId fingerprint)) := by
  have hwritable : Writable (commitMembers manifestData evidence input.runId fingerprint) :=
    writable_commitMembers input.runId
  rw [strictJson_dumps lib hwritable (.inr rfl) (length_commit_le hinput hfingerprint.2),
    map_readMember_eq_dictOf hwritable]
  simp only [commitMembers, List.forall_mem_cons, List.not_mem_nil, false_imp_iff, implies_true,
    and_true, JsonScalar.string.injEq, forall_eq']
  exact ⟨joinPairs_text _, joinPairs_sha256Hex _, joinPairs_sha256Hex _, hfingerprint.1,
    joinPairs_runId hinput⟩

end Consumer

/-- What the consumer still checks when manifest and commit file agree with each other and with
the digests. -/
theorem validateCommittedBundle_of_agreement {lib : PythonLibrary} {name : Text}
    {manifestData evidence commitData : List Byte} {manifest commit : Dict} {runId : Text} {now : ℤ}
    {fresh : Bool}
    (hmanifest : strictJson lib manifestData maximumManifest "bundle_manifest" = .ok manifest)
    (hcommit : strictJson lib commitData 4096 "bundle_commit" = .ok commit)
    (hfields : (sameKeys commit commitKeys && (commit.lookup (text "bundle_version")).any
      (isText · (text "committed-evidence-v1"))) = true)
    (hrun : item commit "run_id" = .ok (.string runId))
    (hrun' : item manifest "run_id" = .ok (.string runId))
    (hname : item commit "run_fingerprint_sha256" = .ok (.string name))
    (hname' : item manifest "run_fingerprint_sha256" = .ok (.string name))
    (hhash : item commit "manifest_sha256" = .ok (.string (sha256Hex manifestData)))
    (hlog : item commit "evidence_sha256" = .ok (.string (sha256Hex evidence)))
    (hlog' : item manifest "evidence_sha256" = .ok (.string (sha256Hex evidence)))
    {files : BundleFiles}
    (hfiles : files = ⟨manifestData, evidence, digestFile manifestData "manifest.json",
      digestFile evidence "evidence.jsonl", commitData⟩) :
    validateCommittedBundle lib ⟨name, files⟩ now fresh = (do
      checkSizes files
      validateManifest lib manifest now fresh
      validateRecords lib evidence manifest
      .ok manifest) := by
  subst hfiles
  have hpass {reason : String} {f : Unit → Except PyError Dict} :
      (check true reason >>= f) = f () := rfl
  simp only [validateCommittedBundle, identities, hmanifest, hcommit, ok_bind, hfields, hpass,
    decide_true, hrun, hrun', hname, hname', hhash, hlog, hlog', pyEquals_string, isText_string,
    if_true, Except.map, Bool.and_true]

section Emitted

variable {lib : PythonLibrary} {input : EmitInput} {claim : Claim}

/-- The consumer on a bundle of `publish` whose manifest names the run, the fingerprint and
the digest of the log. -/
theorem validateCommittedBundle_published (hinput : input.Generated)
    {manifestData evidence : List Byte} {fingerprint : Text} {manifest : Dict} {now : ℤ}
    {fresh : Bool} (hfits : joinPairs fingerprint = fingerprint ∧ fingerprint.length ≤ 64)
    (hmanifest : strictJson lib manifestData maximumManifest "bundle_manifest" = .ok manifest)
    (hrun : item manifest "run_id" = .ok (.string input.runId))
    (hname : item manifest "run_fingerprint_sha256" = .ok (.string fingerprint))
    (hlog : item manifest "evidence_sha256" = .ok (.string (sha256Hex evidence))) :
    validateCommittedBundle lib
        ⟨fingerprint, bundleFiles manifestData evidence input.runId fingerprint⟩ now fresh = (do
      checkSizes (bundleFiles manifestData evidence input.runId fingerprint)
      validateManifest lib manifest now fresh
      validateRecords lib evidence manifest
      .ok manifest) := by
  have hwritable : Writable (commitMembers manifestData evidence input.runId fingerprint) :=
    writable_commitMembers input.runId
  exact validateCommittedBundle_of_agreement hmanifest (strictJson_commit hinput hfits)
    (fields_commitMembers input.runId)
    (item_dictOf hwritable.nodup (i := 4) rfl) hrun
    (item_dictOf hwritable.nodup (i := 3) rfl) hname (item_dictOf hwritable.nodup (i := 2) rfl)
    (item_dictOf hwritable.nodup (i := 1) rfl) hlog (by rw [bundleFiles])

/-- The consumer on an emitted bundle: it returns the manifest when the log fits. -/
theorem validateCommittedBundle_emitted (hinput : input.Generated) (hcell : input.cell.length ≤ 128)
    (hclaim : claim.Ok) (hjoin : joinPairs input.cell = input.cell)
    (hreason : joinPairs claim.reason = claim.reason) {now : ℤ}
    (htimes : TimesOk lib input now false) {manifest : Dict} :
    validateCommittedBundle lib (emittedBundle input claim) now false = .ok manifest ↔
      (evidenceData input claim).length ≤ maximumEvidence ∧
        dictOf (manifestMembers input claim) = manifest := by
  have hmanifest : validateManifest lib (dictOf (manifestMembers input claim)) now false = .ok () :=
    (validateManifest_eq_ok_iff hinput).2 ⟨hcell, htimes, hclaim⟩
  have hrecords : validateRecords lib (evidenceData input claim)
      (dictOf (manifestMembers input claim)) = .ok () :=
    (validateRecords_eq_ok_iff hinput hcell hclaim).2 ⟨hjoin, hreason⟩
  have hsizes := checkSizes_emitted hinput hcell hclaim
  rw [emittedBundle] at hsizes ⊢
  rw [validateCommittedBundle_published hinput (fingerprint_fits _ _ _ _ _)
    (strictJson_manifest hinput hcell hclaim hjoin hreason) (item_manifest (i := 8) rfl)
    (item_manifest (i := 7) rfl) (item_manifest (i := 4) rfl), hmanifest, hrecords, unit_bind]
  simp only [hsizes, ok_bind, Except.ok.injEq]

/-! ## Every accepted input -/

theorem finishBundle_eq_ok_iff {bundle : Bundle} : finishBundle lib input claim = .ok bundle ↔
      validateManifest lib (dictOf (manifestMembers input claim)) input.now true = .ok () ∧
        validateRecords lib (evidenceData input claim) (dictOf (manifestMembers input claim)) =
          .ok () ∧ emittedBundle input claim = bundle := by
  rw [finishBundle, unit_bind, unit_bind, emittedBundle, Except.ok.injEq]

/-- The claim of an accepted input: a completed run with the declared number of trials, or a
run that failed. -/
theorem claim_of_emitBundle {bundle : Bundle} (h : emitBundle lib input = .ok bundle) :
    ∃ claim, finishBundle lib input claim = .ok bundle ∧
      ((input.raw.isSome = true ∧ claim.outcome = text "completed" ∧ claim.reason = [] ∧
          claim.count = input.declared.toNat) ∨
        (input.raw = none ∧ claim.count = 0)) := by
  unfold emitBundle at h
  split at h
  · rename_i data hraw hfailure
    obtain ⟨claim, hread, hfinish⟩ := bind_eq_ok.1 h
    refine ⟨claim, hfinish, .inl ?_⟩
    unfold readTrials at hread
    obtain ⟨inputs, -, hread⟩ := bind_eq_ok.1 hread
    obtain ⟨hcount, hread⟩ := check_bind.1 hread
    obtain ⟨-, hread⟩ := unit_bind.1 hread
    cases hread
    simp only [Bool.and_eq_true, decide_eq_true_eq] at hcount
    refine ⟨by rw [hraw]; rfl, rfl, rfl, ?_⟩
    rw [← hcount.2, Int.toNat_natCast]
  · rename_i data hraw hfailure
    obtain ⟨claim, hread, hfinish⟩ := bind_eq_ok.1 h
    refine ⟨claim, hfinish, .inr ⟨hraw, ?_⟩⟩
    unfold readFailure at hread
    obtain ⟨inputs, -, hread⟩ := bind_eq_ok.1 hread
    split at hread
    · obtain ⟨-, hread⟩ := check_bind.1 hread
      obtain ⟨outcome, -, hread⟩ := bind_eq_ok.1 hread
      obtain ⟨value, -, hread⟩ := bind_eq_ok.1 hread
      obtain ⟨reason, -, hread⟩ := bind_eq_ok.1 hread
      obtain ⟨known, -, hread⟩ := bind_eq_ok.1 hread
      obtain ⟨-, hread⟩ := check_bind.1 hread
      cases hread
      rfl
    · cases hread
  · cases h

/-- A log without trials is small. -/
theorem length_failure_le (hinput : input.Generated) (hcell : input.cell.length ≤ 128)
    (hclaim : claim.Ok) (hcount : claim.count = 0) :
    (evidenceData input claim).length ≤ maximumEvidence := by
  have hcells := stringLength_le hcell
  have hreasons := stringLength_le hclaim.reason
  have houtcomes := stringLength_le hclaim.outcome_fits.2
  have hdigits := digitCount_le (show 0 + 1 < 10 ^ 7 by decide)
  rw [length_evidenceData hinput, hcount, maximumEvidence]
  simp only [List.range_zero, List.map_nil, List.sum_nil]
  omega

/-- `validate_committed_bundle` returns the manifest of an emitted bundle, whatever the time,
exactly when the run failed or the log of its trials has at most 64 MiB. -/
theorem emitted_bundle_accepted_iff (lib : PythonLibrary) (input : EmitInput)
    (hinput : input.Generated) (bundle : Bundle) (hemit : emitBundle lib input = .ok bundle)
    (now : ℤ) :
    ((∃ manifest, validateCommittedBundle lib bundle now false = .ok manifest) ↔
      (input.raw.isSome = true →
        logLength input.cell input.declared.toNat ≤ 64 * 1024 * 1024)) ∧
    ∀ manifest, validateCommittedBundle lib bundle now false = .ok manifest →
      ∃ claim, bundle.files.manifest = dumps (manifestMembers input claim) ++ [10] ∧
        manifest = dictOf (manifestMembers input claim) := by
  obtain ⟨claim, hfinish, hread⟩ := claim_of_emitBundle hemit
  obtain ⟨hmanifest, hrecords, rfl⟩ := finishBundle_eq_ok_iff.1 hfinish
  obtain ⟨hcell, htimes, hclaim⟩ := (validateManifest_eq_ok_iff hinput).1 hmanifest
  obtain ⟨hjoin, hreason⟩ := (validateRecords_eq_ok_iff hinput hcell hclaim).1 hrecords
  have htimes' : TimesOk lib input now false := by
    obtain ⟨started, completed, hstarted, hcompleted, haware, horder, -⟩ := htimes
    exact ⟨started, completed, hstarted, hcompleted, haware, horder, nofun⟩
  have haccepted (manifest : Dict) :
      validateCommittedBundle lib (emittedBundle input claim) now false = .ok manifest ↔
        (evidenceData input claim).length ≤ maximumEvidence ∧
          dictOf (manifestMembers input claim) = manifest :=
    validateCommittedBundle_emitted hinput hcell hclaim hjoin hreason htimes'
  constructor
  · rw [exists_congr haccepted, exists_and_left, and_iff_left ⟨_, rfl⟩]
    rcases hread with ⟨hraw, houtcome, hempty, hcount⟩ | ⟨hraw, hcount⟩
    · have hlength : (evidenceData input claim).length =
          logLength input.cell input.declared.toNat := by
        simp only [length_evidenceData hinput, houtcome, hempty, stringLength_fixed, hcount,
          logLength]
      rw [hlength]
      exact ⟨fun h _ => h, fun h => h hraw⟩
    · refine iff_of_true (length_failure_le hinput hcell hclaim hcount) fun hsome => ?_
      rw [hraw] at hsome
      cases hsome
  · intro manifest hok
    exact ⟨claim, rfl, ((haccepted manifest).1 hok).2.symm⟩

end Emitted

/-! ## Runs with many trials -/

section Trials

variable {lib : PythonLibrary} {input : EmitInput}

/-- A line of raw trials. -/
def rawTrial (index : ℕ) : List (Text × JsonScalar) :=
  [(text "status", .string (text "ok")), (text "trial_index", .nat index)]

variable (count : ℕ)

/-- So many raw trials, numbered from one on. -/
def rawTrials : List Byte :=
  ((List.range' 1 count).map rawTrial).flatMap fun record => dumps record ++ [10]

def rawTrialNames : List String := ["status", "trial_index"]

theorem rawTrialNames_fixed :
    asciiNames rawTrialNames = true ∧ frameLength rawTrialNames ≤ 100 := by decide

theorem map_fst_rawTrial (index : ℕ) : (rawTrial index).map Prod.fst = rawTrialNames.map text := rfl

theorem writable_rawTrial {index : ℕ} (h : index < 10 ^ 7) : Writable (rawTrial index) := by
  refine writable_of_names (map_fst_rawTrial index) (by decide) (by decide) rawTrialNames_fixed.1 ?_
  simpa [rawTrial] using h

theorem length_rawTrial_le {index : ℕ} (h : index < 10 ^ 7) :
    (dumps (rawTrial index)).length ≤ 64 * 1024 := by
  have hframe := rawTrialNames_fixed.2
  have hdigits := digitCount_le h
  rw [length_dumps (map_fst_rawTrial index) (by simp [rawTrial])]
  simp only [rawTrial, List.map_cons, List.map_nil, List.sum_cons, List.sum_nil, scalarLength,
    stringLength_fixed]
  omega

theorem mapM_strictJson {log : List (List (Text × JsonScalar))} {maximum : ℕ} {label : String}
    (h : ∀ record ∈ log, Writable record ∧ (dumps record).length ≤ maximum) :
    (log.map dumps).mapM (fun line => strictJson lib line maximum label) =
      .ok (log.map (List.map readMember)) := by
  induction log with
  | nil => rfl
  | cons record log ih =>
    obtain ⟨hwritable, hsize⟩ := h record List.mem_cons_self
    have hrest := ih fun other hother => h other (List.mem_cons_of_mem _ hother)
    have hread : strictJson lib (dumps record) maximum label = .ok (record.map readMember) := by
      simpa using strictJson_dumps lib hwritable (.inl rfl) (by simpa using hsize) label
    rw [List.map_cons, List.mapM_cons, hread, ok_bind, hrest, ok_bind]
    rfl

/-- Raw trials in order pass the checks of the producer. -/
theorem checkTrials_rawTrial (count start : ℕ) (h : start + count < 10 ^ 7) :
    checkTrials (start + 1)
      ((List.range' (start + 1) count).map fun i => (rawTrial i).map readMember) = .ok () := by
  induction count generalizing start with
  | zero => rfl
  | succ count ih =>
    have hwritable : Writable (rawTrial (start + 1)) := writable_rawTrial (by omega)
    have hkeys : sameKeys ((rawTrial (start + 1)).map readMember) rawTrialInputKeys = true := by
      rw [sameKeys_of_names ((map_fst_readMember hwritable.ascii).trans (map_fst_rawTrial _))]
      decide
    have hrest := ih (start + 1) (by omega)
    rw [List.range'_succ, List.map_cons, checkTrials, if_pos hkeys,
      item_readMember hwritable (i := 1) rfl, ok_bind,
      item_string hwritable (i := 0) rfl (joinPairs_text _), ok_bind, ok_bind, checkAt_bind]
    refine ⟨?_, hrest⟩
    simp [JsonScalar.readBack, asInt_numberOfNat, isText_string]

/-- The claim of a run that completed its trials. -/
def completed (count : ℕ) : Claim := ⟨text "completed", [], text "research-only", count⟩

theorem completed_ok {count : ℕ} (hpos : 0 < count) (hcount : count ≤ 1000000) :
    (completed count).Ok := by
  refine ⟨hcount, by simp [completed], ⟨"completed", by decide, rfl⟩, ?_⟩
  rw [completed, if_pos rfl]
  exact ⟨hpos.ne', rfl, rfl⟩

/-- `emit_bundle` accepts every number of trials up to a million. -/
theorem emitBundle_rawTrials (hinput : input.Generated) (hcell : input.cell.length ≤ 128)
    (hjoin : joinPairs input.cell = input.cell) (htimes : TimesOk lib input input.now true)
    {count : ℕ} (hpos : 0 < count) (hcount : count ≤ 1000000)
    (hraw : input.raw = some (rawTrials count)) (hfailure : input.failure = none)
    (hdeclared : input.declared = count) :
    emitBundle lib input = .ok (emittedBundle input (completed count)) := by
  have hlines : ∀ record ∈ (List.range' 1 count).map rawTrial,
      Writable record ∧ (dumps record).length ≤ 64 * 1024 := by
    intro record hrecord
    obtain ⟨index, hindex, rfl⟩ := List.mem_map.1 hrecord
    rw [List.mem_range'_1] at hindex
    exact ⟨writable_rawTrial (by omega), length_rawTrial_le (by omega)⟩
  have hparse : parseJsonlInput lib (rawTrials count) "raw_trial" =
      .ok (((List.range' 1 count).map rawTrial).map (List.map readMember)) := by
    rw [parseJsonlInput, rawTrials, logLines_log _ _, ok_bind, mapM_strictJson hlines]
    · simp
      omega
    · simp [maximumRecords]
      omega
  have hread : readTrials lib input (rawTrials count) = .ok (completed count) := by
    have htrials := checkTrials_rawTrial count 0 (by omega)
    rw [readTrials, hparse, ok_bind, check_bind]
    refine ⟨by simp [hdeclared, hpos], ?_⟩
    rw [List.map_map, unit_bind]
    exact ⟨htrials, by simp [completed]⟩
  have hclaim := completed_ok hpos hcount
  rw [emitBundle, hraw, hfailure]
  dsimp only
  rw [hread, ok_bind, finishBundle_eq_ok_iff]
  exact ⟨(validateManifest_eq_ok_iff hinput).2 ⟨hcell, htimes, hclaim⟩,
    (validateRecords_eq_ok_iff hinput hcell hclaim).2 ⟨hjoin, rfl⟩, rfl⟩

/-- A run with so many trials and the empty cell id, that starts and completes at one time. -/
def trialRun (now : ℤ) : EmitInput where
  cell := []
  declared := count
  raw := some (rawTrials count)
  failure := none
  token := List.replicate 32 (codePoint '0')
  started := text "2026-01-01T00:00:00Z"
  completed := text "2026-01-01T00:00:00Z"
  now := now

theorem startTime_fixed : (text "2026-01-01T00:00:00Z").all (·.val < 128) = true ∧
    (text "2026-01-01T00:00:00Z").getLast? = some (codePoint 'Z') ∧
    (text "2026-01-01T00:00:00Z").dropLast ++ text "+00:00" = text "2026-01-01T00:00:00+00:00" := by
  decide

theorem generated_trialRun (now : ℤ) : (trialRun count now).Generated where
  token_length := List.length_replicate
  token_hex c hc := by
    rw [List.eq_of_mem_replicate hc]
    decide
  started_length := (by decide : (text "2026-01-01T00:00:00Z").length ≤ 42)
  started_ascii c hc := of_decide_eq_true (List.all_eq_true.1 startTime_fixed.1 c hc)
  completed_length := (by decide : (text "2026-01-01T00:00:00Z").length ≤ 42)
  completed_ascii c hc := of_decide_eq_true (List.all_eq_true.1 startTime_fixed.1 c hc)

theorem timesOk_trialRun {time : ℤ}
    (h : lib.fromIsoFormat (text "2026-01-01T00:00:00+00:00") = some ⟨true, time⟩) (count : ℕ)
    (now : ℤ) (fresh : Bool) (hnow : fresh = true → now = time) :
    TimesOk lib (trialRun count time) now fresh := by
  have hiso : isoTime lib (text "2026-01-01T00:00:00Z") = some ⟨true, time⟩ := by
    rw [isoTime, if_pos startTime_fixed.2.1, startTime_fixed.2.2, h]
  refine ⟨⟨true, time⟩, ⟨true, time⟩, hiso, hiso, rfl, le_rfl, fun hfresh => ⟨rfl, ?_⟩⟩
  rw [hnow hfresh, minute]
  dsimp only
  omega

theorem le_logLength (cell : Text) (count : ℕ) : 220 * count ≤ logLength cell count := by
  have hsum : ((List.range count).map fun i => trialLength cell (i + 1) + 1).length • 220 ≤
      ((List.range count).map fun i => trialLength cell (i + 1) + 1).sum := by
    refine List.card_nsmul_le_sum _ _ fun n hn => ?_
    obtain ⟨i, -, rfl⟩ := List.mem_map.1 hn
    rw [trialLength]
    omega
  rw [List.length_map, List.length_range, smul_eq_mul] at hsum
  rw [logLength]
  omega

/-- A library that knows one time. -/
def oneTime : PythonLibrary where
  fromIsoFormat _ := some ⟨true, 0⟩
  floatEqualsInt _ _ := false
  floatsEqual _ _ := false
  nesting := 100

/-- The bundle of a run with so many trials. -/
def trialBundle : Bundle := emittedBundle (trialRun count 0) (completed count)

theorem emitBundle_trialRun {count : ℕ} (hpos : 0 < count) (hcount : count ≤ 1000000) :
    emitBundle oneTime (trialRun count 0) = .ok (trialBundle count) :=
  emitBundle_rawTrials (generated_trialRun count 0) (by simp [trialRun]) rfl
    (timesOk_trialRun rfl _ _ true fun _ => rfl) hpos hcount rfl rfl rfl

theorem validate_trialBundle {count : ℕ} (hpos : 0 < count) (hcount : count ≤ 1000000) {now : ℤ}
    {manifest : Dict} :
    validateCommittedBundle oneTime (trialBundle count) now false = .ok manifest ↔
      (evidenceData (trialRun count 0) (completed count)).length ≤ maximumEvidence ∧
        dictOf (manifestMembers (trialRun count 0) (completed count)) = manifest :=
  validateCommittedBundle_emitted (generated_trialRun count 0) (by simp [trialRun])
    (completed_ok hpos hcount) rfl rfl (timesOk_trialRun rfl _ now false nofun)

theorem le_length_trialData :
    220 * count ≤ (evidenceData (trialRun count 0) (completed count)).length := by
  have hlower := le_logLength [] count
  rw [logLength] at hlower
  rw [length_evidenceData (generated_trialRun count 0)]
  simp only [trialRun, completed, stringLength_fixed] at hlower ⊢
  omega

/-- 400000 trials are emitted and then not accepted, at any time. -/
theorem emitted_bundle_rejected :
    ∃ bundle, emitBundle oneTime (trialRun 400000 0) = .ok bundle ∧
      ∀ now manifest, validateCommittedBundle oneTime bundle now false ≠ .ok manifest := by
  refine ⟨_, emitBundle_trialRun (by decide) (by decide), fun now manifest hok => ?_⟩
  have hfits := ((validate_trialBundle (by decide) (by decide)).1 hok).1
  have hlower := le_length_trialData 400000
  rw [maximumEvidence] at hfits
  omega

theorem emitted_bundle_accepted_three_trials :
    ∃ bundle, emitBundle oneTime (trialRun 3 0) = .ok bundle ∧
      ∃ manifest, validateCommittedBundle oneTime bundle 7 false = .ok manifest := by
  have hemit := @emitBundle_trialRun 3 (by decide) (by decide)
  refine ⟨_, hemit, (emitted_bundle_accepted_iff oneTime (trialRun 3 0) (generated_trialRun 3 0) _
    hemit 7).1.2 ?_⟩
  intro _
  decide

end Trials

end PrismInfer.Evidence
