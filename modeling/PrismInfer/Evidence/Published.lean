import PrismInfer.Evidence.BundleAccepted
import PrismInfer.Evidence.Publish

/-!
# From the producer to the consumer

`emit_bundle` calls `publish`, and `validate_committed_bundle` finds a directory. Between the
two, other calls run and crash.
-/

namespace PrismInfer.Evidence

open PrismInfer.Lib PrismInfer.Benchmark

/-- `BUNDLE_FILES`. -/
def bundleNames : List String :=
  ["manifest.json", "evidence.jsonl", "manifest.sha256", "evidence.sha256", "COMMIT.json"]

/-- `validate_committed_bundle` on a directory of regular files (evidence-runner.py:144–206). -/
def validateDirectory (lib : PythonLibrary) (name : Text) (directory : Directory) (now : ℤ)
    (requireFresh : Bool) : Except PyError Dict := do
  let names := directory.map Prod.fst
  check (names.all bundleNames.contains && bundleNames.all names.contains)
    "bundle_file_set_rejected"
  let payload file := (directory.lookup file).getD []
  validateCommittedBundle lib ⟨name, ⟨payload "manifest.json", payload "evidence.jsonl",
    payload "manifest.sha256", payload "evidence.sha256", payload "COMMIT.json"⟩⟩ now requireFresh

/-- The call of `publish` at the end of `emit_bundle`. -/
def EmittedFrom (lib : PythonLibrary) (input : EmitInput) (arguments : PublishArguments) : Prop :=
  input.Generated ∧ emitBundle lib input = .ok ⟨arguments.fingerprint,
    bundleFiles arguments.manifestData arguments.evidence arguments.runId arguments.fingerprint⟩

variable {lib : PythonLibrary} {input : EmitInput}

theorem validateDirectory_files (arguments : PublishArguments) (name : Text) (now : ℤ)
    (fresh : Bool) : validateDirectory lib name arguments.files now fresh =
      validateCommittedBundle lib ⟨name, bundleFiles arguments.manifestData arguments.evidence
        arguments.runId arguments.fingerprint⟩ now fresh := by
  simp only [validateDirectory, PublishArguments.files, bundleFiles, List.map_cons, List.map_nil,
    List.lookup_cons, String.reduceBEq, BEq.rfl, Option.getD_some]
  rfl

/-- The consumer on what a call of `emit_bundle` has written. -/
theorem validateDirectory_emitted {arguments : PublishArguments}
    (h : EmittedFrom lib input arguments) :
    ∃ claim, arguments.evidence = evidenceData input claim ∧ ∀ now fresh manifest,
      validateDirectory lib arguments.fingerprint arguments.files now fresh = .ok manifest ↔
        (evidenceData input claim).length ≤ maximumEvidence ∧ TimesOk lib input now fresh ∧
          dictOf (manifestMembers input claim) = manifest := by
  obtain ⟨hinput, hemit⟩ := h
  obtain ⟨claim, hfinish, -⟩ := claim_of_emitBundle hemit
  obtain ⟨hmanifest, hrecords, hbundle⟩ := finishBundle_eq_ok_iff.1 hfinish
  obtain ⟨hcell, -, hclaim⟩ := (validateManifest_eq_ok_iff hinput).1 hmanifest
  obtain ⟨hjoin, hreason⟩ := (validateRecords_eq_ok_iff hinput hcell hclaim).1 hrecords
  have hsizes := checkSizes_emitted hinput hcell hclaim
  have hevidence := congrArg (·.files.evidence) hbundle
  refine ⟨claim, hevidence.symm, fun now fresh manifest => ?_⟩
  rw [validateDirectory_files, ← hbundle, emittedBundle, validateCommittedBundle_published hinput
    (fingerprint_fits _ _ _ _ _) (strictJson_manifest hinput hcell hclaim hjoin hreason)
    (item_manifest (i := 8) rfl) (item_manifest (i := 7) rfl) (item_manifest (i := 4) rfl),
    unit_bind, unit_bind, unit_bind, validateManifest_eq_ok_iff hinput, Except.ok.injEq]
  rw [emittedBundle] at hsizes
  simp only [hsizes, hcell, hclaim, hrecords, true_and, and_true]

/-- **What the consumer finds.** Calls of `emit_bundle` publish into one root, interleaved in
any way, and some of them fail or crash. A directory that has appeared is the bundle of one of
them, and the consumer returns the manifest of this call, unless the log is too long or, where
it asks for that, the times are not recent. -/
theorem published_bundle_accepted_iff {s : Store Text Directory} {trace : PublishTrace}
    {w : World Text Directory Publication} {n : Text} {directory : Directory}
    (run : Run publish.exec ⟨s, []⟩ trace w) (inputs : ℕ → EmitInput)
    (hemitted : ∀ i writer, w.writers[i]? = some writer →
      EmittedFrom lib (inputs i) writer.state.arguments)
    (hcontent : w.store.content n = some directory) (hnew : s.content n = none) :
    ∃ i < w.writers.length, ∃ claim,
      directory.lookup "evidence.jsonl" = some (evidenceData (inputs i) claim) ∧
      ∀ now fresh manifest, validateDirectory lib n directory now fresh = .ok manifest ↔
        (evidenceData (inputs i) claim).length ≤ maximumEvidence ∧
          TimesOk lib (inputs i) now fresh ∧
          dictOf (manifestMembers (inputs i) claim) = manifest := by
  rcases publishedBy_of_run run hcontent with hinitial | ⟨i, writer, hat, rfl, rfl⟩
  · rw [hnew] at hinitial
    cases hinitial
  · obtain ⟨claim, hevidence, haccepted⟩ := validateDirectory_emitted (hemitted i writer hat)
    refine ⟨i, (List.getElem?_eq_some_iff.1 hat).1, claim, ?_, haccepted⟩
    rw [← hevidence]
    exact (bundleOf_files _).evidence

/-- Three trials, published on an empty root and accepted as recent. -/
theorem published_trials_accepted :
    ∃ trace w n directory, Run publish.exec ⟨.empty Text Directory, []⟩ trace w ∧
      w.store.content n = some directory ∧
      ∃ manifest, validateDirectory oneTime n directory 0 true = .ok manifest := by
  have hinput := generated_trialRun 3 0
  let bundle := trialBundle 3
  let arguments : PublishArguments :=
    ⟨bundle.files.manifest, bundle.files.evidence, (trialRun 3 0).runId, bundle.name⟩
  have hemit := @emitBundle_trialRun 3 (by decide) (by decide)
  obtain ⟨trace, run⟩ := reaches_rename arguments
  have hcontent := content_renamed arguments .syncRoot
  have hemitted : ∀ (i : ℕ) (writer : Writer Publication),
      (renamed arguments .syncRoot).writers[i]? = some writer →
      EmittedFrom oneTime (trialRun 3 0) writer.state.arguments := by
    intro i writer hat
    rw [renamed, List.getElem?_singleton] at hat
    split at hat <;> cases hat
    exact ⟨hinput, hemit⟩
  obtain ⟨i, -, claim, hevidence, haccepted⟩ :=
    published_bundle_accepted_iff run (fun _ => trialRun 3 0) hemitted hcontent rfl
  refine ⟨trace, _, _, _, run, hcontent, _, (haccepted 0 true _).2 ⟨?_, ?_, rfl⟩⟩
  · rw [(bundleOf_files arguments).evidence, Option.some.injEq] at hevidence
    rw [← hevidence]
    show (evidenceData _ _).length ≤ _
    rw [length_evidenceData hinput]
    decide
  · exact timesOk_trialRun rfl _ _ true fun _ => rfl

end PrismInfer.Evidence
