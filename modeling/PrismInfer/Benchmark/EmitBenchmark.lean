import PrismInfer.Benchmark.AtomicPublication
import PrismInfer.Benchmark.Sha256Correct

/-!
# The manifest and its digest

`prism-emit-benchmark` (tools/prism-emit-benchmark/main.cpp) publishes two files with
two calls of `write_new_or_same_text_file_atomically`: first the sidecar with the
digest of the canonical manifest, then the manifest with the same canonical bytes. A
run goes on to the manifest only when the first call has returned `true`, so the
sidecar with its digest is in place, and a published file never changes: whichever of
several competing runs links the manifest, the sidecar is the one of these bytes
(`sidecar_matches_manifest`).
-/

namespace PrismInfer.Benchmark

open PrismInfer.Lib

/-! ## Before the first write -/

/-- The two files of one output path. -/
inductive OutputPath
  | manifest
  | sidecar
  deriving DecidableEq

/-- The fields of the input manifest that the tool reads, and the bytes of
`canonical_kernel_benchmark_manifest_json`. -/
structure EmitManifest where
  (runOutcome rawTrialSha256 failureRecordSha256 claimStatus capCertificationStatus : String)
  canonical : List Byte

/-- The arguments of a run and what the checks of other files answer: the input manifest,
the test of the output root and the digest of the evidence file. -/
structure EmitInput where
  argumentCount : ℕ
  (outputRootFlag evidenceRootFlag evidenceFlag : String)
  manifest : Except String EmitManifest
  outputRoot : Except String Unit
  evidenceHash : Except String String

/-- `kMaximumManifestBytes`. -/
def maximumManifestBytes : ℕ := 64 * 1024

/-- `checkpoint_state_ok`: a completed run is research only, any other one is rejected. -/
def checkpointStateOk (m : EmitManifest) : Bool :=
  let status := if m.runOutcome = "completed" then "research-only" else "rejected"
  m.claimStatus = status && m.capCertificationStatus = status

/-- The evidence flag and the digest that an outcome asks for. -/
def requiredEvidence (m : EmitManifest) : String × String :=
  if m.runOutcome = "completed" then ("--raw-trials", m.rawTrialSha256)
  else ("--failure-record", m.failureRecordSha256)

/-- main.cpp:62–69: the canonical manifest with its digest. -/
def hashManifest (m : EmitManifest) : Except String (EmitManifest × List Char) :=
  if maximumManifestBytes < m.canonical.length then .error "output_manifest_hash_failed"
  else
    match sha256Text m.canonical with
    | none => .error "output_manifest_hash_failed"
    | some digest => .ok (m, digest)

/-- main.cpp:14–69: the manifest and its digest, or the error line. -/
def prepare (input : EmitInput) : Except String (EmitManifest × List Char) :=
  if input.argumentCount ≠ 9 then
    .error ("usage: prism-emit-benchmark INPUT_MANIFEST OUTPUT_MANIFEST " ++
      "--output-root ROOT --evidence-root ROOT " ++
      "--raw-trials RAW_FILE|--failure-record FAILURE_FILE")
  else
    match input.manifest with
    | .error error => .error ("input_manifest_rejected:" ++ error)
    | .ok m =>
      let (flag, hash) := requiredEvidence m
      if input.outputRootFlag ≠ "--output-root" ∨ input.evidenceRootFlag ≠ "--evidence-root" ∨
          input.evidenceFlag ≠ flag ∨ hash = "" then
        .error "evidence_argument_rejected"
      else
        match input.outputRoot with
        | .error error => .error ("output_root_rejected:" ++ error)
        | .ok () =>
          if checkpointStateOk m = false then .error "checkpoint_promotion_rejected"
          else
            match input.evidenceHash with
            | .error error => .error ("evidence_hash_failed:" ++ error)
            | .ok actual =>
              if actual ≠ hash then .error "evidence_hash_mismatch" else hashManifest m

/-! ## The two writes -/

/-- `sidecar_contents`: the digest, two blanks, the name of the manifest and a line end. -/
def sidecarContents (filename : List Byte) (digest : List Char) : List Byte :=
  textBytes digest ++ textBytes "  ".toList ++ filename ++ textBytes "\n".toList

/-- The call that writes the sidecar. -/
def sidecarArguments (filename : List Byte) (digest : List Char) : WriteArguments OutputPath where
  path := .sidecar
  contents := sidecarContents filename digest
  maximumBytes := maximumManifestBytes
  validator := false

/-- `write_kernel_benchmark_manifest`, whose validator reads the candidate back. -/
def manifestArguments (m : EmitManifest) : WriteArguments OutputPath where
  path := .manifest
  contents := m.canonical
  maximumBytes := maximumManifestBytes
  validator := true

/-- Where a run stands. -/
inductive EmitPc
  | start
  | sidecar (manifest : EmitManifest) (call : Call OutputPath)
  | manifest (manifest : EmitManifest) (call : Call OutputPath)
  | exited (result : Except String Unit)
  | crashed

/-- A run of the tool. -/
structure EmitRun where
  input : EmitInput
  pc : EmitPc := .start

/-- A step of the tool itself, between its calls. -/
def EmitRun.goto (run : EmitRun) (answer : Answer) (pc : EmitPc) :
    Option (EmitRun × Effect OutputPath File) :=
  match answer with
  | .succeeds => some ({ run with pc := pc }, .idle)
  | .crashes => some ({ run with pc := .crashed }, .idle)
  | _ => none

/-- A step of the call that a run is in; when the call has returned, the run goes on. -/
def EmitRun.inCall (run : EmitRun) (w : World OutputPath File EmitRun) (staged : Staged)
    (answer : Answer) (call : Call OutputPath) (inside : Call OutputPath → EmitPc)
    (success : EmitPc) (failure : String) : Option (EmitRun × Effect OutputPath File) :=
  match call.pc with
  | .returned .success => run.goto answer success
  | .returned (.failure error) => run.goto answer (.exited (.error (failure ++ error)))
  | _ => (call.next w staged answer).map fun next => ({ run with pc := inside next.1 }, next.2)

/-- One step of a run (main.cpp:10–90). -/
def EmitRun.next (filename : List Byte) (w : World OutputPath File EmitRun) (staged : Staged)
    (run : EmitRun) (answer : Answer) : Option (EmitRun × Effect OutputPath File) :=
  match run.pc with
  | .start =>
    match prepare run.input with
    | .error error => run.goto answer (.exited (.error error))
    | .ok (m, digest) =>
      run.goto answer (.sidecar m { arguments := sidecarArguments filename digest })
  | .sidecar m call =>
    run.inCall w staged answer call (.sidecar m) (.manifest m { arguments := manifestArguments m })
      "output_manifest_hash_write_failed:"
  | .manifest m call =>
    run.inCall w staged answer call (.manifest m) (.exited (.ok ())) "output_manifest_rejected:"
  | .exited _ => none
  | .crashed => none

/-- Any number of runs with one output path, whose last part is `filename`. -/
def emitBenchmark (filename : List Byte) :
    Protocol OutputPath File EmitRun EmitInput Answer where
  start input := { input := input }
  next w writer answer := writer.state.next filename w writer.staged answer

/-! ## The sidecar belongs to the manifest -/

/-- The sidecar is there: the 64 digits of the digest of these bytes, two blanks, the name of
the manifest and a line feed, and nothing else. -/
def SidecarOf (filename : List Byte) (s : Store OutputPath File) (bytes : List Byte) : Prop :=
  ∃ file, s.content .sidecar = some file ∧
    file.bytes = (Fips180.sha256 bytes).map (fun digit => BitVec.ofNat 8 digit.toNat) ++
      [0x20, 0x20] ++ filename ++ [0x0A]

variable {filename : List Byte} {s : Store OutputPath File} {digest : List Char}
  {input : EmitInput} {writer : Writer EmitRun}

theorem SidecarOf.of_extends {bytes : List Byte} {t : Store OutputPath File} (hext : Extends s t)
    (h : SidecarOf filename s bytes) : SidecarOf filename t bytes := by
  obtain ⟨file, hfile, hbytes⟩ := h
  exact ⟨file, hext.content hfile, hbytes⟩

theorem digest_of_hashManifest {m m' : EmitManifest} (h : hashManifest m = .ok (m', digest)) :
    digest = Fips180.sha256 m'.canonical := by
  unfold hashManifest at h
  split at h
  case isTrue => cases h
  case isFalse =>
    split at h
    · cases h
    · rename_i hdigest
      cases h
      exact sha256Text_eq hdigest

/-- A run that comes to its first write has read a manifest and hashed it. -/
theorem prepare_eq_ok {result : EmitManifest × List Char} (h : prepare input = .ok result) :
    ∃ m, input.manifest = .ok m ∧ hashManifest m = .ok result := by
  unfold prepare at h
  split at h
  · cases h
  split at h
  · cases h
  rename_i m hread
  refine ⟨m, hread, ?_⟩
  dsimp only at h
  split at h
  · cases h
  split at h
  · cases h
  split at h
  · cases h
  split at h
  · cases h
  split at h
  · cases h
  exact h

theorem digest_of_prepare {m : EmitManifest} (h : prepare input = .ok (m, digest)) :
    digest = Fips180.sha256 m.canonical := by
  obtain ⟨m', -, hhash⟩ := prepare_eq_ok h
  exact digest_of_hashManifest hhash

/-- The manifest that is hashed is the one that was read. -/
theorem manifest_of_prepare {m : EmitManifest} (h : prepare input = .ok (m, digest)) :
    input.manifest = .ok m := by
  obtain ⟨m', hread, hhash⟩ := prepare_eq_ok h
  unfold hashManifest at hhash
  split at hhash
  · cases hhash
  split at hhash
  · cases hhash
  · cases hhash
    exact hread

/-- What a run knows: its call has the arguments of its phase, and once it is at the
manifest, the sidecar of the manifest is published. -/
def Emits (filename : List Byte) (s : Store OutputPath File) (writer : Writer EmitRun) : Prop :=
  match writer.state.pc with
  | .sidecar m call =>
    call.Holds s writer.staged ∧
      call.arguments = sidecarArguments filename (Fips180.sha256 m.canonical)
  | .manifest m call =>
    call.Holds s writer.staged ∧ call.arguments = manifestArguments m ∧
      SidecarOf filename s m.canonical
  | _ => True

theorem Emits.stable {t : Store OutputPath File} (hext : Extends s t)
    (hown : writer.staged.content t = writer.staged.content s) (h : Emits filename s writer) :
    Emits filename t writer := by
  unfold Emits at h ⊢
  split
  · rename_i hpc
    rw [hpc] at h
    exact ⟨h.1.of_extends hext hown, h.2⟩
  · rename_i hpc
    rw [hpc] at h
    exact ⟨h.1.of_extends hext hown, h.2.1, h.2.2.of_extends hext⟩
  · trivial

theorem EmitRun.goto_cases {run run' : EmitRun} {answer : Answer} {pc : EmitPc}
    {e : Effect OutputPath File} (h : run.goto answer pc = some (run', e)) :
    e = .idle ∧ (run'.pc = pc ∨ run'.pc = .crashed) := by
  cases answer with
  | succeeds =>
    cases h
    exact ⟨rfl, .inl rfl⟩
  | crashes =>
    cases h
    exact ⟨rfl, .inr rfl⟩
  | _ => cases h

/-- A run takes a step of its call, goes on behind a call that returned `true`, or ends. -/
theorem EmitRun.inCall_cases {run run' : EmitRun} {w : World OutputPath File EmitRun}
    {staged : Staged} {answer : Answer} {call : Call OutputPath} {inside : Call OutputPath → EmitPc}
    {success : EmitPc} {failure : String} {e : Effect OutputPath File}
    (h : run.inCall w staged answer call inside success failure = some (run', e)) :
    (∃ call', call.next w staged answer = some (call', e) ∧ run'.pc = inside call') ∨
    e = .idle ∧ (∃ result, call.pc = .returned result) ∧
      (call.pc = .returned .success ∧ run'.pc = success ∨
        (∃ result, run'.pc = .exited result) ∨ run'.pc = .crashed) := by
  unfold inCall at h
  split at h
  · rename_i hpc
    obtain ⟨he, hsuccess | hcrashed⟩ := goto_cases h
    · exact .inr ⟨he, ⟨_, hpc⟩, .inl ⟨hpc, hsuccess⟩⟩
    · exact .inr ⟨he, ⟨_, hpc⟩, .inr (.inr hcrashed)⟩
  · rename_i hpc
    obtain ⟨he, hexited | hcrashed⟩ := goto_cases h
    · exact .inr ⟨he, ⟨_, hpc⟩, .inr (.inl ⟨_, hexited⟩)⟩
    · exact .inr ⟨he, ⟨_, hpc⟩, .inr (.inr hcrashed)⟩
  · rw [Option.map_eq_some_iff] at h
    obtain ⟨⟨call', e'⟩, hnext, hrun⟩ := h
    cases hrun
    exact .inl ⟨call', hnext, rfl⟩

/-- The call that a run is in. -/
def EmitPc.call : EmitPc → Option (Call OutputPath)
  | .sidecar _ call => some call
  | .manifest _ call => some call
  | _ => none

/-- What a step does to the files is a step of the call, and a call that has linked its file
is not over. -/
theorem EmitRun.next_cases {run run' : EmitRun} {w : World OutputPath File EmitRun}
    {staged : Staged} {answer : Answer} {e : Effect OutputPath File}
    (h : run.next filename w staged answer = some (run', e)) :
    (∃ call call', run.pc.call = some call ∧ call.next w staged answer = some (call', e) ∧
      run'.pc.call = some call') ∨
    e = .idle ∧ ∀ call, run.pc.call = some call → call.pc.linked = false := by
  unfold next at h
  split at h
  case h_1 hpc =>
    refine .inr ⟨?_, by simp [hpc, EmitPc.call]⟩
    split at h <;> exact (goto_cases h).1
  case h_2 hpc | h_3 hpc =>
    rcases inCall_cases h with ⟨call', hcall, hpc'⟩ | ⟨he, ⟨result, hreturned⟩, -⟩
    · exact .inl ⟨_, call', by rw [hpc]; rfl, hcall, by rw [hpc']; rfl⟩
    · exact .inr ⟨he, by simp [hpc, EmitPc.call, hreturned, WritePc.linked]⟩
  case h_4 | h_5 => cases h

instance emitBenchmark_discreet (filename : List Byte) : (emitBenchmark filename).Discreet where
  sharing run := ∃ call, run.pc.call = some call ∧ call.pc.linked = true
  publishes h := by
    rcases EmitRun.next_cases h with ⟨call, call', -, hcall, hpc⟩ | ⟨he, -⟩
    · refine ⟨call', hpc, ?_⟩
      rw [(Call.steps_of_next hcall).of_publish.2.2.2]
      rfl
    · cases he
  stays h := by
    rintro ⟨call, hpc, hlinked⟩
    rcases EmitRun.next_cases h with ⟨call, call', hpc₁, hcall, hpc'⟩ | ⟨-, hfree⟩
    · cases hpc.symm.trans hpc₁
      exact ((Call.steps_of_next hcall).linked hlinked).imp_left fun hlinked' =>
        ⟨call', hpc', hlinked'⟩
    · rw [hfree call hpc] at hlinked
      cases hlinked
  writes h := by
    rintro ⟨call, hpc, hlinked⟩
    rcases EmitRun.next_cases h with ⟨call, call', hpc₁, hcall, -⟩ | ⟨he, -⟩
    · cases hpc.symm.trans hpc₁
      rw [(Call.steps_of_next hcall).of_write] at hlinked
      cases hlinked
    · cases he

/-- A run that has ended or not begun knows nothing. -/
theorem emits_of_ended
    (h : (∃ result, writer.state.pc = .exited result) ∨ writer.state.pc = .crashed) :
    Emits filename s writer := by
  unfold Emits
  rcases h with ⟨result, h⟩ | h <;> rw [h] <;> trivial

theorem emitBenchmark_keeps (filename : List Byte) :
    (emitBenchmark filename).Keeps (Emits filename) where
  stable _ _ _ hext hown h := h.stable hext hown
  start _ _ := trivial
  step w i a e w' writer writer' hstep hsound hext h := by
    have hheld := fun k => hsound.held i writer k hstep.at_
    have hnext : writer.state.next filename w writer.staged a = some (writer'.state, e) :=
      hstep.next
    unfold EmitRun.next at hnext
    unfold Emits at h
    split at hnext
    case h_1 hpc =>
      -- the digest of the sidecar is computed here
      split at hnext
      · obtain ⟨-, hexited | hcrashed⟩ := EmitRun.goto_cases hnext
        · exact emits_of_ended (.inl ⟨_, hexited⟩)
        · exact emits_of_ended (.inr hcrashed)
      · rename_i m digest hprepare
        obtain ⟨-, hsidecar | hcrashed⟩ := EmitRun.goto_cases hnext
        · unfold Emits
          rw [hsidecar]
          exact ⟨Call.holds_of_free rfl,
            congrArg (sidecarArguments filename) (digest_of_prepare hprepare)⟩
        · exact emits_of_ended (.inr hcrashed)
    case h_2 m call hpc =>
      rw [hpc] at h
      obtain ⟨hholds, harguments⟩ := h
      rcases EmitRun.inCall_cases hnext with
        ⟨call', hcall, hpc'⟩ | ⟨rfl, -, ⟨hreturned, hpc'⟩ | hended⟩
      · have hsteps := Call.steps_of_next hcall
        unfold Emits
        rw [hpc']
        exact ⟨hsteps.holds hstep.perform hheld hext hholds, hsteps.arguments_eq.trans harguments⟩
      · -- the first call has returned `true`: the sidecar is there
        obtain ⟨⟨file, hfile, hbytes⟩, -⟩ := hholds.succeeds (by rw [hreturned]; rfl)
        rw [harguments] at hfile hbytes
        unfold Emits
        rw [hpc']
        exact ⟨Call.holds_of_free rfl, rfl, file, hext.content hfile, hbytes⟩
      · exact emits_of_ended hended
    case h_3 m call hpc =>
      rw [hpc] at h
      obtain ⟨hholds, harguments, hsidecar⟩ := h
      rcases EmitRun.inCall_cases hnext with
        ⟨call', hcall, hpc'⟩ | ⟨rfl, -, ⟨hreturned, hpc'⟩ | hended⟩
      · have hsteps := Call.steps_of_next hcall
        unfold Emits
        rw [hpc']
        exact ⟨hsteps.holds hstep.perform hheld hext hholds, hsteps.arguments_eq.trans harguments,
          hsidecar.of_extends hext⟩
      · exact emits_of_ended (.inl ⟨_, hpc'⟩)
      · exact emits_of_ended hended
    case h_4 => cases hnext
    case h_5 => cases hnext

/-- Whoever publishes the manifest has its sidecar in place. -/
theorem sidecarOf_of_publish {w w' : World OutputPath File EmitRun} {i : ℕ} {a : Answer}
    {n : OutputPath} {keep : Bool} {writer' : Writer EmitRun} {file : File}
    (hstep : (emitBenchmark filename).Stepped w i a (.publish n keep) w' writer writer')
    (hext : Extends w.store w'.store) (h : Emits filename w.store writer)
    (hfile : writer.staged.content w.store = some file) (hn : n = .manifest) :
    SidecarOf filename w'.store file.bytes := by
  have hnext : writer.state.next filename w writer.staged a =
    some (writer'.state, .publish n keep) := hstep.next
  unfold EmitRun.next at hnext
  unfold Emits at h
  split at hnext
  case h_1 => split at hnext <;> cases (EmitRun.goto_cases hnext).1
  case h_2 m call hpc =>
    -- the call in this phase publishes the sidecar
    rw [hpc] at h
    obtain ⟨call', hcall, -⟩ | ⟨he, -⟩ := EmitRun.inCall_cases hnext
    · obtain ⟨-, hpath, -⟩ := (Call.steps_of_next hcall).of_publish
      rw [h.2, hn] at hpath
      cases hpath
    · cases he
  case h_3 m call hpc =>
    rw [hpc] at h
    obtain ⟨call', hcall, -⟩ | ⟨he, -⟩ := EmitRun.inCall_cases hnext
    · obtain ⟨hlink, -⟩ := (Call.steps_of_next hcall).of_publish
      have hwritten := h.1.written (.inr hlink)
      rw [hfile, h.2.1] at hwritten
      cases hwritten
      exact h.2.2.of_extends hext
    · cases he
  case h_4 => cases hnext
  case h_5 => cases hnext

/-- Any number of runs with one output path, from a directory without the manifest, each of
which may crash anywhere: whenever the manifest is there, the sidecar is there with the
digest of its bytes. -/
theorem sidecar_matches_manifest (filename : List Byte) {s : Store OutputPath File}
    (habsent : s.content .manifest = none)
    {trace : List (Move EmitInput Answer × Effect OutputPath File)}
    {w : World OutputPath File EmitRun}
    (run : Run (emitBenchmark filename).exec ⟨s, []⟩ trace w) {file : File}
    (hfile : w.store.content .manifest = some file) :
    ∃ sidecar, w.store.content .sidecar = some sidecar ∧
      sidecar.bytes = (Fips180.sha256 file.bytes).map (fun digit => BitVec.ofNat 8 digit.toNat) ++
        [0x20, 0x20] ++ filename ++ [0x0A] := by
  have hpublished := (emitBenchmark_keeps filename).published
    (P := fun w n file => n = .manifest → SidecarOf filename w.store file.bytes)
    (fun w m w' e n c _ hext h hn => (h hn).of_extends hext)
    (fun w i a n keep w' writer writer' file hstep hext h hfile hn =>
      sidecarOf_of_publish hstep hext h hfile hn)
    run (Protocol.sound_of_no_writers s) (World.all_of_no_writers _ s) hfile
  rcases hpublished with hbefore | hsidecar
  · rw [habsent] at hbefore
    cases hbefore
  · exact hsidecar rfl

namespace Fixture

/-- A run on a completed manifest with three canonical bytes. -/
def completedRun : EmitInput where
  argumentCount := 9
  outputRootFlag := "--output-root"
  evidenceRootFlag := "--evidence-root"
  evidenceFlag := "--raw-trials"
  manifest := .ok {
    runOutcome := "completed", rawTrialSha256 := "00", failureRecordSha256 := "",
    claimStatus := "research-only", capCertificationStatus := "research-only",
    canonical := [0x61, 0x62, 0x63] }
  outputRoot := .ok ()
  evidenceHash := .ok "00"

/-- The run alone, with every operation succeeding. -/
def bothFiles : List (Move EmitInput Answer) :=
  .enter completedRun :: List.replicate 22 (.step 0 .succeeds)

/-- The manifest with its three bytes is there. -/
def manifestWritten (w : World OutputPath File EmitRun) : Bool :=
  (w.store.content .manifest).any fun file => file.bytes = [0x61, 0x62, 0x63]

end Fixture

/-- A run that publishes both files, the manifest under the name `m`. -/
theorem sidecar_matches_manifest_on_completed_run :
    ∃ trace w, Run (emitBenchmark [0x6D]).exec ⟨.empty OutputPath File, []⟩ trace w ∧
      ∃ file, w.store.content .manifest = some file ∧ file.bytes = [0x61, 0x62, 0x63] ∧
      ∃ sidecar, w.store.content .sidecar = some sidecar ∧ sidecar.bytes = textBytes
        "ba7816bf8f01cfea414140de5dae2223b00361a396177a9cb410ff61f20015ad  m\n".toList := by
  obtain ⟨trace, w, hrun, hcheck⟩ : ∃ trace w,
      Run (emitBenchmark [0x6D]).exec ⟨.empty OutputPath File, []⟩ trace w ∧
        Fixture.manifestWritten w = true :=
    Run.exists_of_runActions Fixture.bothFiles (fun result => Fixture.manifestWritten result.2)
      (by decide +kernel)
  obtain ⟨file, hfile, hbytes⟩ := (Option.any_eq_true _ _).1 hcheck
  have hbytes := of_decide_eq_true hbytes
  obtain ⟨sidecar, hsidecar, hcontents⟩ := sidecar_matches_manifest [0x6D] rfl hrun hfile
  -- the definition of the standard is not for evaluation, `sha256_text` is
  have hdigest : "ba7816bf8f01cfea414140de5dae2223b00361a396177a9cb410ff61f20015ad".toList =
      Fips180.sha256 [0x61, 0x62, 0x63] := sha256Text_eq (by decide +kernel)
  refine ⟨trace, w, hrun, file, hfile, hbytes, sidecar, hsidecar, ?_⟩
  rw [hcontents, hbytes, ← hdigest]
  decide

end PrismInfer.Benchmark
