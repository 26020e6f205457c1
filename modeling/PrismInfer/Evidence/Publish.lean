import PrismInfer.Benchmark.Sha256Correct
import PrismInfer.Evidence.WrittenJson
import PrismInfer.Lib.Staging

/-!
# Publishing a bundle

`publish` (evidence-runner.py) as the program of a writer: the five files of a bundle
are written one after the other into a fresh private directory, and one exclusive
renaming gives the directory the fingerprint as its name. Every operation is a step
that may fail, every write may stop short, and a call may crash before any step.

`Publication.steps_of_next` says what a step can do, in the POSIX variant. From it follows
the invariant of a single call (`Publication.Holds`).

The flush of the output root and the closing of the descriptors come behind the
renaming, so a call may still raise after it has published (`published_and_raised`).
-/

namespace PrismInfer.Evidence

open PrismInfer.Lib PrismInfer.Benchmark

/-! ## One call -/

/-- A directory: its files in the order in which they were created. -/
abbrev Directory := List (String × List Byte)

/-- The arguments of a call: the data, and the two fields of the manifest it reads. -/
structure PublishArguments where
  manifestData : List Byte
  evidence : List Byte
  runId : Text
  fingerprint : Text

/-- The files of the bundle, in the order in which they are written. -/
def PublishArguments.files (arguments : PublishArguments) : Directory :=
  let files := bundleFiles arguments.manifestData arguments.evidence arguments.runId
    arguments.fingerprint
  [("manifest.json", files.manifest), ("evidence.jsonl", files.evidence),
    ("manifest.sha256", files.manifestDigest), ("evidence.sha256", files.evidenceDigest),
    ("COMMIT.json", files.commit)]

/-- How a call ends. -/
inductive PublishResult
  | success
  | raised (error : PyError)

/-- The next step of a call; the files are numbered in their order. -/
inductive PublishPc
  | rootStatus
  | openRoot
  | makeTemporary
  | openTemporary
  | createFile (index : ℕ)
  | writeFile (index : ℕ)
  | syncFile (index : ℕ)
  | syncTemporary
  | rename
  | syncRoot
  | closeTemporary (result : PublishResult)
  | closeRoot (result : PublishResult)
  | returned (result : PublishResult)
  | crashed

/-- What a step meets: an operation succeeds or raises an `OSError`, the root is no
directory, a part of the bytes is written, the new name is taken, the renaming is not
available, or the process crashes before the step. -/
inductive PublishAnswer
  | succeeds
  | fails
  | notDirectory
  | writes (count : ℕ)
  | exists_
  | unavailable
  | crashes
  deriving DecidableEq

/-- A call: its arguments and where it stands. -/
structure Publication where
  arguments : PublishArguments
  pc : PublishPc := .rootStatus

/-- The `OSError` of an operation. -/
def osError : PublishResult := .raised (.raised "OSError")

/-- A `Rejected`. -/
def rejectedWith (reason : String) : PublishResult := .raised (.rejected (text reason))

namespace Publication

/-- A step that only moves on. -/
def goto (call : Publication) (pc : PublishPc) : Option (Publication × Effect Text Directory) :=
  some ({ call with pc := pc }, .idle)

/-- An operation that succeeds, or fails with an `OSError` on the way out. -/
def operation (call : Publication) (answer : PublishAnswer) (next failure : PublishPc)
    (effect : Effect Text Directory) : Option (Publication × Effect Text Directory) :=
  match answer with
  | .succeeds => some ({ call with pc := next }, effect)
  | .fails => call.goto failure
  | _ => none

/-- The directory when the file at an index holds so many of its bytes. -/
def written (files : Directory) (index count : ℕ) : Directory :=
  files.take index ++ (files.drop index).head?.toList.map fun file => (file.1, file.2.take count)

/-- What happens at each point of a call that does not crash there
(evidence-runner.py:374–442). -/
def act (w : World Text Directory Publication) (call : Publication) (answer : PublishAnswer) :
    Option (Publication × Effect Text Directory) :=
  let files := call.arguments.files
  match call.pc with
  | .rootStatus =>
    match answer with
    | .succeeds => call.goto .openRoot
    | .notDirectory => call.goto (.returned (rejectedWith "output_root_rejected"))
    | .fails => call.goto (.returned osError)
    | _ => none
  | .openRoot => call.operation answer .makeTemporary (.returned osError) .idle
  | .makeTemporary => call.operation answer .openTemporary (.closeRoot osError) (.create [])
  | .openTemporary => call.operation answer (.createFile 0) (.closeRoot osError) .idle
  -- the loop over the files
  | .createFile index =>
    call.operation answer (.writeFile index) (.closeTemporary osError)
      (.write (written files index 0))
  | .writeFile index =>
    match answer with
    | .writes count => some (call, .write (written files index count))
    | _ =>
      call.operation answer (.syncFile index) (.closeTemporary osError)
        (.write (files.take (index + 1)))
  | .syncFile index =>
    call.operation answer
      (if index + 1 < files.length then .createFile (index + 1) else .syncTemporary)
      (.closeTemporary osError) .idle
  | .syncTemporary => call.operation answer .rename (.closeTemporary osError) .idle
  | .rename =>
    match answer with
    | .succeeds =>
      some ({ call with pc := .syncRoot }, .publish call.arguments.fingerprint false)
    | .exists_ =>
      if (w.store.published call.arguments.fingerprint).isSome then
        call.goto (.closeTemporary (rejectedWith "run_fingerprint_replay_rejected"))
      else none
    | .unavailable =>
      call.goto (.closeTemporary (rejectedWith "exclusive_directory_rename_unavailable"))
    | .fails => call.goto (.closeTemporary osError)
    | _ => none
  | .syncRoot =>
    call.operation answer (.closeTemporary .success) (.closeTemporary osError) .idle
  -- the `finally` clause; an error here takes the place of the result
  | .closeTemporary result =>
    call.operation answer (.closeRoot result) (.returned osError) .idle
  | .closeRoot result => call.operation answer (.returned result) (.returned osError) .idle
  | .returned _ => none
  | .crashed => none

/-- One step of a call, which may crash before it. -/
def next (w : World Text Directory Publication) (call : Publication) (answer : PublishAnswer) :
    Option (Publication × Effect Text Directory) :=
  if answer = .crashes then
    match call.pc with
    | .returned _ => none
    | .crashed => none
    | _ => call.goto .crashed
  else call.act w answer

end Publication

/-- Any number of calls of `publish` on one output root. -/
def publish : Protocol Text Directory Publication PublishArguments PublishAnswer where
  start arguments := { arguments := arguments }
  next w writer answer := writer.state.next w answer

/-! ## What a step can do -/

variable {pc : PublishPc} {directory : Directory}

namespace PublishPc

/-- The call has renamed its directory and is on its way to return. -/
def succeeding : PublishPc → Bool
  | .syncRoot => true
  | .closeTemporary .success => true
  | .closeRoot .success => true
  | .returned .success => true
  | _ => false

/-- The call is on its way to raise. -/
def raising : PublishPc → Bool
  | .closeTemporary (.raised _) => true
  | .closeRoot (.raised _) => true
  | .returned (.raised _) => true
  | _ => false

/-- Where a call can be that has renamed its directory and does not succeed. -/
def lost (pc : PublishPc) : Prop :=
  pc = .closeTemporary osError ∨ pc = .closeRoot osError ∨ pc = .returned osError ∨ pc = .crashed

/-- What the private directory holds at this point, where that is settled. -/
def expected (files : Directory) : PublishPc → Option Directory
  | .openTemporary => some []
  | .createFile index => some (files.take index)
  | .syncFile index => some (files.take (index + 1))
  | .syncTemporary => some files
  | .rename => some files
  | _ => none

/-- The call has neither renamed its directory nor failed. -/
def working (pc : PublishPc) : Bool :=
  match pc with
  | .crashed => false
  | pc => !pc.succeeding && !pc.raising

theorem free_of_raising (h : pc.raising = true) (files : Directory) :
    pc.expected files = none ∧ pc.succeeding = false := by
  cases pc with
  | closeTemporary result | closeRoot result | returned result =>
    cases result with
    | success => cases h
    | raised error => exact ⟨rfl, rfl⟩
  | _ => cases h

/-- Nothing is staged behind the renaming. -/
theorem expected_of_renamed (h : pc.succeeding = true ∨ pc.lost) (files : Directory) :
    pc.expected files = none := by
  rcases h with h | h
  · cases pc <;> first | rfl | cases h
  · rcases h with rfl | rfl | rfl | rfl <;> rfl

theorem not_renamed_of_working (h : pc.working = true) : ¬ (pc.succeeding = true ∨ pc.lost) := by
  rintro (hsucceeding | hlost)
  · cases pc <;> simp [working, hsucceeding] at h
  · rcases hlost with rfl | rfl | rfl | rfl <;> cases h

end PublishPc

namespace Publication

/-- The steps of a call by what they do to the files. -/
inductive Steps (call : Publication) : Publication → Effect Text Directory → Prop
  | crash : Steps call { call with pc := .crashed } .idle
  | move (pc : PublishPc) (hbefore : call.pc.working = true)
      (hafter : ∀ files, pc.expected files = none ∧ pc.succeeding = false) :
      Steps call { call with pc := pc } .idle
  | unwind (pc : PublishPc) (hbefore : call.pc.raising = true) (hafter : pc.raising = true)
      (hlost : call.pc.lost → pc.lost) : Steps call { call with pc := pc } .idle
  | create (hbefore : call.pc = .makeTemporary) :
      Steps call { call with pc := .openTemporary } (.create [])
  | opened (hbefore : call.pc = .openTemporary) :
      Steps call { call with pc := .createFile 0 } .idle
  | write (index : ℕ) (directory : Directory)
      (hbefore : call.pc = .createFile index ∨ call.pc = .writeFile index) :
      Steps call { call with pc := .writeFile index } (.write directory)
  | writeAll (index : ℕ) (hbefore : call.pc = .writeFile index) :
      Steps call { call with pc := .syncFile index }
        (.write (call.arguments.files.take (index + 1)))
  | synced (index : ℕ) (hbefore : call.pc = .syncFile index) :
      Steps call { call with
        pc := if index + 1 < call.arguments.files.length then .createFile (index + 1)
          else .syncTemporary } .idle
  | syncedAll (hbefore : call.pc = .syncTemporary) : Steps call { call with pc := .rename } .idle
  | rename (hbefore : call.pc = .rename) :
      Steps call { call with pc := .syncRoot } (.publish call.arguments.fingerprint false)
  | commit (pc : PublishPc) (hbefore : call.pc.succeeding = true)
      (hafter : pc.succeeding = true ∨ pc.lost) : Steps call { call with pc := pc } .idle

section Inversion

variable {w : World Text Directory Publication} {call call' : Publication}
  {answer : PublishAnswer} {e : Effect Text Directory}

/-- An operation does what it is for or ends the call. -/
theorem operation_cases {next failure : PublishPc} {effect : Effect Text Directory}
    (h : call.operation answer next failure effect = some (call', e)) :
    call' = { call with pc := next } ∧ e = effect ∨
      call' = { call with pc := failure } ∧ e = .idle := by
  cases answer with
  | succeeds =>
    cases h
    exact .inl ⟨rfl, rfl⟩
  | fails =>
    cases h
    exact .inr ⟨rfl, rfl⟩
  | _ => cases h

/-- A failure before the renaming. -/
theorem Steps.fails (hbefore : call.pc.working = true) (hafter : pc.raising = true) :
    Steps call { call with pc := pc } .idle :=
  .move pc hbefore (PublishPc.free_of_raising hafter)

/-- An operation that is done before the renaming. -/
theorem steps_of_operation {next failure : PublishPc} {effect : Effect Text Directory}
    (h : call.operation answer next failure effect = some (call', e))
    (hbefore : call.pc.working = true) (hfailure : failure.raising = true)
    (hnext : Steps call { call with pc := next } effect) : Steps call call' e := by
  rcases operation_cases h with ⟨rfl, rfl⟩ | ⟨rfl, rfl⟩
  · exact hnext
  · exact .fails hbefore hfailure

/-- An operation of the `finally` clause. -/
theorem steps_of_close {result : PublishResult} {step next : PublishResult → PublishPc}
    (hpc : call.pc = step result)
    (h : call.operation answer (next result) (.returned osError) .idle = some (call', e))
    (hsuccess : (step .success).succeeding = true ∧ (next .success).succeeding = true)
    (hraised : ∀ error, (step (.raised error)).raising = true ∧
      (next (.raised error)).raising = true)
    (hlost : (step result).lost → (next result).lost) : Steps call call' e := by
  have hout : PublishPc.lost (.returned osError) := .inr (.inr (.inl rfl))
  cases result with
  | success =>
    rcases operation_cases h with ⟨rfl, rfl⟩ | ⟨rfl, rfl⟩
    · exact .commit _ (hpc ▸ hsuccess.1) (.inl hsuccess.2)
    · exact .commit _ (hpc ▸ hsuccess.1) (.inr hout)
  | raised error =>
    rcases operation_cases h with ⟨rfl, rfl⟩ | ⟨rfl, rfl⟩
    · exact .unwind _ (hpc ▸ (hraised error).1) (hraised error).2 (hpc ▸ hlost)
    · exact .unwind _ (hpc ▸ (hraised error).1) rfl fun _ => hout

/-- Every step of a call is one of these. -/
theorem steps_of_next (h : call.next w answer = some (call', e)) : Steps call call' e := by
  unfold next at h
  split at h
  case isTrue =>
    split at h
    · cases h
    · cases h
    · cases h
      exact .crash
  case isFalse =>
    obtain ⟨arguments, pc⟩ := call
    unfold act at h
    cases pc with
    | rootStatus =>
      cases answer with
      | succeeds =>
        cases h
        exact .move _ rfl fun _ => ⟨rfl, rfl⟩
      | notDirectory | fails =>
        cases h
        exact .fails rfl rfl
      | _ => cases h
    | openRoot => exact steps_of_operation h rfl rfl (.move _ rfl fun _ => ⟨rfl, rfl⟩)
    | makeTemporary => exact steps_of_operation h rfl rfl (.create rfl)
    | openTemporary => exact steps_of_operation h rfl rfl (.opened rfl)
    | createFile index => exact steps_of_operation h rfl rfl (.write index _ (.inl rfl))
    | writeFile index =>
      cases answer with
      | writes count =>
        cases h
        exact .write index _ (.inr rfl)
      | _ => exact steps_of_operation h rfl rfl (.writeAll index rfl)
    | syncFile index => exact steps_of_operation h rfl rfl (.synced index rfl)
    | syncTemporary => exact steps_of_operation h rfl rfl (.syncedAll rfl)
    | rename =>
      cases answer with
      | succeeds =>
        cases h
        exact .rename rfl
      | exists_ =>
        dsimp only at h
        split at h
        · cases h
          exact .fails rfl rfl
        · cases h
      | unavailable | fails =>
        cases h
        exact .fails rfl rfl
      | _ => cases h
    | syncRoot =>
      -- the directory has its name by now, whatever the answer
      rcases operation_cases h with ⟨rfl, rfl⟩ | ⟨rfl, rfl⟩
      · exact .commit _ rfl (.inl rfl)
      · exact .commit _ rfl (.inr (.inl rfl))
    | closeTemporary | closeRoot =>
      exact steps_of_close rfl h ⟨rfl, rfl⟩ (fun _ => ⟨rfl, rfl⟩) (by simp [PublishPc.lost])
    | returned _ | crashed => cases h

end Inversion

section Steps

variable {call call' : Publication} {e : Effect Text Directory}

theorem Steps.arguments_eq (h : Steps call call' e) : call'.arguments = call.arguments := by
  cases h <;> rfl

/-- Only the renaming publishes. -/
theorem Steps.of_publish {n : Text} {keep : Bool} (h : Steps call call' (.publish n keep)) :
    call.pc = .rename ∧ n = call.arguments.fingerprint ∧ call'.pc = .syncRoot := by
  generalize heffect : Effect.publish n keep = e at h
  cases h with
  | rename hbefore =>
    cases heffect
    exact ⟨hbefore, rfl, rfl⟩
  | _ => cases heffect

/-- The files are written before the renaming. -/
theorem Steps.of_write {directory : Directory} (h : Steps call call' (.write directory)) :
    call.pc.working = true := by
  generalize heffect : Effect.write directory = e at h
  cases h with
  | write index directory hbefore => rcases hbefore with hbefore | hbefore <;> rw [hbefore] <;> rfl
  | writeAll index hbefore =>
    rw [hbefore]
    rfl
  | _ => cases heffect

/-- A call is past its renaming by renaming. -/
theorem Steps.rename_of_succeeding (h : Steps call call' e) (hbefore : ¬ call.pc.succeeding = true)
    (hafter : call'.pc.succeeding = true) : e = .publish call.arguments.fingerprint false := by
  cases h with
  | rename => rfl
  | move pc _ hfree =>
    rw [(hfree []).2] at hafter
    cases hafter
  | unwind pc _ hraising =>
    rw [(PublishPc.free_of_raising hraising []).2] at hafter
    cases hafter
  | synced index =>
    dsimp only at hafter
    split at hafter <;> cases hafter
  | commit pc hsucceeding => exact absurd hsucceeding hbefore
  | crash | create | opened | write | writeAll | syncedAll => cases hafter

/-- A call that has renamed its directory succeeds, or ends with an `OSError` or a crash. -/
theorem Steps.renamed (hstep : Steps call call' e) (h : call.pc.succeeding = true ∨ call.pc.lost) :
    call'.pc.succeeding = true ∨ call'.pc.lost := by
  -- the other steps are those of a call that is still at work
  have hidle : call.pc.working ≠ true := fun hworking =>
    PublishPc.not_renamed_of_working hworking h
  cases hstep with
  | crash => exact .inr (.inr (.inr (.inr rfl)))
  | unwind pc hbefore _ hlost =>
    rcases h with hsucceeding | h
    · rw [(PublishPc.free_of_raising hbefore []).2] at hsucceeding
      cases hsucceeding
    · exact .inr (hlost h)
  | commit pc _ hafter => exact hafter
  | move pc hbefore => exact absurd hbefore hidle
  | write index directory hbefore =>
    rcases hbefore with hbefore | hbefore <;> exact absurd (by rw [hbefore]; rfl) hidle
  | create hbefore | opened hbefore | writeAll _ hbefore | synced _ hbefore | syncedAll hbefore
  | rename hbefore => exact absurd (by rw [hbefore]; rfl) hidle

/-- What a call knows: what its private directory holds, and that its bundle is there once it
is renamed. -/
structure Holds (s : Store Text Directory) (staged : Staged) (call : Publication) : Prop where
  written : ∀ directory, call.pc.expected call.arguments.files = some directory →
    staged.content s = some directory
  published : call.pc.succeeding = true →
    s.content call.arguments.fingerprint = some call.arguments.files

variable {s : Store Text Directory} {staged : Staged}

theorem Holds.of_extends {t : Store Text Directory} (hext : Extends s t)
    (hown : staged.content t = staged.content s) (h : call.Holds s staged) :
    call.Holds t staged where
  written directory hpc := hown.trans (h.written directory hpc)
  published hpc := hext.content (h.published hpc)

theorem holds_of_free
    (h : call.pc.expected call.arguments.files = none ∧ call.pc.succeeding = false) :
    call.Holds s staged where
  written directory hpc := by
    rw [h.1] at hpc
    cases hpc
  published hpc := by
    rw [h.2] at hpc
    cases hpc

theorem holds_of_expected (hpc : call.pc.expected call.arguments.files = some directory)
    (hfree : call.pc.succeeding = false) (h : staged.content s = some directory) :
    call.Holds s staged where
  written directory' hpc' := by
    rw [hpc] at hpc'
    exact h.trans hpc'
  published hsucceeding := by
    rw [hfree] at hsucceeding
    cases hsucceeding

/-- A step of a call keeps what the call knows. -/
theorem Steps.holds {s' : Store Text Directory} {staged' : Staged} (hstep : Steps call call' e)
    (hperform : s.perform staged e = some (s', staged'))
    (hheld : ∀ k, staged.object = some k → k < s.objects.length) (h : call.Holds s staged) :
    call'.Holds s' staged' := by
  cases hstep with
  | crash | write => exact holds_of_free ⟨rfl, rfl⟩
  | move pc _ hafter => exact holds_of_free (hafter _)
  | unwind pc _ hafter => exact holds_of_free (PublishPc.free_of_raising hafter _)
  | create => exact holds_of_expected rfl rfl (Store.content_of_create hperform)
  | opened hbefore =>
    cases hperform
    exact holds_of_expected rfl rfl (h.written [] (by rw [hbefore]; rfl))
  | writeAll => exact holds_of_expected rfl rfl (Store.content_of_write hperform hheld)
  | synced index hbefore =>
    cases hperform
    have hwritten := h.written (call.arguments.files.take (index + 1)) (by rw [hbefore]; rfl)
    by_cases hnext : index + 1 < call.arguments.files.length
    · rw [if_pos hnext]
      exact holds_of_expected rfl rfl hwritten
    · -- the last file is written
      rw [if_neg hnext]
      rw [List.take_of_length_le (not_lt.1 hnext)] at hwritten
      exact holds_of_expected rfl rfl hwritten
  | syncedAll hbefore =>
    cases hperform
    exact holds_of_expected rfl rfl (h.written _ (by rw [hbefore]; rfl))
  | rename hbefore =>
    have hwritten := h.written call.arguments.files (by rw [hbefore]; rfl)
    exact ⟨nofun, fun _ => Store.content_of_publish hperform hwritten⟩
  | commit pc hbefore hafter =>
    cases hperform
    refine ⟨fun directory hpc => ?_, fun _ => h.published hbefore⟩
    rw [PublishPc.expected_of_renamed hafter] at hpc
    cases hpc

end Steps

end Publication

/-! ## Any number of calls -/

/-- What a run of calls leaves behind: each move with its effect on the files. -/
abbrev PublishTrace := List (Move PublishArguments PublishAnswer × Effect Text Directory)

section Calls

variable {s : Store Text Directory} {w w' : World Text Directory Publication}
  {trace : PublishTrace} {i : ℕ} {a : PublishAnswer} {e : Effect Text Directory}

theorem publish_steps {writer writer' : Writer Publication}
    (h : publish.Stepped w i a e w' writer writer') : writer.state.Steps writer'.state e :=
  Publication.steps_of_next h.next

instance publish_discreet : publish.Discreet where
  sharing call := call.pc.succeeding = true ∨ call.pc.lost
  publishes h := by
    rw [(Publication.steps_of_next h).of_publish.2.2]
    exact .inl rfl
  stays h hrenamed := .inl ((Publication.steps_of_next h).renamed hrenamed)
  writes h := PublishPc.not_renamed_of_working (Publication.steps_of_next h).of_write

theorem publish_keeps : publish.Keeps fun s writer => writer.state.Holds s writer.staged where
  stable _ _ _ hext hown h := h.of_extends hext hown
  start _ _ := Publication.holds_of_free ⟨rfl, rfl⟩
  step _ i _ _ _ writer _ hstep hsound _ h :=
    (publish_steps hstep).holds hstep.perform (fun k => hsound.held i writer k hstep.at_) h

/-- The directory is the bundle of a call for this fingerprint. -/
def PublishedBy (w : World Text Directory Publication) (n : Text) (directory : Directory) : Prop :=
  ∃ (i : ℕ) (writer : Writer Publication), w.writers[i]? = some writer ∧
    writer.state.arguments.fingerprint = n ∧ directory = writer.state.arguments.files

theorem publishedBy_exec {m : Move PublishArguments PublishAnswer} {n : Text}
    (hexec : publish.exec w m = some (w', e)) (h : PublishedBy w n directory) :
    PublishedBy w' n directory := by
  obtain ⟨i, writer, hat, hname, hfiles⟩ := h
  obtain ⟨writer', hat', rfl | ⟨b, -, hstep⟩⟩ := Protocol.exec_writer hexec hat
  · exact ⟨i, writer', hat', hname, hfiles⟩
  · have harguments := (publish_steps hstep).arguments_eq
    exact ⟨i, writer', hat', harguments ▸ hname, harguments ▸ hfiles⟩

section

variable (run : Run publish.exec ⟨s, []⟩ trace w)
include run

/-- Whatever appears in a run is the whole bundle of one call. -/
theorem publishedBy_of_run {n : Text} (h : w.store.content n = some directory) :
    s.content n = some directory ∨ PublishedBy w n directory := by
  refine publish_keeps.published (P := PublishedBy)
    (fun w m w' e n c hexec _ => publishedBy_exec hexec) ?_ run (Protocol.sound_of_no_writers s)
    (World.all_of_no_writers _ s) h
  intro w i a n keep w' writer writer' directory hstep _ hholds hcontent
  have harguments := (publish_steps hstep).arguments_eq
  obtain ⟨hpc, rfl, -⟩ := (publish_steps hstep).of_publish
  have hwritten := hholds.written writer.state.arguments.files (by rw [hpc]; rfl)
  rw [hcontent] at hwritten
  cases hwritten
  exact ⟨i, writer', hstep.at_self, by rw [harguments], by rw [harguments]⟩

/-- A call on its way to return has renamed its directory. -/
theorem rename_of_succeeding {writer : Writer Publication} (hat : w.writers[i]? = some writer)
    (hpc : writer.state.pc.succeeding = true) :
    ∃ a, (Move.step i a, Effect.publish writer.state.arguments.fingerprint false) ∈ trace := by
  let C (call : Publication) : Prop :=
    call.arguments = writer.state.arguments ∧ call.pc.succeeding = true
  obtain ⟨t, a, e, t', mover, mover', hmem, hstep, hbefore, harguments, hafter⟩ :=
    Protocol.step_of_reached (C := C) run (fun x => by simp [C, publish, PublishPc.succeeding])
      hat ⟨rfl, hpc⟩
  have hsame : mover.state.arguments = writer.state.arguments :=
    (publish_steps hstep).arguments_eq.symm.trans harguments
  have heffect := (publish_steps hstep).rename_of_succeeding
    (fun hsucceeding => hbefore ⟨hsame, hsucceeding⟩) hafter
  rw [heffect, hsame] at hmem
  exact ⟨a, hmem⟩

/-- A call that has renamed its directory succeeds, raises an `OSError` or crashes. -/
theorem renamed_of_publish {n : Text} {keep : Bool}
    (hmem : (Move.step i a, Effect.publish n keep) ∈ trace) :
    ∃ writer, w.writers[i]? = some writer ∧ writer.state.arguments.fingerprint = n ∧
      (writer.state.pc.succeeding = true ∨ writer.state.pc.lost) := by
  let C (call : Publication) : Prop :=
    call.arguments.fingerprint = n ∧ (call.pc.succeeding = true ∨ call.pc.lost)
  refine Protocol.lasts_after (C := C) run hmem ?_ ?_
  · intro t t' mover mover' hstep
    obtain ⟨-, hname, hpc⟩ := (publish_steps hstep).of_publish
    refine ⟨?_, .inl (by rw [hpc]; rfl)⟩
    rw [(publish_steps hstep).arguments_eq, hname]
  · rintro t b e t' mover mover' hstep ⟨hname, hrenamed⟩
    exact ⟨(publish_steps hstep).arguments_eq ▸ hname, (publish_steps hstep).renamed hrenamed⟩

end

theorem raised_of_renamed {call : Publication} {error : PyError}
    (hpc : call.pc = .returned (.raised error))
    (hrenamed : call.pc.succeeding = true ∨ call.pc.lost) : error = .raised "OSError" := by
  rw [hpc] at hrenamed
  rcases hrenamed with hsucceeding | hlost | hlost | hlost | hlost
  · cases hsucceeding
  · cases hlost
  · cases hlost
  · exact PublishResult.raised.inj (PublishPc.returned.inj hlost)
  · cases hlost

/-- The bytes of the commit: five members in one line, in which the two texts of the call
stand as JSON strings. -/
def commitBytes (arguments : PublishArguments) : List Byte :=
  textBytes ("\x7b\"bundle_version\":\"committed-evidence-v1\",\"evidence_sha256\":\"".toList ++
      Fips180.sha256 arguments.evidence ++ "\",\"manifest_sha256\":\"".toList ++
      Fips180.sha256 arguments.manifestData ++ "\",\"run_fingerprint_sha256\":".toList) ++
    encode (writeString arguments.fingerprint) ++ textBytes ",\"run_id\":".toList ++
    encode (writeString arguments.runId) ++ textBytes "\x7d\n".toList

/-- A directory with the five files of a bundle and nothing else: the bytes of the call, their
SHA-256 digests with the names of the files, and the commit. -/
structure BundleOf (arguments : PublishArguments) (directory : Directory) : Prop where
  names : directory.map Prod.fst =
    ["manifest.json", "evidence.jsonl", "manifest.sha256", "evidence.sha256", "COMMIT.json"]
  manifest : directory.lookup "manifest.json" = some arguments.manifestData
  evidence : directory.lookup "evidence.jsonl" = some arguments.evidence
  manifestDigest : directory.lookup "manifest.sha256" =
    some (textBytes (Fips180.sha256 arguments.manifestData ++ "  manifest.json\n".toList))
  evidenceDigest : directory.lookup "evidence.sha256" =
    some (textBytes (Fips180.sha256 arguments.evidence ++ "  evidence.jsonl\n".toList))
  commit : directory.lookup "COMMIT.json" = some (commitBytes arguments)

theorem encode_ofChars (chars : List Char) : encode (ofChars chars) = textBytes chars := by
  rw [encode, ofChars, textBytes, List.map_map]
  exact List.map_congr_left fun c _ => congrArg (BitVec.ofNat 8) (codePoint_val c)

theorem digestFile_eq {name ending : String} (data : List Byte)
    (h : text "  " ++ text name ++ text "\n" = text ending) :
    digestFile data name = textBytes (Fips180.sha256 data ++ ending.toList) := by
  rw [← encode_ofChars, ofChars, List.map_append, digestFile, List.append_assoc, List.append_assoc,
    ← List.append_assoc (text "  "), h]
  rfl

/-- The members of the commit, written out: the digests need no escapes. -/
theorem dumps_commitMembers (arguments : PublishArguments) :
    dumps (commitMembers arguments.manifestData arguments.evidence arguments.runId
      arguments.fingerprint) ++ [10] = commitBytes arguments := by
  have hopen : ofChars
      "\x7b\"bundle_version\":\"committed-evidence-v1\",\"evidence_sha256\":\"".toList =
      codePoint '\x7b' :: (writeString (text "bundle_version") ++ codePoint ':' ::
        (writeString (text "committed-evidence-v1") ++ codePoint ',' ::
          (writeString (text "evidence_sha256") ++ [codePoint ':', codePoint '"']))) := by decide
  have hmanifest : ofChars "\",\"manifest_sha256\":\"".toList = codePoint '"' :: codePoint ',' ::
      (writeString (text "manifest_sha256") ++ [codePoint ':', codePoint '"']) := by decide
  have hfingerprint : ofChars "\",\"run_fingerprint_sha256\":".toList = codePoint '"' ::
      codePoint ',' :: (writeString (text "run_fingerprint_sha256") ++ [codePoint ':']) := by decide
  have hrun : ofChars ",\"run_id\":".toList =
      codePoint ',' :: (writeString (text "run_id") ++ [codePoint ':']) := by decide
  have hclose : ofChars "\x7d\n".toList = [codePoint '\x7d', codePoint '\n'] := by decide
  have happend (a b : List Char) : ofChars (a ++ b) = ofChars a ++ ofChars b := List.map_append
  have hline : ([10] : List Byte) = encode [codePoint '\n'] := by decide
  simp only [commitBytes, ← encode_ofChars, happend, hopen, hmanifest, hfingerprint, hrun, hclose,
    hline]
  simp only [dumps, commitMembers, writeObject, writeMembers, writeMember, writeScalar,
    writeString_sha256Hex, ← encode_append, List.append_assoc, List.cons_append, List.nil_append]
  rfl

theorem bundleOf_files (arguments : PublishArguments) : BundleOf arguments arguments.files := by
  constructor <;>
    simp only [PublishArguments.files, bundleFiles, List.map_cons, List.map_nil,
      List.lookup_cons, String.reduceBEq, BEq.rfl]
  · exact congrArg some (digestFile_eq _ (by decide))
  · exact congrArg some (digestFile_eq _ (by decide))
  · exact congrArg some (dumps_commitMembers _)

/-- No step of the call changes what is published. -/
def WithoutEffect (s : Store Text Directory) (trace : PublishTrace) (i : ℕ) : Prop :=
  ∀ first a e rest v v', trace = first ++ (Move.step i a, e) :: rest →
    Run publish.exec ⟨s, []⟩ first v → publish.exec v (.step i a) = some (v', e) →
    ∀ n, v'.store.content n = v.store.content n

theorem withoutEffect_of_no_rename
    (h : ∀ a n keep, (Move.step i a, Effect.publish n keep) ∉ trace) : WithoutEffect s trace i := by
  intro first a e rest v v' htrace hfirst hexec n
  obtain ⟨mover, mover', hstep⟩ := publish.exec_step hexec
  have hsound := (Protocol.extends_run hfirst (Protocol.sound_of_no_writers s)).1
  refine hstep.content_of_private hsound ?_ n
  rintro m keep rfl
  apply h a m keep
  rw [htrace]
  exact List.mem_append_right _ List.mem_cons_self

/-- In every interleaving of calls that may crash anywhere, from any output root: every
directory that appears is the whole bundle of one call for its fingerprint; a directory that
is there does not change; at most one call for a fingerprint succeeds; and a call that raises
has no effect, unless it raises an `OSError` behind its own renaming, and then no call for
the fingerprint succeeds. -/
theorem bundles_appear_once_and_whole (s : Store Text Directory) {before after : PublishTrace}
    {u w : World Text Directory Publication} (hbefore : Run publish.exec ⟨s, []⟩ before u)
    (hafter : Run publish.exec u after w) :
    (∀ n directory, w.store.content n = some directory →
      s.content n = some directory ∨
        ∃ (i : ℕ) (writer : Writer Publication), w.writers[i]? = some writer ∧
          writer.state.arguments.fingerprint = n ∧ BundleOf writer.state.arguments directory) ∧
    (∀ n directory, u.store.content n = some directory →
      w.store.content n = some directory) ∧
    (∀ (i j : ℕ) (writer other : Writer Publication), w.writers[i]? = some writer →
      w.writers[j]? = some other →
      writer.state.arguments.fingerprint = other.state.arguments.fingerprint →
      writer.state.pc = .returned .success → other.state.pc = .returned .success → i = j) ∧
    ∀ (i : ℕ) (writer : Writer Publication) (error : PyError), w.writers[i]? = some writer →
      writer.state.pc = .returned (.raised error) →
      WithoutEffect s (before ++ after) i ∨
        error = .raised "OSError" ∧
        (∃ a keep, (Move.step i a, Effect.publish writer.state.arguments.fingerprint keep) ∈
          before ++ after) ∧
        ∀ (j : ℕ) (other : Writer Publication), w.writers[j]? = some other →
          other.state.arguments.fingerprint = writer.state.arguments.fingerprint →
          other.state.pc ≠ .returned .success := by
  have hsound : publish.Sound ⟨s, []⟩ := Protocol.sound_of_no_writers s
  have hrun := hbefore.append hafter
  refine ⟨fun n directory hcontent => ?_, fun n directory hcontent => ?_,
    fun i j writer other hi hj hname hsuccess hsuccess' => ?_, fun i writer error hi hpc => ?_⟩
  · rcases publishedBy_of_run hrun hcontent with hinitial | ⟨i, writer, hat, hname, rfl⟩
    · exact .inl hinitial
    · exact .inr ⟨i, writer, hat, hname, bundleOf_files _⟩
  · exact (Protocol.extends_run hafter (Protocol.extends_run hbefore hsound).1).2.content hcontent
  · obtain ⟨a, hrename⟩ := rename_of_succeeding hrun hi (by rw [hsuccess]; rfl)
    obtain ⟨b, hrename'⟩ := rename_of_succeeding hrun hj (by rw [hsuccess']; rfl)
    rw [← hname] at hrename'
    exact Protocol.publisher_unique hrun hsound hrename hrename'
  · by_cases hrenames : ∃ a n keep, (Move.step i a, Effect.publish n keep) ∈ before ++ after
    · right
      obtain ⟨a, n, keep, hmem⟩ := hrenames
      obtain ⟨writer', hi', rfl, hrenamed⟩ := renamed_of_publish hrun hmem
      cases hi.symm.trans hi'
      refine ⟨raised_of_renamed hpc hrenamed, ⟨a, keep, hmem⟩, fun j other hj hname hsuccess => ?_⟩
      -- the other call would have renamed its directory to the same name
      obtain ⟨b, hrename⟩ := rename_of_succeeding hrun hj (by rw [hsuccess]; rfl)
      rw [hname] at hrename
      obtain rfl := Protocol.publisher_unique hrun hsound hmem hrename
      cases hi.symm.trans hj
      rw [hpc] at hsuccess
      cases hsuccess
    · refine .inl (withoutEffect_of_no_rename fun a n keep hmem => ?_)
      exact hrenames ⟨a, n, keep, hmem⟩

end Calls

/-! ## A call that publishes and raises -/

section Raises

variable {w w' w'' : World Text Directory Publication} (arguments : PublishArguments)

/-- A run leads from one world to the other. -/
def Reaches (w w' : World Text Directory Publication) : Prop :=
  ∃ trace, Run publish.exec w trace w'

theorem Reaches.step (h : Reaches w w') (answer : PublishAnswer) {e : Effect Text Directory}
    (hexec : publish.exec w' (.step 0 answer) = some (w'', e)) : Reaches w w'' := by
  obtain ⟨trace, run⟩ := h
  exact ⟨_, run.snoc hexec⟩

/-- One call on an empty root, with its private directory. -/
def lone (pc : PublishPc) (directory : Directory) : World Text Directory Publication :=
  ⟨(Store.empty Text Directory).create directory,
    [{ state := ⟨arguments, pc⟩, staged := { object := some 0 } }]⟩

/-- The call when its directory has its public name. -/
def renamed (pc : PublishPc) : World Text Directory Publication :=
  ⟨((Store.empty Text Directory).create arguments.files).publish arguments.fingerprint 0
      Nat.zero_lt_one,
    [{ state := ⟨arguments, pc⟩, staged := { object := none, shared := true } }]⟩

theorem reaches_files :
    Reaches ⟨.empty Text Directory, []⟩ (lone arguments (.createFile 0) []) := by
  have henter : Reaches ⟨.empty Text Directory, []⟩
      ⟨.empty Text Directory, [{ state := { arguments := arguments } }]⟩ :=
    ⟨[(.enter arguments, .idle)], Run.single rfl⟩
  exact (((henter.step .succeeds rfl).step .succeeds rfl).step .succeeds rfl).step .succeeds rfl

/-- One file of the loop. -/
theorem reaches_next {index : ℕ} (h : Reaches w (lone arguments (.createFile index) directory)) :
    Reaches w (lone arguments
      (if index + 1 < arguments.files.length then .createFile (index + 1) else .syncTemporary)
      (arguments.files.take (index + 1))) :=
  ((h.step .succeeds rfl).step .succeeds rfl).step .succeeds rfl

theorem reaches_rename : Reaches ⟨.empty Text Directory, []⟩ (renamed arguments .syncRoot) := by
  have hfiles : Reaches ⟨.empty Text Directory, []⟩
      (lone arguments .syncTemporary arguments.files) :=
    reaches_next arguments (reaches_next arguments (reaches_next arguments
      (reaches_next arguments (reaches_next arguments (reaches_files arguments)))))
  exact (hfiles.step .succeeds rfl).step .succeeds rfl

theorem content_renamed (pc : PublishPc) :
    (renamed arguments pc).store.content arguments.fingerprint = some arguments.files := by
  simp [renamed, Store.content, Store.publish, Store.create, Store.empty]

/-- The arguments of a call with a short manifest and no evidence. -/
def smallBundle : PublishArguments where
  manifestData := [0x7B, 0x7D, 10]
  evidence := []
  runId := text "run"
  fingerprint := List.replicate 64 (codePoint 'a')

/-- A call that publishes its bundle on an empty root may raise all the same: the flush of
the root comes behind the renaming. -/
theorem published_and_raised :
    ∃ trace w, Run publish.exec ⟨.empty Text Directory, []⟩ trace w ∧
      w.writers.map (·.state) = [⟨smallBundle, .returned (.raised (.raised "OSError"))⟩] ∧
      (Store.empty Text Directory).content smallBundle.fingerprint = none ∧
      w.store.content smallBundle.fingerprint = some smallBundle.files := by
  have hraised : Reaches ⟨.empty Text Directory, []⟩ (renamed smallBundle (.returned osError)) :=
    (((reaches_rename smallBundle).step .fails rfl).step .succeeds rfl).step .succeeds rfl
  obtain ⟨trace, run⟩ := hraised
  exact ⟨trace, _, run, rfl, rfl, content_renamed smallBundle _⟩

theorem bundles_appear_once_and_whole_on_success :
    ∃ (trace : PublishTrace) (w : World Text Directory Publication) (directory : Directory),
      Run publish.exec ⟨.empty Text Directory, []⟩ trace w ∧
      w.writers.map (·.state) = [⟨smallBundle, .returned .success⟩] ∧
      w.store.content smallBundle.fingerprint = some directory ∧
      BundleOf smallBundle directory ∧
      directory.lookup "COMMIT.json" = some (textBytes
        ("\x7b\"bundle_version\":\"committed-evidence-v1\",\"evidence_sha256\":\"".toList ++
          "e3b0c44298fc1c149afbf4c8996fb92427ae41e4649b934ca495991b7852b855".toList ++
          "\",\"manifest_sha256\":\"".toList ++
          "ca3d163bab055381827226140568f3bef7eaac187cebd76878e0b63e9e442356".toList ++
          "\",\"run_fingerprint_sha256\":\"".toList ++ List.replicate 64 'a' ++
          "\",\"run_id\":\"run\"\x7d\n".toList)) := by
  have hreturned : Reaches ⟨.empty Text Directory, []⟩ (renamed smallBundle (.returned .success)) :=
    (((reaches_rename smallBundle).step .succeeds rfl).step .succeeds rfl).step .succeeds rfl
  obtain ⟨trace, run⟩ := hreturned
  have hcontent := content_renamed smallBundle (.returned .success)
  have hbundle : BundleOf smallBundle smallBundle.files := by
    rcases (bundles_appear_once_and_whole _ Run.nil run).1 _ _ hcontent with
      hinitial | ⟨i, writer, hat, -, hbundle⟩
    · cases hinitial
    · -- there is one call
      rw [renamed, List.getElem?_singleton] at hat
      split at hat <;> cases hat
      exact hbundle
  refine ⟨trace, _, smallBundle.files, run, rfl, hcontent, hbundle, ?_⟩
  have hevidence : "e3b0c44298fc1c149afbf4c8996fb92427ae41e4649b934ca495991b7852b855".toList =
      Fips180.sha256 smallBundle.evidence := sha256Text_eq (by decide +kernel)
  have hmanifest : "ca3d163bab055381827226140568f3bef7eaac187cebd76878e0b63e9e442356".toList =
      Fips180.sha256 smallBundle.manifestData := sha256Text_eq (by decide +kernel)
  rw [hbundle.commit, commitBytes, ← hevidence, ← hmanifest]
  decide +kernel

end Raises

end PrismInfer.Evidence
