import PrismInfer.Benchmark.AtomicFile

/-!
# Files appear once and whole

Any number of calls of `write_new_or_same_text_file_atomically`, interleaved in any
way and crashing anywhere. `Call.steps_of_next` says what a step of a call can do; from
it follows the invariant of a single call (`Call.Holds`), which the rules of staged
publication carry through every interleaving.
-/

namespace PrismInfer.Benchmark

open PrismInfer.Lib

variable {ν ℓ : Type*}

/-! ## What a step can do -/

/-- The call has linked its file or found it there, and is on its way to return `true`. -/
def WritePc.succeeding : WritePc → Bool
  | .cleanupPayload .success => true
  | .cleanupDirectory .success => true
  | .returned .success => true
  | _ => false

/-- The call does not return `false` from here. -/
def WritePc.committed : WritePc → Bool
  | .crashed => true
  | pc => pc.succeeding

/-- The call may have linked its file, and the private name is still there. -/
def WritePc.linked : WritePc → Bool
  | .cleanupPayload .success => true
  | .crashed => true
  | _ => false

/-- The call has neither linked its file nor begun to clean up. -/
def WritePc.working : WritePc → Bool
  | .cleanupPayload _ => false
  | .cleanupDirectory _ => false
  | .returned _ => false
  | .crashed => false
  | _ => true

variable {pc : WritePc}

theorem WritePc.committed_of_working (h : pc.working = true) : pc.committed = false := by
  cases pc <;> first | rfl | cases h

theorem WritePc.not_linked_of_working (h : pc.working = true) : pc.linked = false := by
  cases pc <;> first | rfl | cases h

/-- Nothing is known of the target or of the private file here. -/
def WritePc.free : WritePc → Bool
  | .existingValidator => false
  | .temporaryValidator => false
  | .createHardLink => false
  | pc => !pc.succeeding

namespace Call

/-- The steps of a call by what they do to the files and what they find out. -/
inductive Steps (w : World ν File ℓ) (staged : Staged) (call : Call ν) :
    Call ν → Effect ν File → Prop
  | crash : Steps w staged call { call with pc := .crashed } .idle
  | move (pc : WritePc) (hbefore : call.pc.working = true) (hafter : pc.free = true) :
      Steps w staged call { call with pc := pc } .idle
  | same (hbefore : call.pc = .existingRead)
      (hsame : ∃ file, w.store.content call.arguments.path = some file ∧
        file.bytes = call.arguments.contents) :
      Steps w staged call { call with
        pc := if call.arguments.validator then .existingValidator else .returned .success } .idle
  | acceptExisting (hbefore : call.pc = .existingValidator) :
      Steps w staged call { call with
        pc := .returned .success
        accepted := (w.store.content call.arguments.path).map File.bytes } .idle
  | create (hbefore : call.pc = .temporaryOpen) :
      Steps w staged call { call with pc := .temporaryWrite } (.create { bytes := [] })
  | writePart (hbefore : call.pc = .temporaryWrite) (count : ℕ) :
      Steps w staged call call (.write { bytes := call.arguments.contents.take count })
  | writeAll (hbefore : call.pc = .temporaryWrite) :
      Steps w staged call { call with
        pc := if call.arguments.validator then .temporaryValidator else .createHardLink }
        (.write { bytes := call.arguments.contents })
  | accept (hbefore : call.pc = .temporaryValidator) :
      Steps w staged call { call with
        pc := .createHardLink
        accepted := (staged.content w.store).map File.bytes } .idle
  | link (hbefore : call.pc = .createHardLink) :
      Steps w staged call { call with pc := .cleanupPayload .success }
        (.publish call.arguments.path true)
  | unlink (result : WriteResult) (hbefore : call.pc = .cleanupPayload result)
      (e : Effect ν File) (heffect : e = .discard ∨ e = .abandon) :
      Steps w staged call { call with pc := .cleanupDirectory result } e
  | finish (result : WriteResult) (hbefore : call.pc = .cleanupDirectory result) :
      Steps w staged call { call with pc := .returned result } .idle

section Inversion

variable {w : World ν File ℓ} {staged : Staged} {call call' : Call ν} {answer : Answer}
  {e : Effect ν File}

theorem steps_of_goto (h : call.goto pc = some (call', e)) (hbefore : call.pc.working = true)
    (hafter : pc.free = true) : Steps w staged call call' e := by
  cases h
  exact .move pc hbefore hafter

theorem steps_of_check {passes : Bool} {error : String}
    (h : call.check answer passes pc error = some (call', e)) (hbefore : call.pc.working = true)
    (hafter : pc.free = true) : Steps w staged call call' e := by
  cases answer with
  | succeeds =>
    cases passes with
    | true => exact steps_of_goto h hbefore hafter
    | false => exact steps_of_goto h hbefore rfl
  | fails => exact steps_of_goto h hbefore rfl
  | _ => cases h

theorem Steps.arguments_eq (h : Steps w staged call call' e) :
    call'.arguments = call.arguments := by
  cases h <;> rfl

/-- Only the hard link publishes. -/
theorem Steps.of_publish {n : ν} {keep : Bool} (h : Steps w staged call call' (.publish n keep)) :
    call.pc = .createHardLink ∧ n = call.arguments.path ∧ keep = true ∧
      call'.pc = .cleanupPayload .success := by
  generalize heffect : Effect.publish n keep = e at h
  cases h with
  | link hbefore =>
    cases heffect
    exact ⟨hbefore, rfl, rfl, rfl⟩
  | unlink result hbefore e he => rcases he with rfl | rfl <;> cases heffect
  | _ => cases heffect

/-- A file is written before it is linked. -/
theorem Steps.of_write {file : File} (h : Steps w staged call call' (.write file)) :
    call.pc = .temporaryWrite := by
  generalize heffect : Effect.write file = e at h
  cases h with
  | writePart hbefore | writeAll hbefore => exact hbefore
  | unlink result hbefore e he => rcases he with rfl | rfl <;> cases heffect
  | _ => cases heffect

/-- Behind the hard link a call goes on to remove the private name. -/
theorem Steps.linked (h : Steps w staged call call' e) (hlinked : call.pc.linked = true) :
    call'.pc.linked = true ∨ e = .discard ∨ e = .abandon := by
  cases h with
  | crash => exact .inl rfl
  | unlink result hbefore e he => exact .inr he
  | move pc hbefore hafter =>
    rw [WritePc.not_linked_of_working hbefore] at hlinked
    cases hlinked
  | same hbefore | acceptExisting hbefore | create hbefore | writePart hbefore
  | writeAll hbefore | accept hbefore | link hbefore | finish result hbefore =>
    rw [hbefore] at hlinked
    cases hlinked

/-- Every step of a call is one of these. -/
theorem steps_of_next (h : call.next w staged answer = some (call', e)) :
    Steps w staged call call' e := by
  unfold next at h
  split at h
  case isTrue =>
    split at h
    · cases h
    · cases h
      exact .crash
  case isFalse =>
    obtain ⟨arguments, pc⟩ := call
    unfold act at h
    cases pc with
    | entry =>
      cases answer with
      | succeeds =>
        dsimp only at h
        split at h
        · exact steps_of_goto h rfl rfl
        · exact steps_of_goto h rfl rfl
      | _ => cases h
    | targetStatus =>
      cases answer with
      | succeeds =>
        dsimp only at h
        split at h
        · exact steps_of_goto h rfl rfl
        · exact steps_of_goto h rfl rfl
      | fails => exact steps_of_goto h rfl rfl
      | _ => cases h
    | existingStatus | existingLinkCount | existingSize | existingOpen | parentStatus =>
      exact steps_of_check h rfl rfl
    | existingRead =>
      cases answer with
      | succeeds =>
        dsimp only at h
        split at h
        case isTrue hsame =>
          rw [Option.any_eq_true] at hsame
          obtain ⟨file, hfile, hbytes⟩ := hsame
          cases h
          exact .same rfl ⟨file, hfile, of_decide_eq_true hbytes⟩
        case isFalse => exact steps_of_goto h rfl rfl
      | fails => exact steps_of_goto h rfl rfl
      | _ => cases h
    | existingValidator =>
      cases answer with
      | succeeds =>
        cases h
        exact .acceptExisting rfl
      | rejects error => exact steps_of_goto h rfl rfl
      | _ => cases h
    | temporaryDirectory attempt =>
      cases answer with
      | collides =>
        dsimp only at h
        split at h
        · exact steps_of_goto h rfl rfl
        · exact steps_of_goto h rfl rfl
      | succeeds | fails | throws => exact steps_of_goto h rfl rfl
      | _ => cases h
    | temporaryOpen =>
      cases answer with
      | succeeds =>
        cases h
        exact .create rfl
      | fails => exact steps_of_goto h rfl rfl
      | _ => cases h
    | temporaryWrite =>
      cases answer with
      | writes count =>
        cases h
        exact .writePart rfl count
      | succeeds =>
        cases h
        exact .writeAll rfl
      | fails => exact steps_of_goto h rfl rfl
      | _ => cases h
    | temporaryValidator =>
      cases answer with
      | succeeds =>
        cases h
        exact .accept rfl
      | rejects error => exact steps_of_goto h rfl rfl
      | _ => cases h
    | createHardLink =>
      cases answer with
      | succeeds =>
        cases h
        exact .link rfl
      | fails => exact steps_of_goto h rfl rfl
      | _ => cases h
    | cleanupPayload result =>
      cases answer with
      | succeeds =>
        cases h
        exact .unlink result rfl _ (.inl rfl)
      | fails =>
        cases h
        exact .unlink result rfl _ (.inr rfl)
      | _ => cases h
    | cleanupDirectory result =>
      cases answer with
      | succeeds | fails =>
        cases h
        exact .finish result rfl
      | _ => cases h
    | returned _ | crashed => cases h

end Inversion

/-! ## The invariant of one call -/

/-- The target holds the contents of the call. -/
def Present (s : Store ν File) (call : Call ν) : Prop :=
  ∃ file, s.content call.arguments.path = some file ∧ file.bytes = call.arguments.contents

/-- The validator of the call, if it has one, has accepted a file with its contents. -/
def Validated (call : Call ν) : Prop :=
  call.arguments.validator = true → call.accepted = some call.arguments.contents

/-- What a call knows: what it has compared, written, had validated and linked. -/
structure Holds (s : Store ν File) (staged : Staged) (call : Call ν) : Prop where
  compared : call.pc = .existingValidator → call.Present s
  written : call.pc = .temporaryValidator ∨ call.pc = .createHardLink →
    staged.content s = some { bytes := call.arguments.contents }
  validated : call.pc = .createHardLink → call.Validated
  succeeds : call.pc.succeeding = true → call.Present s ∧ call.Validated

variable {staged : Staged} {call : Call ν} {s : Store ν File}

theorem holds_of_free (h : call.pc.free = true) : call.Holds s staged := by
  refine ⟨fun hpc => ?_, fun hpc => ?_, fun hpc => ?_, fun hpc => ?_⟩
  · rw [hpc] at h
    cases h
  · rcases hpc with hpc | hpc <;> rw [hpc] at h <;> cases h
  · rw [hpc] at h
    cases h
  · unfold WritePc.free at h
    split at h
    case h_4 => simp [hpc] at h
    all_goals cases h

theorem Present.of_extends {s t : Store ν File} (hext : Extends s t) (h : call.Present s) :
    call.Present t := by
  obtain ⟨file, hfile, hbytes⟩ := h
  exact ⟨file, hext.content hfile, hbytes⟩

theorem Holds.of_extends {s t : Store ν File} (hext : Extends s t)
    (hown : staged.content t = staged.content s) (h : call.Holds s staged) :
    call.Holds t staged where
  compared hpc := (h.compared hpc).of_extends hext
  written hpc := hown.trans (h.written hpc)
  validated := h.validated
  succeeds hpc := (h.succeeds hpc).imp_left (Present.of_extends hext)

/-- A call that is past its last test and knows what it needs. -/
theorem holds_of_succeeding (hpc : call.pc.succeeding = true) (hpresent : call.Present s)
    (hvalid : call.Validated) : call.Holds s staged := by
  refine ⟨fun h => ?_, fun h => ?_, fun h => ?_, fun _ => ⟨hpresent, hvalid⟩⟩
  · rw [h] at hpc
    cases hpc
  · rcases h with h | h <;> rw [h] at hpc <;> cases hpc
  · rw [h] at hpc
    cases hpc

/-- A call with a return value on its way out. -/
theorem holds_of_result {result : WriteResult}
    (hpc : ∃ pc : WriteResult → WritePc, call.pc = pc result ∧ (pc .success).succeeding = true ∧
      ∀ error, (pc (.failure error)).free = true)
    (h : result = .success → call.Present s ∧ call.Validated) : call.Holds s staged := by
  obtain ⟨pc, hpc, hsuccess, hfailure⟩ := hpc
  cases result with
  | success => exact holds_of_succeeding (hpc ▸ hsuccess) (h rfl).1 (h rfl).2
  | failure error => exact holds_of_free (hpc ▸ hfailure error)

/-- A step of a call keeps what the call knows. -/
theorem Steps.holds [DecidableEq ν] {w : World ν File ℓ} {staged staged' : Staged}
    {call call' : Call ν} {e : Effect ν File} {s' : Store ν File}
    (hstep : Steps w staged call call' e) (hperform : w.store.perform staged e = some (s', staged'))
    (hheld : ∀ k, staged.object = some k → k < w.store.objects.length) (hext : Extends w.store s')
    (h : call.Holds w.store staged) : call'.Holds s' staged' := by
  cases hstep with
  | crash | create => exact holds_of_free rfl
  | move pc hbefore hafter => exact holds_of_free hafter
  | same hbefore hsame =>
    have hpresent : call.Present s' := Present.of_extends hext hsame
    cases hvalidator : call.arguments.validator with
    | true =>
      rw [if_pos rfl]
      exact ⟨fun _ => hpresent, nofun, nofun, nofun⟩
    | false =>
      rw [if_neg Bool.false_ne_true]
      exact holds_of_succeeding rfl hpresent fun hv => absurd hv (by simp [hvalidator])
  | acceptExisting hbefore =>
    obtain ⟨file, hfile, hbytes⟩ := h.compared hbefore
    refine holds_of_succeeding rfl ⟨file, hext.content hfile, hbytes⟩ fun _ => ?_
    simp only [hfile, Option.map_some, hbytes]
  | writePart hbefore count => exact holds_of_free (by rw [hbefore]; rfl)
  | writeAll hbefore =>
    have hwritten := Store.content_of_write hperform hheld
    refine ⟨fun hpc => ?_, fun _ => hwritten, fun hpc hv => ?_, fun hpc => ?_⟩
    · dsimp only at hpc
      split at hpc <;> cases hpc
    · simp only [show call.arguments.validator = true from hv, if_true] at hpc
      cases hpc
    · dsimp only at hpc
      split at hpc <;> cases hpc
  | accept hbefore =>
    cases hperform
    have hwritten := h.written (.inl hbefore)
    refine ⟨nofun, fun _ => hwritten, fun _ _ => ?_, nofun⟩
    simp only [hwritten, Option.map_some]
  | link hbefore =>
    have hpublished := Store.content_of_publish hperform (h.written (.inr hbefore))
    exact holds_of_succeeding rfl ⟨_, hpublished, rfl⟩ (h.validated hbefore)
  | unlink result hbefore e heffect =>
    refine holds_of_result ⟨.cleanupDirectory, rfl, rfl, fun _ => rfl⟩ fun hresult => ?_
    have hdone := h.succeeds (by rw [hbefore, hresult]; rfl)
    exact hdone.imp_left (Present.of_extends hext)
  | finish result hbefore =>
    refine holds_of_result ⟨.returned, rfl, rfl, fun _ => rfl⟩ fun hresult => ?_
    have hdone := h.succeeds (by rw [hbefore, hresult]; rfl)
    exact hdone.imp_left (Present.of_extends hext)

/-! ## A call that has linked its file -/

theorem Steps.committed {w : World ν File ℓ} {call call' : Call ν} {e : Effect ν File}
    (hstep : Steps w staged call call' e) (h : call.pc.committed = true) :
    call'.pc.committed = true := by
  -- the steps of a committed call are the two of the cleanup, and a crash
  cases hstep with
  | crash => rfl
  | move pc hbefore hafter =>
    rw [WritePc.committed_of_working hbefore] at h
    cases h
  | unlink result hbefore | finish result hbefore =>
    rw [hbefore] at h
    cases result with
    | success => rfl
    | failure error => cases h
  | same hbefore | acceptExisting hbefore | create hbefore | writePart hbefore
  | writeAll hbefore | accept hbefore | link hbefore =>
    rw [hbefore] at h
    cases h

end Call

/-! ## Any number of calls -/

section Calls

variable [DecidableEq ν] {w w' : World ν File (Call ν)}

theorem next_steps {i : ℕ} {a : Answer} {e : Effect ν File} {writer writer' : Writer (Call ν)}
    (h : (writeNewOrSame ν).Stepped w i a e w' writer writer') :
    writer.state.Steps w writer.staged writer'.state e :=
  Call.steps_of_next h.next

instance writeNewOrSame_discreet : (writeNewOrSame ν).Discreet where
  sharing call := call.pc.linked = true
  publishes h := by
    rw [(Call.steps_of_next h).of_publish.2.2.2]
    rfl
  stays h := (Call.steps_of_next h).linked
  writes h hlinked := by
    rw [(Call.steps_of_next h).of_write] at hlinked
    cases hlinked

theorem writeNewOrSame_keeps :
    (writeNewOrSame ν).Keeps fun s writer => writer.state.Holds s writer.staged where
  stable _ _ _ hext hown h := h.of_extends hext hown
  start _ _ := Call.holds_of_free rfl
  step _ i _ _ _ writer _ hstep hsound hext h :=
    (next_steps hstep).holds hstep.perform (fun k => hsound.held i writer k hstep.at_) hext h

/-- A call that has linked its file does not return `false`. -/
theorem committed_of_publish {trace : List (Move (WriteArguments ν) Answer × Effect ν File)}
    (run : Run (writeNewOrSame ν).exec w trace w') {i : ℕ} {a : Answer} {n : ν} {keep : Bool}
    (hmem : (Move.step i a, Effect.publish n keep) ∈ trace) :
    ∃ writer, w'.writers[i]? = some writer ∧ writer.state.pc.committed = true := by
  refine Protocol.lasts_after (C := fun call => call.pc.committed = true) run hmem ?_ ?_
  · intro t t' mover mover' hstep
    rw [(next_steps hstep).of_publish.2.2.2]
    rfl
  · intro t b e t' mover mover' hstep
    exact (next_steps hstep).committed

/-- The file has the full contents of one of the calls on its path. -/
def WrittenBy (w : World ν File (Call ν)) (path : ν) (file : File) : Prop :=
  ∃ (i : ℕ) (writer : Writer (Call ν)), w.writers[i]? = some writer ∧
    writer.state.arguments.path = path ∧ file = { bytes := writer.state.arguments.contents }

theorem writtenBy_exec {m : Move (WriteArguments ν) Answer} {e : Effect ν File} {path : ν}
    {file : File} (hexec : (writeNewOrSame ν).exec w m = some (w', e)) (h : WrittenBy w path file) :
    WrittenBy w' path file := by
  obtain ⟨i, writer, hat, hpath, hfile⟩ := h
  obtain ⟨writer', hat', rfl | ⟨b, -, hstep⟩⟩ := Protocol.exec_writer hexec hat
  · exact ⟨i, writer', hat', hpath, hfile⟩
  · have harguments := (next_steps hstep).arguments_eq
    exact ⟨i, writer', hat', harguments ▸ hpath, harguments ▸ hfile⟩

/-- Whatever appears in a run is whole. -/
theorem writtenBy_of_run {s : Store ν File} {w : World ν File (Call ν)}
    {trace : List (Move (WriteArguments ν) Answer × Effect ν File)}
    (run : Run (writeNewOrSame ν).exec ⟨s, []⟩ trace w) {path : ν} {file : File}
    (h : w.store.content path = some file) :
    s.content path = some file ∨ WrittenBy w path file := by
  refine writeNewOrSame_keeps.published (P := WrittenBy)
    (fun w m w' e n c hexec _ => writtenBy_exec hexec) ?_ run (Protocol.sound_of_no_writers s)
    (World.all_of_no_writers _ s) h
  intro w i a n keep w' writer writer' file hstep _ hholds hcontent
  have harguments := (next_steps hstep).arguments_eq
  obtain ⟨hpc, rfl, -⟩ := (next_steps hstep).of_publish
  have hwritten := hholds.written (.inr hpc)
  rw [hcontent] at hwritten
  cases hwritten
  exact ⟨i, writer', hstep.at_self, by rw [harguments], by rw [harguments]⟩

/-- In every interleaving of calls that may crash anywhere, from any store:
a file that is there keeps its content; every file that appears has the full contents of
a call on its path; a call that returns `true` leaves its contents under its path, and
its validator has accepted a file with them; no step of a call that returns `false`
changes what is published. -/
theorem publication_is_atomic (s : Store ν File)
    {before after : List (Move (WriteArguments ν) Answer × Effect ν File)}
    {u w : World ν File (Call ν)} (hbefore : Run (writeNewOrSame ν).exec ⟨s, []⟩ before u)
    (hafter : Run (writeNewOrSame ν).exec u after w) :
    (∀ path file, u.store.content path = some file → w.store.content path = some file) ∧
    (∀ path file, w.store.content path = some file →
      s.content path = some file ∨
        ∃ (i : ℕ) (writer : Writer (Call ν)), w.writers[i]? = some writer ∧
          writer.state.arguments.path = path ∧
          file = { bytes := writer.state.arguments.contents }) ∧
    ∀ (i : ℕ) (writer : Writer (Call ν)), w.writers[i]? = some writer →
      (writer.state.pc = .returned .success →
        (∃ file, w.store.content writer.state.arguments.path = some file ∧
          file.bytes = writer.state.arguments.contents) ∧
        (writer.state.arguments.validator = true →
          writer.state.accepted = some writer.state.arguments.contents)) ∧
      (∀ error, writer.state.pc = .returned (.failure error) →
        ∀ first a e rest v v', before ++ after = first ++ (Move.step i a, e) :: rest →
          Run (writeNewOrSame ν).exec ⟨s, []⟩ first v →
          (writeNewOrSame ν).exec v (.step i a) = some (v', e) →
          ∀ path, v'.store.content path = v.store.content path) := by
  have hsound : (writeNewOrSame ν).Sound ⟨s, []⟩ := Protocol.sound_of_no_writers s
  have hrun := hbefore.append hafter
  refine ⟨fun path file hfile => ?_, fun path file => writtenBy_of_run hrun,
    fun i writer hat => ⟨fun hpc => ?_, fun error hpc => ?_⟩⟩
  · exact (Protocol.extends_run hafter (Protocol.extends_run hbefore hsound).1).2.content hfile
  · have hholds := writeNewOrSame_keeps.run hrun hsound (World.all_of_no_writers _ s) i writer hat
    exact hholds.succeeds (by rw [hpc]; rfl)
  · intro first a e rest v v' htrace hfirst hexec path
    obtain ⟨mover, mover', hstep⟩ := (writeNewOrSame ν).exec_step hexec
    refine hstep.content_of_private (Protocol.extends_run hfirst hsound).1 ?_ path
    -- a step that publishes would have committed the call
    rintro n keep rfl
    have hmem : (Move.step i a, Effect.publish n keep) ∈ before ++ after := by
      rw [htrace]
      exact List.mem_append_right _ List.mem_cons_self
    obtain ⟨writer', hat', hcommitted⟩ := committed_of_publish hrun hmem
    cases hat.symm.trans hat'
    rw [hpc] at hcommitted
    cases hcommitted

/-- Two calls find the target absent; the second one to link fails. -/
def race : List (Move (WriteArguments Unit) Answer) :=
  let steps (i count : ℕ) : List (Move (WriteArguments Unit) Answer) :=
    List.replicate count (.step i .succeeds)
  List.flatten [
    [.enter { path := (), contents := [1], maximumBytes := 8, validator := true },
      .enter { path := (), contents := [2, 3], maximumBytes := 8, validator := false }],
    steps 0 5, steps 1 5, [.step 1 (.writes 1)], steps 0 2, steps 1 1, steps 0 1,
    [.step 1 .fails], steps 0 2, steps 1 2]

/-- How the race ends. -/
def raceEnds (w : World Unit File (Call Unit)) : Bool :=
  decide (w.writers.map (·.state.pc) =
      [.returned .success, .returned (.failure "atomic_file_publish_failed")] ∧
    w.writers[0]?.any (fun writer => writer.state.pc = .returned .success ∧
      writer.state.arguments.contents = [1]) = true)

theorem publication_is_atomic_on_race :
    ∃ trace w, Run (writeNewOrSame Unit).exec ⟨.empty Unit File, []⟩ trace w ∧
      w.writers.map (·.state.pc) =
        [.returned .success, .returned (.failure "atomic_file_publish_failed")] ∧
      ∃ file, w.store.content () = some file ∧ file.bytes = [1] := by
  obtain ⟨trace, w, hrun, hcheck⟩ : ∃ trace w,
      Run (writeNewOrSame Unit).exec ⟨.empty Unit File, []⟩ trace w ∧ raceEnds w = true :=
    Run.exists_of_runActions race (fun result => raceEnds result.2) (by decide)
  obtain ⟨hpcs, hfirst⟩ := of_decide_eq_true hcheck
  obtain ⟨writer, hat, hwriter⟩ := (Option.any_eq_true _ _).1 hfirst
  obtain ⟨hpc, hcontents⟩ := of_decide_eq_true hwriter
  obtain ⟨⟨file, hfile, hbytes⟩, -⟩ :=
    ((publication_is_atomic (.empty Unit File) Run.nil hrun).2.2 0 writer hat).1 hpc
  exact ⟨trace, w, hrun, hpcs, file, hfile, hbytes.trans hcontents⟩

end Calls

end PrismInfer.Benchmark
