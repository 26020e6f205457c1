import PrismInfer.Benchmark.AtomicPublication

/-!
# Repeating a call that has crashed

A single call on an absent target crashes somewhere, and the same call is made again
with every operation succeeding. What the crash leaves is one of three things
(`leaves_of_run`): the target is absent; the target is there with one link; or the
target is there and the private `payload` still is a second link to it, which
`read_exact_bounded` rejects. The retry succeeds in the first two cases and fails in
the third (`retry_recovers_iff`).
-/

namespace PrismInfer.Benchmark

open PrismInfer.Lib

variable {ν : Type*}

/-- The trace of one or more calls. -/
abbrev WriteTrace (ν : Type*) := List (Move (WriteArguments ν) Answer × Effect ν File)

/-- The hard link to the target was made. -/
def Linked (trace : WriteTrace ν) : Prop :=
  ∃ entry ∈ trace, ∃ n keep, entry.2 = .publish n keep

/-- A private `payload` was removed. -/
def Removed (trace : WriteTrace ν) : Prop :=
  ∃ entry ∈ trace, entry.2 = .discard

@[simp] theorem linked_snoc (trace : WriteTrace ν) (m : Move (WriteArguments ν) Answer)
    (e : Effect ν File) :
    Linked (trace ++ [(m, e)]) ↔ Linked trace ∨ ∃ n keep, e = .publish n keep := by
  simp [Linked, or_and_right, exists_or]

@[simp] theorem removed_snoc (trace : WriteTrace ν) (m : Move (WriteArguments ν) Answer)
    (e : Effect ν File) : Removed (trace ++ [(m, e)]) ↔ Removed trace ∨ e = .discard := by
  simp [Removed, or_and_right, exists_or]

/-! ## What a crash leaves -/

/-- The call has not come to the end of its cleanup. -/
def WritePc.holding : WritePc → Bool
  | .cleanupDirectory _ => false
  | .returned _ => false
  | .crashed => false
  | _ => true

/-- The target after the hard link, with the private links to it. -/
structure Left (arguments : WriteArguments ν) (trace : WriteTrace ν) (s : Store ν File)
    (staged : Staged) (k : ℕ) : Prop where
  published : s.published arguments.path = some k
  bytes : s.objects[k]? = some { bytes := arguments.contents }
  kept : ¬ Removed trace → staged.links k = 1
  removed : Removed trace → staged.links k = 0

/-- A call that is alone, with the trace that it has made. -/
structure Alone (arguments : WriteArguments ν) (trace : WriteTrace ν) (s : Store ν File)
    (writer : Writer (Call ν)) : Prop where
  arguments_eq : writer.state.arguments = arguments
  holds : writer.state.Holds s writer.staged
  fresh : writer.state.pc.holding = true → writer.staged.left = [] ∧ ¬ Removed trace
  absent : ¬ Linked trace → s.published arguments.path = none
  present : Linked trace → writer.state.pc.committed = true ∧
    ∃ k, Left arguments trace s writer.staged k

variable {w : World ν File (Call ν)} {call call' : Call ν} {e : Effect ν File} {staged : Staged}

theorem Call.Steps.holding (h : call.Steps w staged call' e) (hafter : call'.pc.holding = true) :
    call.pc.holding = true ∧ e ≠ .discard ∧ e ≠ .abandon := by
  cases h with
  | crash | acceptExisting | unlink | finish => cases hafter
  | move pc hbefore hfree =>
    refine ⟨?_, nofun, nofun⟩
    cases hpc : call.pc <;> first | rfl | (rw [hpc] at hbefore; cases hbefore)
  | same hbefore | create hbefore | writePart hbefore | writeAll hbefore | accept hbefore
  | link hbefore => exact ⟨by rw [hbefore]; rfl, nofun, nofun⟩

/-- After the hard link a call only cleans up. -/
theorem Call.Steps.of_committed (h : call.Steps w staged call' e)
    (hcommitted : call.pc.committed = true) : call'.pc.holding = false ∧
      (e = .idle ∨ call.pc.holding = true ∧ (e = .discard ∨ e = .abandon)) := by
  cases h with
  | crash | finish => exact ⟨rfl, .inl rfl⟩
  | unlink result hbefore e he => exact ⟨rfl, .inr ⟨by rw [hbefore]; rfl, he⟩⟩
  | move pc hbefore hfree =>
    rw [WritePc.committed_of_working hbefore] at hcommitted
    cases hcommitted
  | same hbefore | acceptExisting hbefore | create hbefore | writePart hbefore
  | writeAll hbefore | accept hbefore | link hbefore =>
    rw [hbefore] at hcommitted
    cases hcommitted

section Step

variable [DecidableEq ν] {arguments : WriteArguments ν} {trace : WriteTrace ν}
  {w w' : World ν File (Call ν)} {i : ℕ} {a : Answer} {e : Effect ν File}
  {writer writer' : Writer (Call ν)}

/-- The staging of a step that neither removes nor leaves a private name. -/
theorem left_of_perform {s s' : Store ν File} {st st' : Staged}
    (h : s.perform st e = some (s', st')) (he : e ≠ .abandon) : st'.left = st.left := by
  cases e with
  | idle | discard => cases h; rfl
  | create | write =>
    rw [Store.perform] at h
    split at h <;> cases h
    rfl
  | publish n keep =>
    rw [Store.perform] at h
    split at h
    · cases h
    · split at h <;> cases h
      rfl
  | abandon => exact absurd rfl he

/-- The private name of a published file stays. -/
theorem object_of_publish {s s' : Store ν File} {st st' : Staged} {n : ν}
    (h : s.perform st (.publish n true) = some (s', st')) :
    ∃ k, st.object = some k ∧ st'.object = some k ∧ s'.published n = some k ∧
      s'.objects = s.objects := by
  rw [Store.perform] at h
  split at h
  · cases h
  · rename_i k hk
    split at h <;> cases h
    exact ⟨k, hk, rfl, by simp [Store.publish], rfl⟩

section

variable (hstep : (writeNewOrSame ν).Stepped w i a e w' writer writer')
include hstep

theorem Alone.fresh_of_steps (h : Alone arguments trace w.store writer)
    (m : Move (WriteArguments ν) Answer) (hpc : writer'.state.pc.holding = true) :
    writer'.staged.left = [] ∧ ¬ Removed (trace ++ [(m, e)]) := by
  obtain ⟨hbefore, hdiscard, habandon⟩ := (next_steps hstep).holding hpc
  obtain ⟨hleft, hremoved⟩ := h.fresh hbefore
  refine ⟨(left_of_perform hstep.perform habandon).trans hleft, ?_⟩
  rw [removed_snoc]
  exact not_or.2 ⟨hremoved, hdiscard⟩

variable (hsound : (writeNewOrSame ν).Sound w) (h : Alone arguments trace w.store writer)
  (m : Move (WriteArguments ν) Answer)
include hsound h

/-- A step before the hard link, or the hard link itself. -/
theorem Alone.step_absent (hlinked : ¬ Linked trace) :
    Alone arguments (trace ++ [(m, e)]) w'.store writer' := by
  have hsteps := next_steps hstep
  have hholds := writeNewOrSame_keeps.step _ _ _ _ _ _ _ hstep hsound (hstep.extends hsound) h.holds
  refine ⟨hsteps.arguments_eq.trans h.arguments_eq, hholds, h.fresh_of_steps hstep m,
    fun hnot => ?_, fun hnow => ?_⟩
  · rw [linked_snoc, not_or] at hnot
    rw [← h.absent hlinked]
    exact hstep.performed.published_of_private (fun n keep he => hnot.2 ⟨n, keep, he⟩) _
  · -- this is the step that links, and nothing was left before it
    rw [linked_snoc] at hnow
    obtain ⟨n, keep, rfl⟩ := hnow.resolve_left hlinked
    obtain ⟨hpc, rfl, rfl, hpc'⟩ := hsteps.of_publish
    obtain ⟨k, hobject, hobject', hpublished, hobjects⟩ := object_of_publish hstep.perform
    obtain ⟨hleft, hremoved⟩ := h.fresh_of_steps hstep m (by rw [hpc']; rfl)
    have hwritten := h.holds.written (.inr hpc)
    refine ⟨by rw [hpc']; rfl, k, ?_, ?_, fun _ => ?_, fun hr => absurd hr hremoved⟩
    · rw [← h.arguments_eq]
      exact hpublished
    · rw [Staged.content, hobject, h.arguments_eq] at hwritten
      rw [hobjects]
      exact hwritten
    · simp [Staged.links, hobject', hleft]

/-- A step of the cleanup after the hard link. -/
theorem Alone.step_present (hlinked : Linked trace) :
    Alone arguments (trace ++ [(m, e)]) w'.store writer' := by
  have hsteps := next_steps hstep
  have hholds := writeNewOrSame_keeps.step _ _ _ _ _ _ _ hstep hsound (hstep.extends hsound) h.holds
  obtain ⟨hcommitted, k, hleft⟩ := h.present hlinked
  refine ⟨hsteps.arguments_eq.trans h.arguments_eq, hholds, h.fresh_of_steps hstep m,
    fun hnot => absurd (linked_snoc trace m e |>.2 (.inl hlinked)) hnot,
    fun _ => ⟨hsteps.committed hcommitted, k, ?_⟩⟩
  have hperform := hstep.perform
  obtain ⟨-, rfl | ⟨hholding, he⟩⟩ := hsteps.of_committed hcommitted
  · obtain ⟨hstore, hstaged⟩ := Prod.mk.inj (Option.some.inj hperform)
    rw [← hstore, ← hstaged]
    exact ⟨hleft.published, hleft.bytes, by simpa using hleft.kept, by simpa using hleft.removed⟩
  · obtain ⟨hnothing, hremoved⟩ := h.fresh hholding
    have hobject : writer.staged.object = some k := by
      have hlinks := hleft.kept hremoved
      by_contra hne
      simp [Staged.links, hne, hnothing] at hlinks
    rcases he with rfl | rfl <;>
      obtain ⟨hstore, hstaged⟩ := Prod.mk.inj (Option.some.inj hperform) <;>
      rw [← hstore, ← hstaged]
    · refine ⟨hleft.published, hleft.bytes, by simp, fun _ => ?_⟩
      simp [Staged.links, hnothing]
    · refine ⟨hleft.published, hleft.bytes, fun _ => ?_, by simp [hremoved]⟩
      simp [Staged.links, hnothing, hobject]

end

end Step

section Recovery

variable [DecidableEq ν]

/-- The store and one new call. -/
def World.single (s : Store ν File) (arguments : WriteArguments ν) : World ν File (Call ν) :=
  ⟨s, [{ state := { arguments := arguments } }]⟩

/-- What a call leaves that was alone on an absent target. -/
theorem alone_of_run {s : Store ν File} {arguments : WriteArguments ν} {trace : WriteTrace ν}
    (run : Run (writeNewOrSame ν).exec (World.single s arguments) trace w)
    (halone : ∀ entry ∈ trace, ∃ a, entry.1 = .step 0 a)
    (habsent : s.published arguments.path = none) :
    (writeNewOrSame ν).Sound w ∧
      ∃ writer, w.writers = [writer] ∧ Alone arguments trace w.store writer := by
  induction run with
  | nil =>
    refine ⟨(Protocol.exec_sound (p := writeNewOrSame ν) (m := .enter arguments) rfl
      (Protocol.sound_of_no_writers s)).1, _, rfl, ?_⟩
    exact ⟨rfl, Call.holds_of_free rfl, fun _ => ⟨rfl, by simp [Removed]⟩, fun _ => habsent,
      fun hlinked => absurd hlinked (by simp [Linked])⟩
  | @snoc trace t t' m e run step ih =>
    obtain ⟨hsound, writer, hwriters, h⟩ :=
      ih fun entry hentry => halone entry (List.mem_append_left _ hentry)
    obtain ⟨a, rfl⟩ := halone (m, e) (List.mem_append_right _ List.mem_cons_self)
    obtain ⟨mover, mover', hstep⟩ := (writeNewOrSame ν).exec_step step
    obtain rfl : writer = mover := by
      have hat := hstep.at_
      rw [hwriters] at hat
      exact Option.some.inj hat
    refine ⟨hstep.sound hsound, mover', by rw [hstep.writers, hwriters]; rfl, ?_⟩
    by_cases hlinked : Linked trace
    · exact h.step_present hstep hsound _ hlinked
    · exact h.step_absent hstep hsound _ hlinked

/-! ## The retry -/

/-- The moves of the second call, with every operation succeeding, take its state, the
store and its staging from one to the other. -/
def Retries (first : Writer (Call ν)) (s : Store ν File) (writer : Writer (Call ν)) (count : ℕ)
    (s' : Store ν File) (writer' : Writer (Call ν)) : Prop :=
  ∃ trace, Run (writeNewOrSame ν).exec ⟨s, [first, writer]⟩ trace ⟨s', [first, writer']⟩ ∧
    trace.map Prod.fst = List.replicate count (.step 1 .succeeds)

variable {s s' s'' : Store ν File} {first writer writer' writer'' : Writer (Call ν)}

theorem Retries.refl : Retries first s writer 0 s writer :=
  ⟨[], Run.nil, rfl⟩

theorem Retries.trans {m n : ℕ} (h : Retries first s writer m s' writer')
    (h' : Retries first s' writer' n s'' writer'') :
    Retries first s writer (m + n) s'' writer'' := by
  obtain ⟨trace, hrun, hmoves⟩ := h
  obtain ⟨trace', hrun', hmoves'⟩ := h'
  refine ⟨trace ++ trace', hrun.append hrun', ?_⟩
  rw [List.map_append, hmoves, hmoves', List.replicate_append_replicate]

/-- One step of the retry. -/
theorem Retries.one
    (hnext : writer.state.next ⟨s, [first, writer]⟩ writer.staged .succeeds =
      some (writer'.state, e))
    (hperform : s.perform writer.staged e = some (s', writer'.staged)) :
    Retries first s writer 1 s' writer' := by
  refine ⟨[(.step 1 .succeeds, e)], Run.single ?_, rfl⟩
  simp only [Protocol.exec, List.getElem?_cons_succ, List.getElem?_cons_zero]
  have : (writeNewOrSame ν).next ⟨s, [first, writer]⟩ writer .succeeds =
    some (writer'.state, e) := hnext
  rw [this]
  simp only [hperform]
  rfl

variable {arguments : WriteArguments ν}

/-- A retry that has come to its end. -/
def Returns (first : Writer (Call ν)) (s : Store ν File) (writer : Writer (Call ν))
    (result : WriteResult) : Prop :=
  ∃ count s' writer', Retries first s writer count s' writer' ∧
    writer'.state.arguments = writer.state.arguments ∧ writer'.state.pc = .returned result

variable {result : WriteResult}

theorem Returns.step {staged staged' : Staged}
    (hact : call.act ⟨s, [first, ⟨call, staged⟩]⟩ staged .succeeds = some (call', e))
    (hperform : s.perform staged e = some (s', staged'))
    (h : Returns first s' ⟨call', staged'⟩ result) : Returns first s ⟨call, staged⟩ result := by
  obtain ⟨count, t, last, hretries, harguments, hpc⟩ := h
  have hone : Retries first s ⟨call, staged⟩ 1 s' ⟨call', staged'⟩ := Retries.one hact hperform
  have hnext : call.next ⟨s, [first, ⟨call, staged⟩]⟩ staged .succeeds = some (call', e) := hact
  have hsame : call'.arguments = call.arguments := (Call.steps_of_next hnext).arguments_eq
  exact ⟨1 + count, t, last, hone.trans hretries, harguments.trans hsame, hpc⟩

/-- A step that leaves the files alone. -/
theorem Returns.idle
    (hact : call.act ⟨s, [first, ⟨call, staged⟩]⟩ staged .succeeds = some (call', .idle))
    (h : Returns first s ⟨call', staged⟩ result) : Returns first s ⟨call, staged⟩ result :=
  h.step hact rfl

theorem Returns.done {call : Call ν} (h : call.pc = .returned result) :
    Returns first s ⟨call, staged⟩ result :=
  ⟨0, s, _, Retries.refl, rfl, h⟩

/-- From the hard link on. -/
theorem returns_link {accepted : Option (List Byte)} {k : ℕ} (hk : k < s.objects.length)
    (habsent : s.published arguments.path = none) :
    Returns first s ⟨{ arguments := arguments, pc := .createHardLink, accepted := accepted },
      { object := some k }⟩ .success := by
  have hlink : s.perform { object := some k } (.publish arguments.path true) =
      some (s.publish arguments.path k hk, { object := some k, shared := true }) := by
    simp [Store.perform, hk, habsent]
  refine Returns.step rfl hlink (Returns.step rfl rfl (Returns.idle rfl (Returns.done rfl)))

/-- On an absent target the retry publishes. -/
theorem returns_absent (habsent : s.published arguments.path = none) :
    Returns first s { state := { arguments := arguments, pc := .targetStatus } } .success := by
  have htarget : (⟨arguments, .targetStatus, none⟩ : Call ν).act
      ⟨s, [first, { state := { arguments := arguments, pc := .targetStatus } }]⟩ {} .succeeds =
      some (⟨arguments, .parentStatus, none⟩, .idle) :=
    if_neg (by simp [Store.content, habsent])
  refine Returns.idle htarget (Returns.idle rfl (Returns.idle rfl ?_))
  refine Returns.step rfl rfl (Returns.step rfl rfl ?_)
  have hk : s.objects.length < ((s.create { bytes := [] }).write s.objects.length
      { bytes := arguments.contents }).objects.length := by
    simp [Store.create, Store.write]
  cases hvalidator : arguments.validator with
  | true =>
    rw [if_pos rfl]
    exact Returns.idle rfl (returns_link hk habsent)
  | false =>
    rw [if_neg Bool.false_ne_true]
    exact returns_link hk habsent

/-- On a target with the contents the retry succeeds if and only if nobody else holds a
link to it. -/
theorem returns_present (first : Writer (Call ν)) {k : ℕ}
    (hpublished : s.published arguments.path = some k)
    (hbytes : s.objects[k]? = some { bytes := arguments.contents })
    (hsize : arguments.contents.length ≤ arguments.maximumBytes) :
    Returns first s { state := { arguments := arguments, pc := .targetStatus } }
      (if first.staged.links k = 0 then .success
        else .failure "atomic_file_existing_link_count_rejected") := by
  have hcontent : s.content arguments.path = some { bytes := arguments.contents } := by
    rw [Store.content, hpublished]
    exact hbytes
  have hlinks (call : Call ν) : hardLinkCount ⟨s, [first, { state := call }]⟩ arguments.path =
      1 + first.staged.links k := by
    simp [hardLinkCount, hpublished, hbytes, World.links, Staged.links]
  refine Returns.idle (if_pos (by simp [hcontent])) (Returns.idle (if_pos (by simp [hcontent])) ?_)
  split
  case isTrue hnone =>
    refine Returns.idle (if_pos (by simp [hlinks, hnone]))
      (Returns.idle (if_pos (by simp [hcontent, hsize])) (Returns.idle rfl ?_))
    have hread : (⟨arguments, .existingRead, none⟩ : Call ν).act
        ⟨s, [first, { state := { arguments := arguments, pc := .existingRead } }]⟩ {} .succeeds =
        some (⟨arguments, if arguments.validator then .existingValidator else .returned .success,
          none⟩, .idle) :=
      if_pos (by simp [hcontent])
    refine Returns.idle hread ?_
    cases hvalidator : arguments.validator with
    | true => exact Returns.idle rfl (Returns.done rfl)
    | false => exact Returns.done rfl
  case isFalse hsome =>
    exact Returns.idle (if_neg (by simp [hlinks, hsome])) (Returns.done rfl)

/-- The second call enters, passes the test of its arguments and goes on from there. -/
theorem run_of_returns (hwriters : w.writers = [first])
    (hsize : arguments.contents.length ≤ arguments.maximumBytes)
    (hname : arguments.hasFilename = true)
    (h : Returns first w.store { state := { arguments := arguments, pc := .targetStatus } }
      result) :
    ∃ count trace' w' retry, Run (writeNewOrSame ν).exec w trace' w' ∧
      trace'.map Prod.fst = .enter arguments :: List.replicate count (.step 1 .succeeds) ∧
      w'.writers[1]? = some retry ∧ retry.state.arguments = arguments ∧
      retry.state.pc = .returned result := by
  have hentry : Returns first w.store { state := { arguments := arguments } } result :=
    h.idle (if_neg (by simp [hname, hsize]))
  obtain ⟨count, s', retry, ⟨trace, hrun, hmoves⟩, harguments, hpc⟩ := hentry
  have henter : (writeNewOrSame ν).exec w (.enter arguments) =
      some (⟨w.store, [first, { state := { arguments := arguments } }]⟩, .idle) := by
    simp [Protocol.exec, hwriters, writeNewOrSame]
  refine ⟨count, _, _, retry, (Run.single henter).append hrun, ?_, rfl, harguments, hpc⟩
  simp [hmoves]

/-- A single call on an absent target stops anywhere, and the call is repeated with every
operation succeeding: the repetition always returns, and it returns `true` with the
contents in place except when the first call has made the hard link and not removed its
private file. -/
theorem retry_recovers_iff {trace : WriteTrace ν} {w : World ν File (Call ν)}
    (habsent : s.published arguments.path = none)
    (hsize : arguments.contents.length ≤ arguments.maximumBytes)
    (hname : arguments.hasFilename = true)
    (run : Run (writeNewOrSame ν).exec (World.single s arguments) trace w)
    (halone : ∀ entry ∈ trace, ∃ a, entry.1 = .step 0 a) :
    ∃ count trace' w' retry result, Run (writeNewOrSame ν).exec w trace' w' ∧
      trace'.map Prod.fst = .enter arguments :: List.replicate count (.step 1 .succeeds) ∧
      w'.writers[1]? = some retry ∧ retry.state.pc = .returned result ∧
      ((result = .success ∧ ∃ file, w'.store.content arguments.path = some file ∧
          file.bytes = arguments.contents) ↔
        ¬ (Linked trace ∧ ¬ Removed trace)) := by
  obtain ⟨hsound, first, hwriters, h⟩ := alone_of_run run halone habsent
  have hall : World.All (fun s writer => writer.state.Holds s writer.staged) w := by
    intro i writer hat
    rw [hwriters, List.getElem?_singleton] at hat
    split at hat <;> cases hat
    exact h.holds
  by_cases hwindow : Linked trace ∧ ¬ Removed trace
  · obtain ⟨-, k, hleft⟩ := h.present hwindow.1
    have hreturns := returns_present first hleft.published hleft.bytes hsize
    rw [hleft.kept hwindow.2, if_neg Nat.one_ne_zero] at hreturns
    obtain ⟨count, trace', w', retry, hrun, hmoves, hat, -, hpc⟩ :=
      run_of_returns hwriters hsize hname hreturns
    exact ⟨count, trace', w', retry, _, hrun, hmoves, hat, hpc, by simp [hwindow]⟩
  · have hreturns : Returns first w.store
        { state := { arguments := arguments, pc := .targetStatus } } .success := by
      by_cases hlinked : Linked trace
      · have hremoved : Removed trace := by
          by_contra hremoved
          exact hwindow ⟨hlinked, hremoved⟩
        obtain ⟨-, k, hleft⟩ := h.present hlinked
        have hreturns := returns_present first hleft.published hleft.bytes hsize
        rwa [hleft.removed hremoved, if_pos rfl] at hreturns
      · exact returns_absent (h.absent hlinked)
    obtain ⟨count, trace', w', retry, hrun, hmoves, hat, harguments, hpc⟩ :=
      run_of_returns hwriters hsize hname hreturns
    refine ⟨count, trace', w', retry, .success, hrun, hmoves, hat, hpc, fun _ => hwindow,
      fun _ => ⟨rfl, ?_⟩⟩
    -- a return of `true` means what it says, in every run
    have hholds := writeNewOrSame_keeps.run hrun hsound hall 1 retry hat
    rw [← harguments]
    exact (hholds.succeeds (by rw [hpc]; rfl)).1

end Recovery

namespace Fixture

/-- A call with one byte and no validator. -/
def oneByte : WriteArguments Unit :=
  { path := (), contents := [7], maximumBytes := 8, validator := false }

/-- The call runs up to and with its hard link. -/
def upToLink : List (Move (WriteArguments Unit) Answer) := List.replicate 7 (.step 0 .succeeds)

end Fixture

open Fixture in
/-- A crash right behind the hard link: the repeated call finds two links and fails, though
all its operations succeed. -/
theorem crash_behind_link_not_recovered :
    ∃ trace w trace' w',
      Run (writeNewOrSame Unit).exec (World.single (.empty Unit File) oneByte) trace w ∧
      trace.map Prod.fst = upToLink ++ [.step 0 .crashes] ∧
      Run (writeNewOrSame Unit).exec w trace' w' ∧
      trace'.map Prod.fst = .enter oneByte :: List.replicate 4 (.step 1 .succeeds) ∧
      w'.writers.map (·.state.pc) =
        [.crashed, .returned (.failure "atomic_file_existing_link_count_rejected")] := by
  have hcheck : (runActions (writeNewOrSame Unit).exec (World.single (.empty Unit File) oneByte)
      (upToLink ++ [.step 0 .crashes])).any (fun result =>
        (runActions (writeNewOrSame Unit).exec result.2
          (.enter oneByte :: List.replicate 4 (.step 1 .succeeds))).any fun result' =>
            result'.2.writers.map (·.state.pc) =
              [.crashed, .returned (.failure "atomic_file_existing_link_count_rejected")]) := by
    decide
  obtain ⟨⟨trace, w⟩, hactions, hcheck⟩ := (Option.any_eq_true _ _).1 hcheck
  obtain ⟨⟨trace', w'⟩, hactions', hcheck⟩ := (Option.any_eq_true _ _).1 hcheck
  exact ⟨trace, w, trace', w', Run.of_runActions hactions, runActions_actions hactions,
    Run.of_runActions hactions', runActions_actions hactions', of_decide_eq_true hcheck⟩

open Fixture in
/-- A crash behind the removal of the private file. -/
theorem retry_recovers_iff_behind_removal :
    ∃ trace w,
      Run (writeNewOrSame Unit).exec (World.single (.empty Unit File) oneByte) trace w ∧
      trace.map Prod.fst = upToLink ++ [.step 0 .succeeds, .step 0 .crashes] ∧
      ∃ count trace' w' retry, Run (writeNewOrSame Unit).exec w trace' w' ∧
        trace'.map Prod.fst = .enter oneByte :: List.replicate count (.step 1 .succeeds) ∧
        w'.writers[1]? = some retry ∧ retry.state.pc = .returned .success := by
  have hcheck : (runActions (writeNewOrSame Unit).exec (World.single (.empty Unit File) oneByte)
      (upToLink ++ [.step 0 .succeeds, .step 0 .crashes])).any
        (fun result => result.1.any fun entry => entry.2 = .discard) := by
    decide
  obtain ⟨⟨trace, w⟩, hactions, hcheck⟩ := (Option.any_eq_true _ _).1 hcheck
  have hrun := Run.of_runActions hactions
  have hmoves := runActions_actions hactions
  have halone : ∀ entry ∈ trace, ∃ a, entry.1 = Move.step 0 a := by
    intro entry hentry
    have hmem : entry.1 ∈ trace.map Prod.fst := List.mem_map_of_mem hentry
    rw [hmoves, upToLink] at hmem
    simp only [List.mem_append, List.mem_replicate, List.mem_cons, List.not_mem_nil, or_false]
      at hmem
    rcases hmem with ⟨-, h⟩ | h | h <;> exact ⟨_, h⟩
  have hremoved : Removed trace := by
    obtain ⟨entry, hentry, hdiscard⟩ := List.any_eq_true.1 hcheck
    exact ⟨entry, hentry, of_decide_eq_true hdiscard⟩
  obtain ⟨count, trace', w', retry, result, hrun', hmoves', hat, hpc, hiff⟩ :=
    retry_recovers_iff rfl (by decide) rfl hrun halone
  obtain ⟨rfl, -⟩ := hiff.2 fun hwindow => hwindow.2 hremoved
  exact ⟨trace, w, hrun, hmoves, count, trace', w', retry, hrun', hmoves', hat, hpc⟩

end PrismInfer.Benchmark
