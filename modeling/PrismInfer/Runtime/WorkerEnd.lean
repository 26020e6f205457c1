import PrismInfer.Runtime.NativeWorker

/-!
# The ends of a native worker's run

`finish` has some twenty returns. `Finished` sorts them by what they do with the
pathname of the temporary output file: a bare failure, a result that keeps the
pathname although the file is gone, a result whose pathname was cleared, and the
published result. `finished_of_finish` is the one analysis of `finish`; the results
about ends are case analyses over it.
-/

namespace PrismInfer.Runtime

open PrismInfer.Lib

/-! ## The table of ends -/

/-- The protocol has ended the run: it failed and the process tree is gone, or the tree
was complete before the worker was active (native_worker.cpp:1451–1476). -/
def EndedByProtocol (c : RunConfig) (answers : EndAnswers) (w : WorkerRun) : Prop :=
  c.protocol.isSome = true ∧
    (w.protocol.failure ≠ "" ∧ (w.treeComplete = true ∨ answers.terminated = true) ∨
      w.protocol.failure = "" ∧ w.treeComplete = true ∧ w.protocol.state ≠ .active)

/-- A run that the protocol does not end. -/
def Unended (c : RunConfig) (w : WorkerRun) : Prop :=
  ¬(c.protocol.isSome = true ∧
    (w.protocol.failure ≠ "" ∨ w.treeComplete = true ∧ w.protocol.state ≠ .active))

/-- The output went over its limit, in the loop or in the last drain, and the process
tree is gone (native_worker.cpp:1483–1491, 1514–1518). -/
def EndedByOutputLimit (c : RunConfig) (answers : EndAnswers) (w : WorkerRun) : Prop :=
  Unended c w ∧ w.jobQueryFailed = false ∧
  (w.outputLimitExceeded = true ∧ answers.terminated = true ∨
    w.outputLimitExceeded = false ∧
    (w.treeComplete = true ∨ w.wait ≠ .failed ∧ answers.pastDeadline = true ∧
      c.simulateTerminationApiFailure = false ∧ answers.terminated = true) ∧
    answers.output.failed = false ∧
    (drainOutput c.maxOutputBytes answers.output.reads w.capturedBytes).2 = true)

/-- The ends that return the result with its pathname, the file being removed. The
protocol's pipe has been drained once more. -/
def KeepsPath (c : RunConfig) (answers : EndAnswers) (w : WorkerRun) : Prop :=
  WorkerRun.protocolFailed c answers.protocol = false ∧
    (EndedByProtocol c answers w ∨ EndedByOutputLimit c answers w)

/-- The ways in which `finish` returns. -/
inductive Finished (c : RunConfig) (answers : EndAnswers) (w : WorkerRun) :
    NativeWorkerResult → Bool → Prop
  | failed (reason : String) (cleared : ¬KeepsPath c answers w) :
      Finished c answers w (fail reason) false
  | kept {result} (keeps : KeepsPath c answers w) (ok : result.ok = false)
      (path : result.outputPath = w.result.outputPath) : Finished c answers w result false
  | cleared {result} (cleared : ¬KeepsPath c answers w) (ok : result.ok = false)
      (path : result.outputPath = "") : Finished c answers w result false
  | published {result} (cleared : ¬KeepsPath c answers w) (ok : result.ok = true)
      (path : result.outputPath = w.result.outputPath)
      (protocol : c.protocol.isSome = true →
        w.protocol.failure = "" ∧ w.protocol.state = .active) :
      Finished c answers w result true

section Table

variable {c : RunConfig} {answers : EndAnswers} {w : WorkerRun}

@[simp] theorem reconciled_ok (result : NativeWorkerResult) (accounting : Option Bool) :
    (result.reconciled accounting).ok = result.ok := by
  cases accounting <;> rfl

@[simp] theorem reconciled_outputPath (result : NativeWorkerResult) (accounting : Option Bool) :
    (result.reconciled accounting).outputPath = result.outputPath := by
  cases accounting <;> rfl

theorem Unended.not_endedByProtocol (h : Unended c w) : ¬EndedByProtocol c answers w := by
  rintro ⟨hsome, ⟨hfailure, -⟩ | ⟨-, hcomplete⟩⟩
  · exact h ⟨hsome, .inl hfailure⟩
  · exact h ⟨hsome, .inr hcomplete⟩

/-- The end with the output of a process tree that is gone. -/
theorem finished_of_outputEnd (timedOut : Bool) (hok : w.result.ok = false)
    (hpipe : WorkerRun.protocolFailed c answers.protocol = false) (hprotocol : Unended c w)
    (hquery : w.jobQueryFailed = false) (hlimit : w.outputLimitExceeded = false)
    (hgone : w.treeComplete = true ∧ timedOut = false ∨ timedOut = true ∧ w.wait ≠ .failed ∧
      answers.pastDeadline = true ∧ c.simulateTerminationApiFailure = false ∧
      answers.terminated = true) :
    ∃ result survives, (w.outputEnd c answers timedOut).phase = .returned result survives ∧
      Finished c answers w result survives := by
  have hkeeps : KeepsPath c answers w ↔ answers.output.failed = false ∧
      (drainOutput c.maxOutputBytes answers.output.reads w.capturedBytes).2 = true := by
    constructor
    · rintro ⟨-, hended | ⟨-, -, ⟨hexceeded, -⟩ | ⟨-, -, hlast⟩⟩⟩
      · exact absurd hended hprotocol.not_endedByProtocol
      · rw [hlimit] at hexceeded
        cases hexceeded
      · exact hlast
    · intro hlast
      refine ⟨hpipe, .inr ⟨hprotocol, hquery, .inr ⟨hlimit, ?_, hlast⟩⟩⟩
      exact hgone.imp And.left And.right
  unfold WorkerRun.outputEnd
  dsimp only
  split
  · rename_i hfailed
    refine ⟨_, _, rfl, .failed _ fun h => ?_⟩
    rw [(hkeeps.1 h).1] at hfailed
    cases hfailed
  rename_i hread
  split
  · rename_i hexceeded
    exact ⟨_, _, rfl, .kept (hkeeps.2 ⟨by simpa using hread, hexceeded⟩) hok rfl⟩
  rename_i hwithin
  have hcleared : ¬KeepsPath c answers w := fun h => hwithin (hkeeps.1 h).2
  split
  · exact ⟨_, _, rfl, .failed _ hcleared⟩
  split
  · exact ⟨_, _, rfl, .failed _ hcleared⟩
  split
  · exact ⟨_, _, rfl, .failed _ hcleared⟩
  split
  · exact ⟨_, _, rfl, .failed _ hcleared⟩
  split
  · rename_i hnot
    rw [Bool.not_eq_true'] at hnot
    exact ⟨_, _, rfl, .cleared hcleared hnot rfl⟩
  rename_i hnot
  rw [Bool.not_eq_true', Bool.not_eq_false] at hnot
  split
  · exact ⟨_, _, rfl, .failed _ hcleared⟩
  · refine ⟨_, _, rfl, .published hcleared hnot ?_ ?_⟩
    · exact reconciled_outputPath _ _
    · -- only a tree that completed in time can succeed
      intro hsome
      rcases hgone with ⟨hcomplete, -⟩ | ⟨rfl, -⟩
      · refine ⟨by_contra fun hfailure => hprotocol ⟨hsome, .inl hfailure⟩,
          by_contra fun hstate => hprotocol ⟨hsome, .inr ⟨hcomplete, hstate⟩⟩⟩
      · simp at hnot

/-- The ends without the protocol. -/
theorem finished_of_plainEnd (hok : w.result.ok = false)
    (hpipe : WorkerRun.protocolFailed c answers.protocol = false) (hprotocol : Unended c w) :
    ∃ result survives, (w.plainEnd c answers).phase = .returned result survives ∧
      Finished c answers w result survives := by
  unfold WorkerRun.plainEnd
  split
  · rename_i hquery
    refine ⟨_, _, rfl, .failed _ ?_⟩
    rintro ⟨-, hended | ⟨-, hnone, -⟩⟩
    · exact hprotocol.not_endedByProtocol hended
    · rw [hquery] at hnone
      cases hnone
  rename_i hquery
  rw [Bool.not_eq_true] at hquery
  split
  · rename_i hexceeded
    split
    · rename_i hstuck
      refine ⟨_, _, rfl, .failed _ ?_⟩
      rintro ⟨-, hended | ⟨-, -, ⟨-, hgone⟩ | ⟨hwithin, -⟩⟩⟩
      · exact hprotocol.not_endedByProtocol hended
      · simp [hgone] at hstuck
      · rw [hexceeded] at hwithin
        cases hwithin
    · rename_i hgone
      rw [Bool.not_eq_true', Bool.not_eq_false] at hgone
      exact ⟨_, _, rfl, .kept ⟨hpipe, .inr ⟨hprotocol, hquery, .inl ⟨hexceeded, hgone⟩⟩⟩ hok
        rfl⟩
  rename_i hwithin
  rw [Bool.not_eq_true] at hwithin
  split
  · rename_i hcomplete
    exact finished_of_outputEnd false hok hpipe hprotocol hquery hwithin (.inl ⟨hcomplete, rfl⟩)
  rename_i hincomplete
  -- the two ends below fail before there is output to look at
  have hcleared : (w.wait ≠ .failed → answers.pastDeadline = true →
      c.simulateTerminationApiFailure = false → answers.terminated = true → False) →
      ¬KeepsPath c answers w := by
    rintro hstuck ⟨-, hended | ⟨-, -, ⟨hexceeded, -⟩ | ⟨-, hgone, -⟩⟩⟩
    · exact hprotocol.not_endedByProtocol hended
    · rw [hwithin] at hexceeded
      cases hexceeded
    · rcases hgone with hcomplete | ⟨hwait, hpast, hsimulate, hterminated⟩
      · exact hincomplete hcomplete
      · exact hstuck hwait hpast hsimulate hterminated
  split
  · rename_i hlate
    split
    · rename_i hstuck
      refine ⟨_, _, rfl, .failed _ (hcleared fun _ _ hsimulate hterminated => ?_)⟩
      simp [hsimulate, hterminated] at hstuck
    · rename_i hgone
      simp only [not_or, Bool.not_eq_true', Bool.not_eq_false, Bool.not_eq_true] at hgone
      exact finished_of_outputEnd true hok hpipe hprotocol hquery hwithin
        (.inr ⟨rfl, hlate.1, hlate.2, hgone⟩)
  · rename_i hearly
    exact ⟨_, _, rfl, .failed _ (hcleared fun hwait hpast _ _ => hearly ⟨hwait, hpast⟩)⟩

/-- Every end of `finish`, after the last drain of the protocol's pipe. -/
theorem finished_of_finish (hok : w.result.ok = false) :
    ∃ result survives, (w.finish c answers).phase = .returned result survives ∧
      Finished c answers (w.drainedProtocol c answers.protocol) result survives := by
  have hok' : (w.drainedProtocol c answers.protocol).result.ok = false := by
    unfold WorkerRun.drainedProtocol
    split <;> exact hok
  unfold WorkerRun.finish
  generalize w.drainedProtocol c answers.protocol = w at hok' ⊢
  dsimp only
  split
  · rename_i hpipe
    refine ⟨_, _, rfl, .failed _ fun h => ?_⟩
    rw [h.1] at hpipe
    cases hpipe
  rename_i hpipe
  rw [Bool.not_eq_true] at hpipe
  split
  · -- the protocol has failed: the pathname stays unless the clean-up fails too
    rename_i hfailure
    split
    · rename_i hcleanup
      refine ⟨_, _, rfl, .failed _ ?_⟩
      rintro ⟨-, ⟨-, ⟨-, hgone⟩ | ⟨hnone, -⟩⟩ | ⟨hunended, -⟩⟩
      · simp only [Bool.not_eq_true', ← Bool.not_eq_true] at hcleanup
        exact hgone.elim hcleanup.1 hcleanup.2
      · exact hfailure.2 hnone
      · exact hunended ⟨hfailure.1, .inl hfailure.2⟩
    · rename_i hcleanup
      refine ⟨_, _, rfl, .kept ⟨hpipe, .inl ⟨hfailure.1, .inl ⟨hfailure.2, ?_⟩⟩⟩ ?_ ?_⟩
      · by_contra hboth
        simp only [not_or, Bool.not_eq_true] at hboth
        exact hcleanup (by simp [hboth])
      · rw [reconciled_ok]
        exact hok'
      · rw [reconciled_outputPath]
        rfl
  rename_i hfailure
  split
  · rename_i hincomplete
    have hnone : w.protocol.failure = "" :=
      by_contra fun hne => hfailure ⟨hincomplete.1, hne⟩
    refine ⟨_, _, rfl, .kept ⟨hpipe, .inl ⟨hincomplete.1, .inr ⟨hnone, hincomplete.2⟩⟩⟩ ?_ ?_⟩
    · rw [reconciled_ok]
      exact hok'
    · rw [reconciled_outputPath]
      rfl
  rename_i hincomplete
  have hunended : Unended c w := by
    rintro ⟨hsome, hne | hcomplete⟩
    · exact hfailure ⟨hsome, hne⟩
    · exact hincomplete ⟨hsome, hcomplete⟩
  exact finished_of_plainEnd hok' hpipe hunended

end Table

/-! ## Steps and runs -/

variable (c : RunConfig)

theorem drainedProtocol_kept (answers : DrainAnswers) (w : WorkerRun) :
    (w.drainedProtocol c answers).result = w.result ∧
      (w.drainedProtocol c answers).phase = w.phase := by
  unfold WorkerRun.drainedProtocol
  split <;> exact ⟨rfl, rfl⟩

theorem timedProtocol_kept (answers : ProtocolAnswers) (w : WorkerRun) :
    (w.timedProtocol c answers).1.result = w.result ∧
      (w.timedProtocol c answers).1.phase = w.phase := by
  unfold WorkerRun.timedProtocol
  split <;> exact ⟨rfl, rfl⟩

theorem observeJob_kept (answers : PassAnswers) (w : WorkerRun) :
    (w.observeJob answers).result = w.result ∧
      ((w.observeJob answers).phase = w.phase ∨ (w.observeJob answers).phase = .left) := by
  unfold WorkerRun.observeJob
  split
  · exact ⟨rfl, .inr rfl⟩
  split
  · split
    · exact ⟨rfl, .inr rfl⟩
    · split
      · exact ⟨rfl, .inr rfl⟩
      · exact ⟨rfl, .inl rfl⟩
  · exact ⟨rfl, .inr rfl⟩
  · exact ⟨rfl, .inl rfl⟩

/-- A pass goes on, leaves the loop, or returns a bare failure. -/
theorem pass_kept (answers : PassAnswers) (w : WorkerRun) : (w.pass c answers).result = w.result ∧
      ((w.pass c answers).phase = w.phase ∨ (w.pass c answers).phase = .left ∨
        ∃ reason, (w.pass c answers).phase = .returned (fail reason) false) := by
  unfold WorkerRun.pass
  dsimp only
  split
  · exact ⟨rfl, .inr (.inr ⟨_, rfl⟩)⟩
  obtain ⟨hresult, hphase⟩ := drainedProtocol_kept c answers.protocol { w with
    wait := answers.wait
    capturedBytes := (drainOutput c.maxOutputBytes answers.output.reads w.capturedBytes).1
    outputLimitExceeded := w.outputLimitExceeded ||
      (drainOutput c.maxOutputBytes answers.output.reads w.capturedBytes).2 }
  generalize WorkerRun.drainedProtocol c answers.protocol _ = drained at hresult hphase ⊢
  split
  · exact ⟨hresult, .inr (.inr ⟨_, rfl⟩)⟩
  split
  · exact ⟨hresult, .inr (.inl rfl)⟩
  obtain ⟨hresult', hphase'⟩ := timedProtocol_kept c answers.timeouts drained
  generalize drained.timedProtocol c answers.timeouts = timed at hresult' hphase' ⊢
  split
  · exact ⟨hresult'.trans hresult, .inr (.inl rfl)⟩
  · obtain ⟨hkept, hjob⟩ := observeJob_kept answers timed.1
    refine ⟨hkept.trans (hresult'.trans hresult), ?_⟩
    rcases hjob with hsame | hleft
    · exact .inl (hsame.trans (hphase'.trans hphase))
    · exact .inr (.inl hleft)

/-- Until the function returns, its result has not succeeded, and from the launch on it
has a pathname. -/
def Pathed (w : WorkerRun) : Prop :=
  match w.phase with
  | .starting => w.result.ok = false
  | .looping | .left => w.result.ok = false ∧ w.result.outputPath ≠ ""
  | .returned .. => True

theorem pathed_of_looping {w : WorkerRun} (h : Pathed w)
    (hphase : w.phase = .looping ∨ w.phase = .left) :
    w.result.ok = false ∧ w.result.outputPath ≠ "" := by
  unfold Pathed at h
  rcases hphase with hphase | hphase <;> (rw [hphase] at h; exact h)

/-- The steps of a run, each with the phase it is taken in. -/
inductive WorkerStep (c : RunConfig) (w : WorkerRun) : WorkerAction → WorkerRun → Prop
  | refused (reason : String) : WorkerStep c w (.launch (.error reason)) (w.returning (fail reason))
  | launched {answer : Launched} (starting : w.phase = .starting) :
      WorkerStep c w (.launch (.ok answer))
        { w with
          phase := .looping
          result := { w.result with
            outputPath := answer.outputPath
            rootProcessId := answer.rootProcessId
            jobIdentity := answer.jobIdentity }
          protocol := { w.protocol with
            started := answer.protocolStarted
            lastHeartbeat := answer.protocolStarted } }
  | passed {answers} (looping : w.phase = .looping) :
      WorkerStep c w (.pass answers) (w.pass c answers)
  | expired (looping : w.phase = .looping) : WorkerStep c w .expire { w with phase := .left }
  | finished {answers} (left : w.phase = .left) :
      WorkerStep c w (.finish answers) (w.finish c answers)

theorem workerStep_of_exec {c : RunConfig} {w w' : WorkerRun} {a : WorkerAction} {u : Unit}
    (h : w.exec c a = some (w', u)) : WorkerStep c w a w' := by
  cases a <;> simp only [WorkerRun.exec] at h <;> split at h
  case launch.isFalse hphase =>
    split at h <;> cases h
    · exact .refused _
    · exact .launched (not_not.1 hphase)
  case pass.isFalse hphase =>
    cases h
    exact .passed (not_not.1 hphase)
  case expire.isFalse hphase =>
    cases h
    exact .expired (not_not.1 hphase)
  case finish.isFalse hphase =>
    cases h
    exact .finished (not_not.1 hphase)
  all_goals cases h

theorem pathed_run {c : RunConfig} {trace : List (WorkerAction × Unit)} {w : WorkerRun}
    (run : Run (WorkerRun.exec c) {} trace w) : Pathed w := by
  refine run.invariant (P := Pathed) rfl ?_
  intro v a w u hpathed hexec
  cases workerStep_of_exec hexec with
  | refused => trivial
  | launched starting =>
    rw [Pathed, starting] at hpathed
    exact ⟨hpathed, Launched.outputPath_ne _⟩
  | @passed answers looping =>
    have hkept := pathed_of_looping hpathed (.inl looping)
    obtain ⟨hresult, hphase | hphase | ⟨reason, hphase⟩⟩ := pass_kept c answers v
    · rw [Pathed, hphase, looping, hresult]
      exact hkept
    · rw [Pathed, hphase, hresult]
      exact hkept
    · rw [Pathed, hphase]
      trivial
  | expired looping =>
    have hkept := pathed_of_looping hpathed (.inl looping)
    exact hkept
  | @finished answers left =>
    obtain ⟨result, survives, hreturned, -⟩ := @finished_of_finish c answers v
      (pathed_of_looping hpathed (.inr left)).1
    rw [Pathed, hreturned]
    trivial

/-- The only step that returns more than a bare failure is the end of the run. -/
theorem returned_cases {c : RunConfig} {trace : List (WorkerAction × Unit)} {v w : WorkerRun}
    {a : WorkerAction} {u : Unit} {result : NativeWorkerResult} {survives : Bool}
    (run : Run (WorkerRun.exec c) {} trace v) (hexec : v.exec c a = some (w, u))
    (hreturned : w.phase = .returned result survives) :
    (∃ reason, result = fail reason ∧ survives = false ∧ ∀ answers, a ≠ .finish answers) ∨
    ∃ answers, a = .finish answers ∧ w = v.finish c answers ∧ v.result.outputPath ≠ "" ∧
      Finished c answers (v.drainedProtocol c answers.protocol) result survives := by
  cases workerStep_of_exec hexec with
  | refused =>
    cases hreturned
    exact .inl ⟨_, rfl, rfl, fun _ h => by cases h⟩
  | launched | expired => cases hreturned
  | @passed answers looping =>
    obtain ⟨-, hphase | hphase | ⟨reason, hphase⟩⟩ := pass_kept c answers v
    · rw [hphase, looping] at hreturned
      cases hreturned
    · rw [hphase] at hreturned
      cases hreturned
    · rw [hphase] at hreturned
      cases hreturned
      exact .inl ⟨reason, rfl, rfl, fun _ h => by cases h⟩
  | @finished answers left =>
    obtain ⟨hok, hpath⟩ := pathed_of_looping (pathed_run run) (.inr left)
    obtain ⟨result', survives', hreturned', hfinished⟩ := @finished_of_finish c answers v hok
    rw [hreturned'] at hreturned
    cases hreturned
    exact .inr ⟨answers, rfl, rfl, hpath, hfinished⟩

/-! ## The pathname of a failed run -/

/-- `output_removed` of prism-c2-supervisor (tools/prism-c2-supervisor/main.cpp:444–449):
removing a file that is not there answers false. -/
def outputRemoved (result : NativeWorkerResult) (survives : Bool) : Bool :=
  if result.outputPath = "" then true else survives

/-- The step is an end that keeps the pathname. -/
def WorkerAction.KeepsPath (c : RunConfig) (w : WorkerRun) : WorkerAction → Prop
  | .finish answers => Runtime.KeepsPath c answers (w.drainedProtocol c answers.protocol)
  | _ => False

/-- A failed result has no pathname and nothing is left to remove, and a pathname goes
out exactly with a file that survives. -/
def PathPublished (result : NativeWorkerResult) (survives : Bool) : Prop :=
  (result.ok = false → result.outputPath = "" ∧ outputRemoved result survives = true) ∧
    (result.outputPath ≠ "" ↔ survives = true)

/-- **The pathname of the output, in every run.** It is published as it should exactly
when the run does not end by the protocol's failure or incompleteness or by the output
limit. -/
theorem pathPublished_iff {c : RunConfig} {trace : List (WorkerAction × Unit)} {v w : WorkerRun}
    {a : WorkerAction} {u : Unit} {result : NativeWorkerResult} {survives : Bool}
    (run : Run (WorkerRun.exec c) {} trace v) (hexec : v.exec c a = some (w, u))
    (hreturned : w.phase = .returned result survives) :
    PathPublished result survives ↔ ¬a.KeepsPath c v := by
  rcases returned_cases run hexec hreturned with
    ⟨reason, rfl, rfl, hbare⟩ | ⟨answers, rfl, rfl, hpath, hfinished⟩
  · refine iff_of_true ⟨fun _ => ⟨rfl, rfl⟩, by simp [fail]⟩ ?_
    cases a with
    | finish answers => exact absurd rfl (hbare answers)
    | _ => exact id
  · rw [← (drainedProtocol_kept c answers.protocol v).1] at hpath
    cases hfinished with
    | failed reason hcleared =>
      exact iff_of_true ⟨fun _ => ⟨rfl, rfl⟩, by simp [fail]⟩ hcleared
    | kept keeps ok path =>
      refine iff_of_false ?_ (not_not.2 keeps)
      intro hpublished
      rw [← path] at hpath
      exact hpath (hpublished.1 ok).1
    | cleared hcleared ok path =>
      refine iff_of_true ⟨fun _ => ⟨path, ?_⟩, by simp [path]⟩ hcleared
      rw [outputRemoved, if_pos path]
    | published hcleared ok path protocol =>
      refine iff_of_true ⟨?_, by simp [path, hpath]⟩ hcleared
      intro hfailed
      rw [ok] at hfailed
      cases hfailed

namespace Fixture

def launched : Launched :=
  ⟨"out.tmp", by decide, 42, "job:1:42:1000", 1000⟩

/-- A child that exits with code 1. -/
def failedChild : List WorkerAction :=
  [.launch (.ok launched), .pass { wait := .object }]

def failedChildEnd : EndAnswers :=
  { accounting := some true, written := true, flushed := true, exitCode := some 1 }

end Fixture

/-- A worker that never announces its context: the protocol fails after two seconds, the
job is terminated, and the result names a file that is not there any more. -/
theorem failed_with_path :
    ∃ (c : RunConfig) (trace : List (WorkerAction × Unit)) (w : WorkerRun)
      (result : NativeWorkerResult), Run (WorkerRun.exec c) {} trace w ∧
      w.phase = .returned result false ∧ result.ok = false ∧ result.outputPath = "out.tmp" ∧
      outputRemoved result false = false := by
  let c : RunConfig := { protocol := some { nonce := Fixture.nonce } }
  let silent : ProtocolAnswers :=
    { now := 3000, cancelNow := 3000, cancelWritten := true, cancelSentAt := 3000 }
  let actions : List WorkerAction := [.launch (.ok Fixture.launched),
    .pass { timeouts := silent }, .expire, .finish { terminated := true }]
  let kept : WorkerPhase → Bool
    | .returned result survives => !survives && !result.ok && result.outputPath == "out.tmp"
    | _ => false
  obtain ⟨trace, w, run, hkept⟩ := Run.exists_of_runActions actions
    (fun result => kept result.2.phase)
    (show (runActions (WorkerRun.exec c) {} actions).any _ = true by decide)
  dsimp only [kept] at hkept
  split at hkept
  · rename_i result survives hphase
    simp only [Bool.and_eq_true, Bool.not_eq_true', beq_iff_eq] at hkept
    obtain ⟨⟨rfl, hok⟩, hpath⟩ := hkept
    exact ⟨c, trace, w, result, run, hphase, hok, hpath, by rw [outputRemoved, hpath]; rfl⟩
  · cases hkept

theorem pathPublished_iff_on_fixture :
    ∃ (trace : List (WorkerAction × Unit)) (v w : WorkerRun) (result : NativeWorkerResult),
      Run (WorkerRun.exec {}) {} trace v ∧
      v.exec {} (.finish Fixture.failedChildEnd) = some (w, ()) ∧
      w.phase = .returned result false ∧ result.ok = false ∧ PathPublished result false ∧
      ¬(WorkerAction.finish Fixture.failedChildEnd).KeepsPath {} v := by
  let failed : WorkerPhase → Bool
    | .returned result survives => !survives && !result.ok && result.outputPath == ""
    | _ => false
  obtain ⟨trace, v, run, hcheck⟩ := Run.exists_of_runActions Fixture.failedChild
    (fun result => (result.2.exec {} (.finish Fixture.failedChildEnd)).any fun last =>
      failed last.1.phase)
    (show (runActions (WorkerRun.exec {}) {} Fixture.failedChild).any _ = true by decide)
  rw [Option.any_eq_true] at hcheck
  obtain ⟨⟨w, u⟩, hexec, hfailed⟩ := hcheck
  dsimp only [failed] at hfailed
  split at hfailed
  · rename_i result survives hphase
    simp only [Bool.and_eq_true, Bool.not_eq_true', beq_iff_eq] at hfailed
    obtain ⟨⟨rfl, hok⟩, hpath⟩ := hfailed
    have hpublished : PathPublished result false :=
      ⟨fun _ => ⟨hpath, by rw [outputRemoved, if_pos hpath]⟩, by simp [hpath]⟩
    exact ⟨trace, v, w, result, run, hexec, hphase, hok, hpublished,
      (pathPublished_iff run hexec hphase).1 hpublished⟩
  · cases hfailed

end PrismInfer.Runtime
