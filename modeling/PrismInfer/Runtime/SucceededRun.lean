import PrismInfer.Governor.GpuAdmissionSession
import PrismInfer.Runtime.ProtocolFraming
import PrismInfer.Runtime.ProtocolTrace

/-!
# A worker's run that succeeds

What is known of a run with the protocol (src/runtime/native_worker.cpp:651–1561) that
returns `ok`: the worker is gone with all it had, and the protocol is active after exactly
as many heartbeats as there are heartbeat lines among the bytes that the worker sent. While
nothing has been cancelled, every complete line has been handled as soon as it was read.
-/

namespace PrismInfer.Runtime

open PrismInfer.Lib

/-! ## The heartbeats that a worker sends -/

/-- The second word of a line says what it is. -/
def IsHeartbeat (line : List Char) : Prop :=
  (TextStream.mk (stripCarriageReturn line) true).word.2.word.1 = "HEARTBEAT"

instance (line : List Char) : Decidable (IsHeartbeat line) :=
  inferInstanceAs (Decidable (_ = _))

/-- The heartbeats among some lines. -/
def heartbeatLines (lines : List (List Char)) : ℕ :=
  lines.countP fun line => IsHeartbeat line

/-- The bytes of the worker that a step reads from the protocol's pipe. -/
def WorkerAction.sent : WorkerAction → List Char
  | .pass answers => bytes answers.protocol.reads
  | .finish answers => bytes answers.protocol.reads
  | .launch _ | .expire => []

/-- The bytes of the worker that a run reads. -/
def sentBytes (trace : List (WorkerAction × Unit)) : List Char :=
  trace.flatMap fun step => step.1.sent

theorem sentBytes_snoc (trace : List (WorkerAction × Unit)) (a : WorkerAction) (u : Unit) :
    sentBytes (trace ++ [(a, u)]) = sentBytes trace ++ a.sent := by
  simp [sentBytes]

/-- Asking for a cancellation is never forgotten. -/
theorem asked_requestProtocolCancel (answers : ProtocolAnswers) (reason : String)
    (s : ProtocolLoop) : (requestProtocolCancel answers reason s).asked ≠ [] := by
  unfold requestProtocolCancel
  dsimp only
  split <;> simp

/-- A step that asks for no cancellation: none was asked for before it, and it makes so many
calls for heartbeats. -/
def Beats (n : ℕ) (s s' : ProtocolLoop) : Prop :=
  s'.asked = [] → s.asked = [] ∧ count .heartbeat s'.calls = count .heartbeat s.calls + n

theorem beats_refl (s : ProtocolLoop) : Beats 0 s s :=
  fun h => ⟨h, rfl⟩

variable {s : ProtocolLoop} {text : List Char} {config : ProtocolConfig}

theorem Beats.trans {n m : ℕ} {s' s'' : ProtocolLoop} (h : Beats n s s') (h' : Beats m s' s'') :
    Beats (n + m) s s'' := by
  intro hasked
  obtain ⟨hbetween, hlast⟩ := h' hasked
  obtain ⟨hfirst, hcount⟩ := h hbetween
  exact ⟨hfirst, by omega⟩

theorem beats_cancel {n : ℕ} {s' : ProtocolLoop} (answers : ProtocolAnswers) (reason : String) :
    Beats n s (requestProtocolCancel answers reason s') :=
  fun h => absurd h (asked_requestProtocolCancel answers reason s')

section Lines

variable (c : ProtocolConfig) (answers : ProtocolAnswers) (parsed : TextStream) (s : ProtocolLoop)

theorem beats_contextReady : Beats 0 s (onContextReady c answers parsed s) := by
  unfold onContextReady
  dsimp only
  repeat' split
  all_goals first | exact beats_cancel _ _ | skip
  intro hasked
  refine ⟨hasked, ?_⟩
  rw [count_snoc, count_snoc]
  rfl

theorem beats_tokenConsumed : Beats 0 s (onTokenConsumed answers parsed s) := by
  unfold onTokenConsumed
  dsimp only
  split
  · exact beats_cancel _ _
  split
  · exact beats_cancel _ _
  intro hasked
  exact ⟨hasked, by simp [ProtocolCall.kind]⟩

theorem beats_heartbeat : Beats 1 s (onHeartbeat c answers parsed s) := by
  unfold onHeartbeat
  dsimp only
  split
  · exact beats_cancel _ _
  split
  · exact beats_cancel _ _
  split
  · exact beats_cancel _ _
  by_cases hrefused : (!answers.accepted) = true ∨ answers.aborted = true
  · intro hasked
    rw [if_pos hrefused] at hasked
    exact absurd hasked (asked_requestProtocolCancel _ _ _)
  · intro hasked
    rw [if_neg hrefused] at hasked ⊢
    exact ⟨hasked, by simp [ProtocolCall.kind]⟩

theorem beats_cancelAck : Beats 0 s (onCancelAck answers parsed s) := by
  unfold onCancelAck
  split
  · exact beats_cancel _ _
  intro hasked
  exact ⟨hasked, by simp [ProtocolCall.kind]⟩

/-- A line is one call for a heartbeat if it is a heartbeat, and none otherwise. -/
theorem beats_line (line : List Char) :
    Beats (if IsHeartbeat line then 1 else 0) s (processProtocolLine c answers line s) := by
  generalize hn : (if IsHeartbeat line then 1 else 0) = n
  unfold processProtocolLine
  dsimp only
  split
  · exact beats_cancel _ _
  split
  · exact beats_cancel _ _
  split
  · rename_i htype
    rw [if_neg (by rw [IsHeartbeat, htype]; decide)] at hn
    rw [← hn]
    exact beats_contextReady _ _ _ _
  split
  · rename_i htype
    rw [if_neg (by rw [IsHeartbeat, htype]; decide)] at hn
    rw [← hn]
    exact beats_tokenConsumed _ _ _
  split
  · rename_i htype
    rw [if_pos (show IsHeartbeat line from htype)] at hn
    rw [← hn]
    exact beats_heartbeat _ _ _ _
  rename_i htype
  rw [if_neg (show ¬IsHeartbeat line from htype)] at hn
  rw [← hn]
  split
  · exact beats_cancelAck _ _ _
  · exact beats_cancel _ _

theorem beats_lines (answers : ℕ → ProtocolAnswers) (lines : List (List Char)) :
    Beats (heartbeatLines lines) s (processLines c answers lines s) := by
  induction lines generalizing answers s with
  | nil => exact beats_refl s
  | cons line lines ih =>
    have h := (beats_line c (answers 0) s line).trans
      (ih (processProtocolLine c (answers 0) line s) fun i => answers (i + 1))
    have hcount : heartbeatLines (line :: lines) =
        (if IsHeartbeat line then 1 else 0) + heartbeatLines lines := by
      simp only [heartbeatLines, List.countP_cons, decide_eq_true_eq, Nat.add_comm]
    rw [hcount]
    exact h

end Lines

/-! ## Reading all that a worker sends -/

/-- The loop has handled every complete line of a text and kept what follows them. -/
structure Heard (text : List Char) (s : ProtocolLoop) : Prop where
  pending : s.pending = unfinished text
  count : count .heartbeat s.calls = heartbeatLines (takeLines [] text).1

/-- The same of a loop that was asked to cancel says nothing. -/
def HeardUnlessAsked (text : List Char) (s : ProtocolLoop) : Prop :=
  s.asked = [] → Heard text s

theorem HeardUnlessAsked.read (h : HeardUnlessAsked text s) (c : ProtocolConfig)
    (read : ProtocolRead) : HeardUnlessAsked (text ++ read.chunk)
      (drainRead c read.chunk read.exceeded read.answers s) := by
  have hdrained : ∀ s' : ProtocolLoop, drainRead c read.chunk read.exceeded read.answers s =
      processLines c read.answers (frameRead s.pending read.chunk).2.1 s' →
      Beats (heartbeatLines (frameRead s.pending read.chunk).2.1) s'
        (drainRead c read.chunk read.exceeded read.answers s) := by
    intro s' heq
    rw [heq]
    exact beats_lines c s' read.answers _
  intro hasked
  by_cases hexceeded : (frameRead s.pending read.chunk).1 = true
  · -- an exceeded buffer is answered with a cancellation
    have hbefore := (hdrained _ (by rw [drainRead, if_pos hexceeded]) hasked).1
    exact absurd hbefore (asked_requestProtocolCancel _ _ _)
  · obtain ⟨hbefore, hcount⟩ := hdrained _ (by rw [drainRead, if_neg hexceeded]) hasked
    obtain ⟨hpending, hheard⟩ := h hbefore
    have hlength : (unfinished text).length + read.chunk.length ≤ 1024 := by
      by_contra hbeyond
      exact hexceeded (hpending ▸ frameRead_beyond hbeyond)
    refine ⟨drainRead_unfinished hpending hlength, ?_⟩
    rw [hcount, hheard, hpending, frameRead_within hlength, takeLines_read text]
    exact List.countP_append.symm

theorem HeardUnlessAsked.reads (h : HeardUnlessAsked text s) (c : ProtocolConfig)
    (reads : List ProtocolRead) :
    HeardUnlessAsked (text ++ bytes reads) (drainProtocol c reads s) := by
  induction reads generalizing s text with
  | nil =>
    rw [bytes, List.flatMap_nil, List.append_nil]
    exact h
  | cons read reads ih =>
    rw [bytes, List.flatMap_cons, ← List.append_assoc]
    exact ih (h.read c read)

theorem HeardUnlessAsked.timeouts (h : HeardUnlessAsked text s) (c : ProtocolConfig)
    (answers : ProtocolAnswers) : HeardUnlessAsked text (checkTimeouts c answers s) := by
  unfold checkTimeouts
  repeat' split
  all_goals first
    | exact fun hasked => absurd hasked (asked_requestProtocolCancel _ _ _)
    | exact h

variable {w : WorkerRun} {c : RunConfig}

/-- What a run has heard while it goes on. -/
theorem heard_pass {answers : PassAnswers} (hconfig : c.protocol = some config)
    (h : HeardUnlessAsked text w.protocol)
    (hgoing : ∀ result survives, (w.pass c answers).phase ≠ .returned result survives) :
    HeardUnlessAsked (text ++ bytes answers.protocol.reads) (w.pass c answers).protocol := by
  have hreads := h.reads config answers.protocol.reads
  have htimed := hreads.timeouts config answers.timeouts
  unfold WorkerRun.pass at hgoing ⊢
  dsimp only [WorkerRun.drainedProtocol, WorkerRun.timedProtocol] at hgoing ⊢
  rw [hconfig] at hgoing ⊢
  dsimp only at hgoing ⊢
  split at hgoing
  · exact absurd rfl (hgoing _ _)
  rename_i houtput
  rw [if_neg houtput]
  split at hgoing
  · exact absurd rfl (hgoing _ _)
  rename_i hprotocol
  rw [if_neg hprotocol]
  split
  · exact hreads
  split
  · exact htimed
  · unfold WorkerRun.observeJob
    repeat' split
    all_goals exact htimed

/-- A run that has not returned has heard all that was read. -/
theorem heard_run {trace : List (WorkerAction × Unit)} (hconfig : c.protocol = some config)
    (run : Run (WorkerRun.exec c) {} trace w)
    (hgoing : ∀ result survives, w.phase ≠ .returned result survives) :
    HeardUnlessAsked (sentBytes trace) w.protocol := by
  induction run with
  | nil => exact fun _ => ⟨rfl, rfl⟩
  | snoc run hexec ih =>
    rename_i before v w a u
    rw [sentBytes_snoc]
    have hheard : ∀ {phase}, v.phase = phase →
        (∀ result survives, phase ≠ .returned result survives) →
        HeardUnlessAsked (sentBytes before) v.protocol := by
      rintro _ rfl h
      exact ih h
    cases workerStep_of_exec hexec with
    | refused => exact absurd rfl (hgoing _ _)
    | launched starting =>
      have hbefore := hheard starting fun _ _ h => by cases h
      rw [WorkerAction.sent, List.append_nil]
      exact fun hasked => ⟨(hbefore hasked).pending, (hbefore hasked).count⟩
    | passed looping => exact heard_pass hconfig (hheard looping fun _ _ h => by cases h) hgoing
    | expired looping =>
      rw [WorkerAction.sent, List.append_nil]
      exact hheard looping fun _ _ h => by cases h
    | @finished answers left =>
      have hok := (pathed_of_looping (pathed_run run) (.inr left)).1
      obtain ⟨result, survives, hreturned, -⟩ := @finished_of_finish c answers v hok
      exact absurd hreturned (hgoing result survives)

/-! ## A run that succeeds -/

/-- The five marks of the end that `run_contained_worker` takes from the result
(gpu_admission_session.cpp:626–632). -/
def NativeWorkerResult.teardown (result : NativeWorkerResult) : Governor.NativeWorkerTeardown :=
  { workerExitObserved := result.workerExitObserved
    jobTreeEmpty := result.jobTreeEmpty
    jobAccountingReconciled := result.jobAccountingReconciled
    artifactHandlesClosed := result.artifactHandlesClosed
    temporaryFilesReconciled := result.temporaryFilesReconciled }

section Success

variable {c : RunConfig} {answers : EndAnswers} {w : WorkerRun} {result : NativeWorkerResult}
  {survives : Bool}

theorem outputEnd_teardown {timedOut : Bool} (hok : w.result.ok = false)
    (hreturned : (w.outputEnd c answers timedOut).phase = .returned result survives)
    (hsuccess : result.ok = true) : result.teardown = ⟨true, true, true, true, true⟩ := by
  unfold WorkerRun.outputEnd at hreturned
  dsimp only at hreturned
  split at hreturned
  · cases hreturned
    cases hsuccess
  split at hreturned
  · cases hreturned
    exact absurd (hok.symm.trans hsuccess) (by decide)
  iterate 4
    split at hreturned
    · cases hreturned
      cases hsuccess
  rename_i haccounting
  obtain ⟨perProcess, hsome⟩ : ∃ perProcess, answers.accounting = some perProcess := by
    rw [not_or, Option.isNone_iff_eq_none] at haccounting
    exact Option.ne_none_iff_exists'.1 haccounting.1
  rw [hsome] at hreturned
  split at hreturned
  · rename_i hfailed
    cases hreturned
    rw [Bool.not_eq_true'] at hfailed
    exact absurd (hfailed.symm.trans hsuccess) (by decide)
  split at hreturned
  · cases hreturned
    cases hsuccess
  · cases hreturned
    rfl

theorem plainEnd_teardown (hok : w.result.ok = false)
    (hreturned : (w.plainEnd c answers).phase = .returned result survives)
    (hsuccess : result.ok = true) : result.teardown = ⟨true, true, true, true, true⟩ := by
  unfold WorkerRun.plainEnd at hreturned
  split at hreturned
  · cases hreturned
    cases hsuccess
  split at hreturned
  · split at hreturned
    · cases hreturned
      cases hsuccess
    · cases hreturned
      exact absurd (hok.symm.trans hsuccess) (by decide)
  split at hreturned
  · exact outputEnd_teardown hok hreturned hsuccess
  split at hreturned
  · split at hreturned
    · cases hreturned
      cases hsuccess
    · exact outputEnd_teardown hok hreturned hsuccess
  · cases hreturned
    cases hsuccess

/-- A run that succeeds has torn everything down. -/
theorem finish_teardown (hok : w.result.ok = false)
    (hreturned : (w.finish c answers).phase = .returned result survives)
    (hsuccess : result.ok = true) : result.teardown = ⟨true, true, true, true, true⟩ := by
  have hok' : (w.drainedProtocol c answers.protocol).result.ok = false := by
    rw [(drainedProtocol_kept c answers.protocol w).1]
    exact hok
  unfold WorkerRun.finish at hreturned
  generalize w.drainedProtocol c answers.protocol = w at hok' hreturned
  dsimp only at hreturned
  split at hreturned
  · cases hreturned
    cases hsuccess
  split at hreturned
  · split at hreturned
    · cases hreturned
      cases hsuccess
    · cases hreturned
      rw [reconciled_ok] at hsuccess
      exact absurd (hok'.symm.trans hsuccess) (by decide)
  split at hreturned
  · cases hreturned
    rw [reconciled_ok] at hsuccess
    exact absurd (hok'.symm.trans hsuccess) (by decide)
  · exact plainEnd_teardown hok' hreturned hsuccess

end Success

/-- A run with the protocol that succeeds: it has torn everything down, and its protocol
ended active, after as many heartbeats as the worker sent. -/
theorem succeeded_run {trace : List (WorkerAction × Unit)} {result : NativeWorkerResult}
    {survives : Bool} (hconfig : c.protocol = some config) (run : Run (WorkerRun.exec c) {} trace w)
    (hreturned : w.phase = .returned result survives) (hsuccess : result.ok = true) :
    result.teardown = ⟨true, true, true, true, true⟩ ∧
      Stage.fresh.follow w.protocol.calls =
        some (.running (heartbeatLines (takeLines [] (sentBytes trace)).1)) := by
  have htracks := tracks_run run
  have hactive := active_of_success run (by rw [hconfig]; rfl) hreturned hsuccess
  have hclean := htracks.clean (by rw [hactive]; decide)
  obtain ⟨stage, hfollow, hstage⟩ := htracks.stage
  rw [ProtocolLoop.AtStage, hactive] at hstage
  obtain ⟨n, rfl, -⟩ := hstage
  have hcount : count .heartbeat w.protocol.calls = n := (inOrder_of_follow hfollow).2.2.1
  cases run with
  | nil => cases hreturned
  | snoc run hexec =>
    rename_i before v a u
    rcases returned_cases run hexec hreturned with ⟨reason, rfl, -⟩ | ⟨answers, rfl, rfl, -, -⟩
    · cases hsuccess
    have hleft : v.phase = .left := by
      by_contra hne
      simp only [WorkerRun.exec, ne_eq, hne, not_false_eq_true, if_true] at hexec
      cases hexec
    have hok := (pathed_of_looping (pathed_run run) (.inr hleft)).1
    have hheard := heard_run hconfig run fun result survives => by
      rw [hleft]
      exact fun h => by cases h
    refine ⟨finish_teardown hok hreturned hsuccess, ?_⟩
    have hlast := hheard.reads config answers.protocol.reads
    have hprotocol : (v.finish c answers).protocol =
        drainProtocol config answers.protocol.reads v.protocol := by
      rw [finish_protocol, WorkerRun.drainedProtocol, hconfig]
    rw [hprotocol] at hclean hcount
    rw [hfollow, sentBytes_snoc, WorkerAction.sent, ← (hlast hclean).count, hcount]

end PrismInfer.Runtime
