import PrismInfer.Runtime.WorkerEnd

/-!
# The order of the protocol's calls

What the supervisor and the worker see of the protocol is its list of calls. `Stage` is
the abstract protocol: an automaton over the calls, without texts, clocks or timeouts.
Every list it follows is in order (`inOrder_of_follow`). The code refines it: whatever
the worker sends and whenever the timeouts strike, the calls made so far lead the
automaton to the stage that belongs to the state of the loop (`Tracks`). The contract of
a whole run, `calls_in_order`, is the two together.
-/

namespace PrismInfer.Runtime

open PrismInfer.Lib

/-! ## The abstract protocol -/

/-- How far the protocol has come. -/
inductive Stage
  | fresh
  | asked (grant : NativeWorkerAdmissionGrant)
  | delivered (tokenId : UInt64)
  | running (heartbeats : ℕ)
  | refused
  | cancelled
  | acknowledged

variable {stage : Stage} {calls : List ProtocolCall} {w : WorkerRun}

namespace Stage

/-- No cancellation has been sent. -/
def Open : Stage → Prop
  | .cancelled | .acknowledged => False
  | _ => True

instance (stage : Stage) : Decidable stage.Open := by
  cases stage <;> first | exact isTrue trivial | exact isFalse id

/-- The call that may come next, and the stage after it. -/
def next : Stage → ProtocolCall → Option Stage
  | .fresh, .contextReady _ _ grant => some (.asked grant)
  | .asked grant, .wroteAdmit tokenId _ written =>
    if tokenId = grant.tokenId then some (if written then .delivered tokenId else .refused)
    else none
  | .delivered tokenId, .tokenConsumed consumedId _ consumed =>
    if consumedId = tokenId then some (if consumed then .running 0 else .refused) else none
  | .running n, .heartbeat sequence _ _ accepted =>
    if sequence = UInt64.ofNat (n + 1) then some (if accepted then .running (n + 1) else .refused)
    else none
  | .cancelled, .wroteCancel _ => some .cancelled
  | .cancelled, .cancelAcknowledged _ => some .acknowledged
  | stage, .cancelRequested _ _ => if stage.Open then some .cancelled else none
  | _, _ => none

/-- The stage after a list of calls, if every call may come. -/
def follow (stage : Stage) : List ProtocolCall → Option Stage
  | [] => some stage
  | call :: calls => (stage.next call).bind fun stage => stage.follow calls

theorem follow_append (stage : Stage) (calls calls' : List ProtocolCall) :
    stage.follow (calls ++ calls') =
      (stage.follow calls).bind fun stage => stage.follow calls' := by
  induction calls generalizing stage with
  | nil => rfl
  | cons call calls ih =>
    show (stage.next call).bind _ = ((stage.next call).bind _).bind _
    cases stage.next call with
    | none => rfl
    | some stage => exact ih stage

theorem follow_snoc {stage' : Stage} (h : stage.follow calls = some stage') (call : ProtocolCall) :
    stage.follow (calls ++ [call]) = stage'.next call := by
  rw [follow_append, h]
  show (stage'.next call).bind (fun stage => some stage) = _
  cases stage'.next call with
  | none => rfl
  | some stage => rfl

end Stage

/-! ## What order means -/

inductive CallKind
  | contextReady
  | tokenConsumed
  | heartbeat
  | cancelRequested
  | cancelAcknowledged
  | wroteAdmit
  | wroteCancel
  deriving DecidableEq

def ProtocolCall.kind : ProtocolCall → CallKind
  | .contextReady .. => .contextReady
  | .tokenConsumed .. => .tokenConsumed
  | .heartbeat .. => .heartbeat
  | .cancelRequested .. => .cancelRequested
  | .cancelAcknowledged _ => .cancelAcknowledged
  | .wroteAdmit .. => .wroteAdmit
  | .wroteCancel _ => .wroteCancel

/-- How many of the calls are of the kind. -/
def count (kind : CallKind) (calls : List ProtocolCall) : ℕ :=
  calls.countP fun call => call.kind = kind

@[simp] theorem count_nil (kind : CallKind) : count kind [] = 0 := rfl

@[simp] theorem count_snoc (kind : CallKind) (calls : List ProtocolCall) (call : ProtocolCall) :
    count kind (calls ++ [call]) = count kind calls + if call.kind = kind then 1 else 0 := by
  rw [count, List.countP_append, List.countP_singleton]
  simp only [decide_eq_true_eq]
  rfl

/-- The call may come after the calls before it: the context is announced once and
first; a token is consumed once, with the id that was granted and written to the
worker; heartbeats are numbered from one, after a successful consumption and before any
cancellation; a cancellation is requested once, and acknowledged once and after it. -/
def ProtocolCall.Allowed (before : List ProtocolCall) : ProtocolCall → Prop
  | .contextReady .. => count .contextReady before = 0 ∧ count .tokenConsumed before = 0 ∧
    count .heartbeat before = 0
  | .tokenConsumed tokenId _ _ => count .tokenConsumed before = 0 ∧
    ∃ now evidence grant cap, .contextReady now evidence grant ∈ before ∧
      grant.tokenId = tokenId ∧ .wroteAdmit tokenId cap true ∈ before
  | .heartbeat sequence _ _ _ => sequence = UInt64.ofNat (count .heartbeat before + 1) ∧
    count .contextReady before ≠ 0 ∧ (∃ tokenId now, .tokenConsumed tokenId now true ∈ before) ∧
    count .cancelRequested before = 0
  | .cancelRequested .. => count .cancelRequested before = 0
  | .cancelAcknowledged _ => count .cancelAcknowledged before = 0 ∧
    count .cancelRequested before ≠ 0
  | .wroteAdmit tokenId _ _ =>
    ∃ now evidence grant, .contextReady now evidence grant ∈ before ∧ grant.tokenId = tokenId
  | .wroteCancel _ => count .cancelRequested before ≠ 0

/-- Every call comes where it may. -/
def InOrder (calls : List ProtocolCall) : Prop :=
  ∀ before call after, calls = before ++ call :: after → call.Allowed before

variable {call : ProtocolCall}

theorem InOrder.snoc (h : InOrder calls) (hcall : call.Allowed calls) :
    InOrder (calls ++ [call]) := by
  intro before call' after hsplit
  rcases List.eq_nil_or_concat after with rfl | ⟨init, last, rfl⟩
  · obtain ⟨rfl, hlast⟩ := List.append_inj' hsplit rfl
    cases hlast
    exact hcall
  · rw [List.concat_eq_append, ← List.cons_append, ← List.append_assoc] at hsplit
    obtain ⟨hinit, -⟩ := List.append_inj' hsplit rfl
    exact h before call' init hinit

/-- No cancellation among the calls. -/
def Quiet (calls : List ProtocolCall) : Prop :=
  count .cancelRequested calls = 0 ∧ count .cancelAcknowledged calls = 0

theorem Quiet.snoc (h : Quiet calls) (hrequested : call.kind ≠ .cancelRequested)
    (hacked : call.kind ≠ .cancelAcknowledged) : Quiet (calls ++ [call]) := by
  rw [Quiet, count_snoc, count_snoc, if_neg hrequested, if_neg hacked]
  exact h

/-- What is known of the calls that lead to a stage. -/
def Stage.Facts (calls : List ProtocolCall) : Stage → Prop
  | .fresh => calls = []
  | .asked grant => Quiet calls ∧ count .tokenConsumed calls = 0 ∧ count .heartbeat calls = 0 ∧
    count .contextReady calls ≠ 0 ∧ ∃ now evidence, .contextReady now evidence grant ∈ calls
  | .delivered tokenId => Quiet calls ∧ count .tokenConsumed calls = 0 ∧
    count .heartbeat calls = 0 ∧ count .contextReady calls ≠ 0 ∧
    ∃ now evidence grant cap, .contextReady now evidence grant ∈ calls ∧
      grant.tokenId = tokenId ∧ .wroteAdmit tokenId cap true ∈ calls
  | .running n => Quiet calls ∧ count .heartbeat calls = n ∧ count .contextReady calls ≠ 0 ∧
    ∃ tokenId now, .tokenConsumed tokenId now true ∈ calls
  | .refused => Quiet calls
  | .cancelled => count .cancelRequested calls ≠ 0 ∧ count .cancelAcknowledged calls = 0
  | .acknowledged => True

theorem Stage.Facts.quiet (h : stage.Facts calls) (hopen : stage.Open) : Quiet calls := by
  cases stage with
  | fresh =>
    obtain rfl : calls = [] := h
    exact ⟨rfl, rfl⟩
  | asked | delivered | running => exact h.1
  | refused => exact h
  | cancelled | acknowledged => exact hopen.elim

/-- One call: it comes where it may, and what is known of the stage after it holds. -/
theorem Stage.Facts.step {stage' : Stage} (h : stage.Facts calls)
    (hnext : stage.next call = some stage') :
    call.Allowed calls ∧ stage'.Facts (calls ++ [call]) := by
  unfold Stage.next at hnext
  split at hnext
  · -- fresh, contextReady
    cases hnext
    obtain rfl : calls = [] := h
    exact ⟨⟨rfl, rfl, rfl⟩, ⟨rfl, rfl⟩, rfl, rfl, Nat.one_ne_zero, _, _, List.mem_singleton_self _⟩
  · -- asked, wroteAdmit
    rename_i grant tokenId cap written
    obtain ⟨hquiet, htoken, hbeat, hcontext, now, evidence, hmem⟩ := h
    split at hnext
    · rename_i hid
      cases hnext
      refine ⟨⟨now, evidence, grant, hmem, hid.symm⟩, ?_⟩
      cases written with
      | true =>
        exact ⟨hquiet.snoc nofun nofun,
          by simpa [ProtocolCall.kind] using htoken, by simpa [ProtocolCall.kind] using hbeat,
          by simpa [ProtocolCall.kind] using hcontext, now, evidence, grant, cap,
          List.mem_append_left _ hmem, hid.symm,
          List.mem_append_right _ (List.mem_singleton_self _)⟩
      | false => exact hquiet.snoc nofun nofun
    · cases hnext
  · -- delivered, tokenConsumed
    rename_i tokenId consumedId now consumed
    obtain ⟨hquiet, htoken, hbeat, hcontext, hgranted⟩ := h
    split at hnext
    · rename_i hid
      cases hnext
      refine ⟨⟨htoken, hid ▸ hgranted⟩, ?_⟩
      cases consumed with
      | true =>
        exact ⟨hquiet.snoc nofun nofun,
          by simpa [ProtocolCall.kind] using hbeat, by simpa [ProtocolCall.kind] using hcontext,
          consumedId, now, List.mem_append_right _ (List.mem_singleton_self _)⟩
      | false => exact hquiet.snoc nofun nofun
    · cases hnext
  · -- running, heartbeat
    rename_i n sequence now evidence accepted
    obtain ⟨hquiet, hbeat, hcontext, tokenId, now', hmem⟩ := h
    split at hnext
    · rename_i hsequence
      cases hnext
      refine ⟨⟨hbeat ▸ hsequence, hcontext, ⟨tokenId, now', hmem⟩, hquiet.1⟩, ?_⟩
      cases accepted with
      | true =>
        exact ⟨hquiet.snoc nofun nofun,
          by simpa [ProtocolCall.kind] using hbeat, by simpa [ProtocolCall.kind] using hcontext,
          tokenId, now', List.mem_append_left _ hmem⟩
      | false => exact hquiet.snoc nofun nofun
    · cases hnext
  · -- cancelled, wroteCancel
    cases hnext
    exact ⟨h.1, by simpa [ProtocolCall.kind] using h.1, by simpa [ProtocolCall.kind] using h.2⟩
  · -- cancelled, cancelAcknowledged
    cases hnext
    exact ⟨⟨h.2, h.1⟩, trivial⟩
  · -- cancelRequested
    split at hnext
    · rename_i hopen
      cases hnext
      have hquiet := h.quiet hopen
      exact ⟨hquiet.1, by simp [ProtocolCall.kind], by simpa [ProtocolCall.kind] using hquiet.2⟩
    · cases hnext
  · cases hnext

/-- **The abstract protocol is in order.** -/
theorem inOrder_of_follow (h : Stage.fresh.follow calls = some stage) :
    InOrder calls ∧ stage.Facts calls := by
  induction calls using List.reverseRecOn generalizing stage with
  | nil =>
    cases h
    refine ⟨?_, rfl⟩
    intro before call after hnil
    simp at hnil
  | append_singleton calls call ih =>
    rw [Stage.follow_append] at h
    cases hcalls : Stage.fresh.follow calls with
    | none =>
      rw [hcalls] at h
      cases h
    | some before =>
      rw [← Stage.follow_append, Stage.follow_snoc hcalls] at h
      obtain ⟨horder, hfacts⟩ := ih hcalls
      obtain ⟨hallowed, hafter⟩ := hfacts.step h
      exact ⟨horder.snoc hallowed, hafter⟩

/-! ## The code follows the abstract protocol -/

/-- The stage that belongs to the state of the loop. -/
def ProtocolLoop.AtStage (s : ProtocolLoop) (stage : Stage) : Prop :=
  match s.state with
  | .awaitContext => stage = .fresh ∧ s.heartbeatSequence = 0
  | .tokenDelivered => stage = .delivered s.tokenId ∧ s.heartbeatSequence = 0
  | .active => ∃ n, stage = .running n ∧ s.heartbeatSequence = UInt64.ofNat n
  | .cancelSent => stage = .cancelled
  | .cancelAcknowledged => stage = .acknowledged

variable {s : ProtocolLoop}

theorem atStage_running {n : ℕ} (hstate : s.state = .active)
    (hcount : s.heartbeatSequence = UInt64.ofNat n) : s.AtStage (.running n) := by
  rw [ProtocolLoop.AtStage, hstate]
  exact ⟨n, rfl, hcount⟩

/-- The worker has been asked to stop. -/
abbrev Cancelled (state : ProtocolState) : Prop :=
  state = .cancelSent ∨ state = .cancelAcknowledged

/-- The loop and the abstract protocol agree, and every cancellation asked for has left
its mark: the loop is in a cancelled state, with a failure to report. -/
structure Tracks (s : ProtocolLoop) : Prop where
  stage : ∃ stage, Stage.fresh.follow s.calls = some stage ∧ s.AtStage stage
  failure : Cancelled s.state → s.failure ≠ ""
  asked : s.asked ≠ [] → Cancelled s.state

/-- A cancellation in the middle of a handler, where calls have been made and the state
is still the one before them. -/
theorem tracks_of_cancel {reason : String} (answers : ProtocolAnswers)
    (hstage : Stage.fresh.follow s.calls = some stage) (hopen : stage.Open)
    (hgoing : ¬Cancelled s.state) (hreason : reason ≠ "") :
    Tracks (requestProtocolCancel answers reason s) := by
  unfold requestProtocolCancel
  dsimp only
  rw [if_neg hgoing]
  refine ⟨⟨.cancelled, ?_, rfl⟩, fun _ => ?_, fun _ => .inl rfl⟩
  · show Stage.fresh.follow (s.calls ++ [_, _]) = _
    rw [Stage.follow_append, hstage]
    show (stage.next (.cancelRequested reason _)).bind _ = _
    have hnext : stage.next (.cancelRequested reason answers.cancelNow) = some .cancelled := by
      cases stage with
      | cancelled | acknowledged => exact hopen.elim
      | _ => rfl
    rw [hnext]
    rfl
  · rw [if_neg (fun h => hreason h.2)]
    exact hreason

/-- Nothing has been asked of a loop that is not cancelled. -/
theorem Tracks.clean (h : Tracks s) (hgoing : ¬Cancelled s.state) : s.asked = [] :=
  by_contra fun hne => hgoing (h.asked hne)

theorem tracks_of_clean (hfollow : Stage.fresh.follow s.calls = some stage)
    (hstage : s.AtStage stage) (hgoing : ¬Cancelled s.state) (hclean : s.asked = []) : Tracks s :=
  ⟨⟨stage, hfollow, hstage⟩, fun hcancelled => absurd hcancelled hgoing,
    fun hne => absurd hclean hne⟩

/-- A loop that tracks is at an open stage unless it has been cancelled. -/
theorem Tracks.open_stage (h : Tracks s) (hgoing : ¬Cancelled s.state) :
    ∃ stage : Stage, Stage.fresh.follow s.calls = some stage ∧ stage.Open := by
  obtain ⟨stage, hfollow, hstage⟩ := h.stage
  refine ⟨stage, hfollow, ?_⟩
  unfold ProtocolLoop.AtStage at hstage
  split at hstage
  · rw [hstage.1]
    trivial
  · rw [hstage.1]
    trivial
  · obtain ⟨n, rfl, -⟩ := hstage
    trivial
  · exact absurd (.inl ‹_›) hgoing
  · exact absurd (.inr ‹_›) hgoing

theorem Tracks.cancel (h : Tracks s) (answers : ProtocolAnswers) {reason : String}
    (hreason : reason ≠ "") : Tracks (requestProtocolCancel answers reason s) := by
  by_cases hcancelled : Cancelled s.state
  · unfold requestProtocolCancel
    dsimp only
    rw [if_pos hcancelled]
    exact ⟨h.stage, h.failure, fun _ => hcancelled⟩
  · obtain ⟨stage, hfollow, hopen⟩ := h.open_stage hcancelled
    exact tracks_of_cancel answers hfollow hopen hcancelled hreason

theorem admissionRejected_ne (grant : NativeWorkerAdmissionGrant) :
    admissionRejected grant ≠ "" := by
  unfold admissionRejected
  split
  · decide
  · intro h
    have hlength := congrArg String.toList h
    simp at hlength

section

variable (h : Tracks s)
include h

variable (c : ProtocolConfig)

theorem Tracks.contextReady (answers : ProtocolAnswers) (parsed : TextStream) :
    Tracks (onContextReady c answers parsed s) := by
  unfold onContextReady
  split
  · exact h.cancel answers (by decide)
  rename_i hstate
  rw [not_not] at hstate
  split
  · exact h.cancel answers (by decide)
  rename_i evidence _
  split
  · exact h.cancel answers (by decide)
  -- the supervisor is asked
  have hgoing : ¬Cancelled s.state := by rw [hstate]; decide
  obtain ⟨stage, hfollow, hstage⟩ := h.stage
  rw [ProtocolLoop.AtStage, hstate] at hstage
  obtain ⟨rfl, hzero⟩ := hstage
  have hasked : Stage.fresh.follow (s.calls ++ [.contextReady answers.now evidence answers.grant]) =
      some (.asked answers.grant) := by
    rw [Stage.follow_snoc hfollow]
    rfl
  dsimp only
  split
  · exact tracks_of_cancel answers hasked trivial hgoing (admissionRejected_ne _)
  split
  · exact tracks_of_cancel answers hasked trivial hgoing (by decide)
  -- the token is written to the worker
  have hwrote := Stage.follow_snoc hasked (.wroteAdmit answers.grant.tokenId
    answers.grant.effectiveCapBytes answers.admitWritten)
  rw [Stage.next, if_pos rfl] at hwrote
  split
  · rename_i hfailed
    refine tracks_of_cancel answers hwrote ?_ hgoing (by decide)
    split <;> trivial
  · rename_i hwritten
    rw [if_pos (by simpa using hwritten)] at hwrote
    exact tracks_of_clean hwrote ⟨rfl, hzero⟩ (not_or.2 ⟨nofun, nofun⟩) (h.clean hgoing)

theorem Tracks.tokenConsumed (answers : ProtocolAnswers) (parsed : TextStream) :
    Tracks (onTokenConsumed answers parsed s) := by
  unfold onTokenConsumed
  dsimp only
  split
  · exact h.cancel answers (by decide)
  rename_i hvalid
  simp only [not_or, not_not] at hvalid
  obtain ⟨hstate, -, -, hid⟩ := hvalid
  have hgoing : ¬Cancelled s.state := by rw [hstate]; decide
  obtain ⟨stage, hfollow, hstage⟩ := h.stage
  rw [ProtocolLoop.AtStage, hstate] at hstage
  obtain ⟨rfl, hzero⟩ := hstage
  have hnext := Stage.follow_snoc hfollow
    (.tokenConsumed (UInt64.ofNat (parsed.unsigned 64).1) answers.now answers.consumed)
  rw [Stage.next, if_pos (by rw [hid, UInt64.ofNat_toNat])] at hnext
  split
  · refine tracks_of_cancel answers hnext ?_ hgoing (by split <;> decide)
    split <;> trivial
  · rename_i haccepted
    simp only [not_or, Bool.not_eq_true', Bool.not_eq_false] at haccepted
    rw [if_pos haccepted.1] at hnext
    exact tracks_of_clean hnext ⟨0, rfl, hzero⟩ (not_or.2 ⟨nofun, nofun⟩) (h.clean hgoing)

theorem Tracks.heartbeat (answers : ProtocolAnswers) (parsed : TextStream) :
    Tracks (onHeartbeat c answers parsed s) := by
  unfold onHeartbeat
  dsimp only
  split
  · exact h.cancel answers (by decide)
  rename_i hvalid
  simp only [not_or, not_not] at hvalid
  obtain ⟨hstate, -, hsequence⟩ := hvalid
  split
  · exact h.cancel answers (by decide)
  rename_i evidence _
  split
  · exact h.cancel answers (by decide)
  have hgoing : ¬Cancelled s.state := by rw [hstate]; decide
  obtain ⟨stage, hfollow, hstage⟩ := h.stage
  rw [ProtocolLoop.AtStage, hstate] at hstage
  obtain ⟨n, rfl, hcount⟩ := hstage
  have hnumber : UInt64.ofNat (parsed.unsigned 64).1 = UInt64.ofNat (n + 1) := by
    rw [hsequence, UInt64.ofNat_toNat, hcount, UInt64.ofNat_add]
    rfl
  have hnext := Stage.follow_snoc hfollow
    (.heartbeat (UInt64.ofNat (parsed.unsigned 64).1) answers.now evidence answers.accepted)
  rw [Stage.next, if_pos hnumber] at hnext
  split
  · have hcancel := @tracks_of_cancel _ { s with
        heartbeatSequence := UInt64.ofNat (parsed.unsigned 64).1
        lastHeartbeat := answers.afterCallback
        calls := s.calls ++ [.heartbeat (UInt64.ofNat (parsed.unsigned 64).1) answers.now
          evidence answers.accepted] } "native_worker_protocol_watchdog_rejected" answers hnext
      (by split <;> trivial) hgoing (by decide)
    exact ⟨hcancel.stage, hcancel.failure, hcancel.asked⟩
  · rename_i haccepted
    simp only [not_or, Bool.not_eq_true', Bool.not_eq_false] at haccepted
    rw [if_pos haccepted.1] at hnext
    exact tracks_of_clean hnext (atStage_running hstate hnumber) hgoing
      (h.clean hgoing)

theorem Tracks.cancelAck (answers : ProtocolAnswers) (parsed : TextStream) :
    Tracks (onCancelAck answers parsed s) := by
  unfold onCancelAck
  split
  · exact h.cancel answers (by decide)
  rename_i hvalid
  have hstate := not_not.1 (not_or.1 hvalid).1
  obtain ⟨stage, hfollow, hstage⟩ := h.stage
  rw [ProtocolLoop.AtStage, hstate] at hstage
  obtain rfl : stage = .cancelled := hstage
  refine ⟨⟨.acknowledged, ?_, rfl⟩, fun _ => h.failure (.inl hstate), fun _ => .inr rfl⟩
  exact Stage.follow_snoc hfollow _

/-- Any line, in any state, with any answers. -/
theorem Tracks.line (answers : ProtocolAnswers) (line : List Char) :
    Tracks (processProtocolLine c answers line s) := by
  unfold processProtocolLine
  dsimp only
  split
  · exact h.cancel answers (by decide)
  split
  · exact h.cancel answers (by decide)
  split
  · exact h.contextReady c answers _
  split
  · exact h.tokenConsumed answers _
  split
  · exact h.heartbeat c answers _
  split
  · exact h.cancelAck answers _
  · exact h.cancel answers (by decide)

theorem Tracks.lines (answers : ℕ → ProtocolAnswers) (lines : List (List Char)) :
    Tracks (processLines c answers lines s) := by
  induction lines generalizing s answers with
  | nil => exact h
  | cons line lines ih => exact ih (h.line c (answers 0) line) _

theorem Tracks.pending (pending : List Char) : Tracks { s with pending := pending } :=
  ⟨h.stage, h.failure, h.asked⟩

theorem Tracks.reads (reads : List ProtocolRead) : Tracks (drainProtocol c reads s) := by
  induction reads generalizing s with
  | nil => exact h
  | cons read reads ih =>
    apply ih
    unfold drainRead
    dsimp only
    apply Tracks.lines
    apply Tracks.pending
    split
    · exact h.cancel _ (by decide)
    · exact h

theorem Tracks.timeouts (answers : ProtocolAnswers) : Tracks (checkTimeouts c answers s) := by
  unfold checkTimeouts
  split
  · exact h.cancel answers (by decide)
  split
  · exact h.cancel answers (by decide)
  split
  · exact h.cancel answers (by decide)
  · exact h

end

/-! ## Runs -/

theorem outputEnd_protocol (c : RunConfig) (answers : EndAnswers) (timedOut : Bool)
    (w : WorkerRun) : (w.outputEnd c answers timedOut).protocol = w.protocol := by
  unfold WorkerRun.outputEnd
  dsimp only
  repeat' split
  all_goals rfl

theorem finish_protocol (c : RunConfig) (answers : EndAnswers) (w : WorkerRun) :
    (w.finish c answers).protocol = (w.drainedProtocol c answers.protocol).protocol := by
  unfold WorkerRun.finish WorkerRun.plainEnd
  dsimp only
  repeat' split
  all_goals first | rfl | exact outputEnd_protocol _ _ _ _

theorem Tracks.drained (h : Tracks w.protocol) (c : RunConfig) (answers : DrainAnswers) :
    Tracks (w.drainedProtocol c answers).protocol := by
  unfold WorkerRun.drainedProtocol
  split
  · exact h
  · exact h.reads _ _

theorem Tracks.pass (h : Tracks w.protocol) (c : RunConfig) (answers : PassAnswers) :
    Tracks (w.pass c answers).protocol := by
  unfold WorkerRun.pass
  dsimp only
  split
  · exact h
  have hdrained := @Tracks.drained { w with
    wait := answers.wait
    capturedBytes := (drainOutput c.maxOutputBytes answers.output.reads w.capturedBytes).1
    outputLimitExceeded := w.outputLimitExceeded ||
      (drainOutput c.maxOutputBytes answers.output.reads w.capturedBytes).2 } h c answers.protocol
  generalize WorkerRun.drainedProtocol c answers.protocol _ = drained at hdrained ⊢
  split
  · exact hdrained
  split
  · exact hdrained
  have htimed : Tracks (drained.timedProtocol c answers.timeouts).1.protocol := by
    unfold WorkerRun.timedProtocol
    split
    · exact hdrained
    · exact hdrained.timeouts _ _
  split
  · exact htimed
  · unfold WorkerRun.observeJob
    repeat' split
    all_goals exact htimed

theorem tracks_run {c : RunConfig} {trace : List (WorkerAction × Unit)}
    (run : Run (WorkerRun.exec c) {} trace w) : Tracks w.protocol := by
  refine run.invariant (P := fun w => Tracks w.protocol) ?_ ?_
  · exact @tracks_of_clean .fresh _ rfl ⟨rfl, rfl⟩ (by decide) rfl
  intro v a w u h hexec
  cases workerStep_of_exec hexec with
  | refused | expired => exact h
  | launched => exact ⟨h.stage, h.failure, h.asked⟩
  | passed => exact h.pass c _
  | @finished answers =>
    rw [finish_protocol]
    exact h.drained c answers.protocol

/-- The protocol of a run that succeeds is active at its end. -/
theorem active_of_success {c : RunConfig} {trace : List (WorkerAction × Unit)}
    {result : NativeWorkerResult} {survives : Bool} (run : Run (WorkerRun.exec c) {} trace w)
    (hsome : c.protocol.isSome = true) (hreturned : w.phase = .returned result survives)
    (hok : result.ok = true) : w.protocol.state = .active := by
  cases run with
  | nil => cases hreturned
  | snoc run hexec =>
    -- the last step of the run is the one that returned
    rcases returned_cases run hexec hreturned with
      ⟨reason, rfl, -⟩ | ⟨answers, rfl, rfl, -, hfinished⟩
    · cases hok
    · rw [finish_protocol]
      cases hfinished with
      | failed reason cleared => cases hok
      | kept _ ok | cleared _ ok =>
        rw [ok] at hok
        cases hok
      | published cleared ok path protocol => exact (protocol hsome).2

/-- **The protocol of every run.** Whatever the worker sends, the supervisor answers and
the clock says, the calls are in order; and a run with the protocol that succeeds has
consumed its token and was never asked to cancel, so no line, token or heartbeat was
rejected and no timeout fired. -/
theorem calls_in_order {c : RunConfig} {trace : List (WorkerAction × Unit)} {w : WorkerRun}
    (run : Run (WorkerRun.exec c) {} trace w) :
    InOrder w.protocol.calls ∧
    ∀ result survives, c.protocol.isSome = true → w.phase = .returned result survives →
      result.ok = true →
      (∃ tokenId now, .tokenConsumed tokenId now true ∈ w.protocol.calls) ∧
      w.protocol.asked = [] := by
  have htracks := tracks_run run
  obtain ⟨stage, hfollow, hstage⟩ := htracks.stage
  obtain ⟨horder, hfacts⟩ := inOrder_of_follow hfollow
  refine ⟨horder, ?_⟩
  intro result survives hsome hreturned hok
  have hactive := active_of_success run hsome hreturned hok
  rw [ProtocolLoop.AtStage, hactive] at hstage
  obtain ⟨n, rfl, -⟩ := hstage
  exact ⟨hfacts.2.2.2, htracks.clean (by rw [hactive]; decide)⟩

namespace Fixture

/-- A worker that announces its context, consumes token 7, sends one heartbeat and exits. -/
def goodWorker : List WorkerAction :=
  let admitted : ProtocolAnswers :=
    { now := 1001, admitWritten := true, consumed := true, accepted := true
      afterCallback := 1001
      grant := {
        admitted := true, tokenId := 7, effectiveCapBytes := 4096
        expiresMonotonicMilliseconds := 2000 } }
  let sends (line : String) : ProtocolRead :=
    { chunk := line.toList, answers := fun _ => admitted }
  [.launch (.ok launched),
    .pass { timeouts := admitted, protocol := { reads := [
      sends ("PRISMINFER/1 CONTEXT_READY " ++ nonce.text ++ "\n"),
      sends ("PRISMINFER/1 TOKEN_CONSUMED " ++ nonce.text ++ " 7\n"),
      sends ("PRISMINFER/1 HEARTBEAT " ++ nonce.text ++ " 1\n")] } },
    .pass { timeouts := admitted, wait := .object },
    .finish {
      accounting := some true, written := true, flushed := true, exitCode := some 0
      released := true }]

end Fixture

theorem calls_in_order_on_fixture :
    ∃ (c : RunConfig) (trace : List (WorkerAction × Unit)) (w : WorkerRun)
      (result : NativeWorkerResult), Run (WorkerRun.exec c) {} trace w ∧
      w.phase = .returned result true ∧ result.ok = true ∧ w.protocol.calls.length = 4 ∧
      InOrder w.protocol.calls ∧
      (∃ tokenId now, .tokenConsumed tokenId now true ∈ w.protocol.calls) ∧
      w.protocol.asked = [] := by
  let c : RunConfig := { protocol := some { nonce := Fixture.nonce } }
  let succeeded : WorkerPhase → Bool
    | .returned result survives => survives && result.ok
    | _ => false
  obtain ⟨trace, w, run, hcheck⟩ := Run.exists_of_runActions Fixture.goodWorker
    (fun result => succeeded result.2.phase && result.2.protocol.calls.length == 4)
    (show (runActions (WorkerRun.exec c) {} Fixture.goodWorker).any _ = true by decide)
  rw [Bool.and_eq_true, beq_iff_eq] at hcheck
  obtain ⟨hsucceeded, hlength⟩ := hcheck
  dsimp only [succeeded] at hsucceeded
  split at hsucceeded
  · rename_i result survives hphase
    obtain ⟨rfl, hok⟩ := Bool.and_eq_true _ _ ▸ hsucceeded
    obtain ⟨horder, hclean⟩ := calls_in_order run
    exact ⟨c, trace, w, result, run, hphase, hok, hlength, horder,
      hclean result true rfl hphase hok⟩
  · cases hsucceeded

end PrismInfer.Runtime
