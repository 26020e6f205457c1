import PrismInfer.Governor.SessionCleanup
import PrismInfer.Runtime.SucceededRun
import PrismInfer.Validation.LastGood

/-!
# A worker that a session contains

`GpuAdmissionSession::run_contained_worker` (src/governor/gpu_admission_session.cpp:341–650)
joins two machines: the run of the native worker, whose protocol makes the calls, and the
session, whose callbacks answer them. The run records every call with its answer; a run
of the session over the recorded calls is one in which each answer is the session's own.

Both machines are followed to the end of a run that succeeds. The protocol is then active,
after some number of heartbeats, and the state of the session depends on whether that
number is zero.
-/

namespace PrismInfer.Validation

open PrismInfer.Lib PrismInfer.Governor PrismInfer.Runtime

/-! ## The session's side -/

/-- What the callbacks work on. -/
structure SessionSide where
  impl : SessionImpl
  ledger : ReceiptLedger

/-- What one callback gets from outside: the evidence of its providers, if they return in
time, and the clock. -/
structure CallbackInputs where
  post : Option (PostContextAdmissionRequest × ProcessDeviceMemorySample) := none
  watchdog : Option (SupervisorWatchdogSample × ProcessDeviceMemorySample) := none
  clock : CallbackClock := ⟨0, 0⟩

/-- Without any time `bounded_evidence_call` returns nothing
(gpu_admission_session.cpp:38). -/
def CallbackPolicy.bounded {α : Type} (policy : CallbackPolicy) (evidence : Option α) : Option α :=
  if policy.heartbeatTimeoutMs = 0 then none else evidence

/-- One call of the runner, answered by the callbacks that `run_contained_worker` sets
(gpu_admission_session.cpp:384–620). There is no step if the recorded answer is not the
session's. What is written to the worker does not concern the session. -/
def SessionSide.exec (policy : CallbackPolicy) (s : SessionSide) :
    ProtocolCall × CallbackInputs → Option (SessionSide × Unit)
  | (.contextReady _ evidence grant, inputs) =>
    match s.impl.worker with
    | none => if grant = {} then some (s, ()) else none
    | some worker =>
      let answer := readyWithEvidence policy s.impl s.ledger worker.rootProcessId evidence
        inputs.clock (policy.bounded inputs.post)
      if answer.grant = grant then some (⟨answer.impl, answer.ledger⟩, ()) else none
  | (.tokenConsumed tokenId now consumed, _) =>
    let answer := consumedToken s.impl tokenId now
    if answer.1 = consumed then some ({ s with impl := answer.2 }, ()) else none
  | (.heartbeat _ now evidence accepted, inputs) =>
    match s.impl.worker, s.impl.postReceipt with
    | some worker, some receipt =>
      let answer := beatWithEvidence policy s.impl worker.rootProcessId receipt now evidence
        inputs.clock (policy.bounded inputs.watchdog)
      if answer.continued.isSome = accepted then some ({ s with impl := answer.impl }, ()) else none
    | _, _ => if accepted then none else some (s, ())
  | (.cancelRequested _ now, _) => some ({ s with impl := s.impl.cancelRequested now }, ())
  | (.cancelAcknowledged now, _) =>
    some ({ s with impl := (s.impl.advanceCancellation now true false false).2 }, ())
  | (.wroteAdmit .., _) | (.wroteCancel _, _) => some (s, ())

/-- The calls of a run of the session. -/
def callsOf (trace : List ((ProtocolCall × CallbackInputs) × Unit)) : List ProtocolCall :=
  trace.map fun step => step.1.1

theorem callsOf_snoc (trace : List ((ProtocolCall × CallbackInputs) × Unit))
    (call : ProtocolCall) (inputs : CallbackInputs) (u : Unit) :
    callsOf (trace ++ [((call, inputs), u)]) = callsOf trace ++ [call] := by
  simp [callsOf]

variable {impl : SessionImpl}

theorem consumeToken_state {token : AdmissionToken} {now : UInt64}
    (h : (impl.consumeToken token now).1.status = .consumed) :
    (impl.consumeToken token now).2.2.state = .tokenConsumed := by
  revert h
  unfold SessionImpl.consumeToken
  dsimp only
  split
  · intro h
    cases h
  split
  · intro h
    cases h
  split
  · rename_i hstatus
    intro h
    exact absurd h hstatus
  · intro _
    rfl

theorem evaluateWatchdog_state {sample : SupervisorWatchdogSample}
    (h : (impl.evaluateWatchdog sample).1.continueWork = true) :
    (impl.evaluateWatchdog sample).2.state = .watchdogActive ∧
      (impl.evaluateWatchdog sample).2.postReceipt = impl.postReceipt := by
  revert h
  unfold SessionImpl.evaluateWatchdog
  split
  · intro h
    cases h
  dsimp only
  split
  · intro h
    cases h
  split
  · intro _
    exact ⟨rfl, rfl⟩
  · rename_i hstopped
    intro h
    exact absurd h hstopped

section Session

variable {policy : CallbackPolicy} {s s' : SessionSide} {inputs : CallbackInputs} {u : Unit}

/-- A token that is consumed leaves the session at `TokenConsumed`. -/
theorem state_of_consumed {tokenId now : UInt64}
    (h : s.exec policy (.tokenConsumed tokenId now true, inputs) = some (s', u)) :
    s'.impl.state = .tokenConsumed := by
  simp only [SessionSide.exec] at h
  split at h
  · rename_i hconsumed
    cases h
    revert hconsumed
    dsimp only
    unfold consumedToken
    split
    · intro hconsumed
      cases hconsumed
    · intro hconsumed
      exact consumeToken_state (beq_iff_eq.1 hconsumed)
  · cases h

/-- A heartbeat that is accepted leaves it at `WatchdogActive`, with its Stage-B receipt. -/
theorem state_of_beat {sequence now : UInt64} {evidence : NativeWorkerHeartbeatEvidence}
    (h : s.exec policy (.heartbeat sequence now evidence true, inputs) = some (s', u)) :
    s'.impl.state = .watchdogActive ∧ s'.impl.postReceipt.isSome = true := by
  simp only [SessionSide.exec] at h
  split at h
  · rename_i worker receipt hworker hreceipt
    split at h
    · rename_i haccepted
      cases h
      revert haccepted
      dsimp only
      unfold beatWithEvidence
      split
      · intro haccepted
        cases haccepted
      dsimp only
      split
      · rename_i sample hsample hcontinued
        intro _
        obtain ⟨hstate, hpost⟩ := evaluateWatchdog_state hcontinued
        rw [hstate, hpost, hreceipt]
        exact ⟨rfl, rfl⟩
      · intro haccepted
        cases haccepted
    · cases h
  · cases h

/-- Where the session is when the protocol is active: the last call to it was the one that
consumed the token, or a heartbeat. -/
theorem state_of_running {trace : List ((ProtocolCall × CallbackInputs) × Unit)} {n : ℕ}
    (run : Run (SessionSide.exec policy) s trace s')
    (hrunning : Stage.fresh.follow (callsOf trace) = some (.running n)) :
    n = 0 ∧ s'.impl.state = .tokenConsumed ∨
      n ≠ 0 ∧ s'.impl.state = .watchdogActive ∧ s'.impl.postReceipt.isSome = true := by
  cases run with
  | nil => cases hrunning
  | snoc run hexec =>
    rename_i before t a u
    obtain ⟨call, inputs⟩ := a
    rw [callsOf_snoc, Stage.follow_append, Option.bind_eq_some_iff] at hrunning
    obtain ⟨stage, -, hlast⟩ := hrunning
    have hnext : stage.next call = some (.running n) := by
      obtain ⟨stage', hnext, hend⟩ := Option.bind_eq_some_iff.1 hlast
      cases hend
      exact hnext
    unfold Stage.next at hnext
    split at hnext
    · cases hnext
    · split at hnext
      · split at hnext <;> cases hnext
      · cases hnext
    · split at hnext
      · split at hnext
        · rename_i hconsumed
          cases hnext
          subst hconsumed
          exact .inl ⟨rfl, state_of_consumed hexec⟩
        · cases hnext
      · cases hnext
    · split at hnext
      · split at hnext
        · rename_i haccepted
          cases hnext
          subst haccepted
          exact .inr ⟨Nat.succ_ne_zero _, state_of_beat hexec⟩
        · cases hnext
      · cases hnext
    · cases hnext
    · cases hnext
    · split at hnext <;> cases hnext
    · cases hnext

end Session

/-! ## The call -/

/-- What `run_contained_worker` depends on besides the session: whether the two providers are
set, the request, and the nonce that the runner draws. -/
structure ContainedRequest where
  postContextEvidence : Bool := true
  watchdogEvidence : Bool := true
  tokenValidityMilliseconds : UInt64 := 0
  requireGpuProtocolEvidence : Bool := false
  expectedPostAdmissionPayloadBytes : UInt64 := 0
  maximumPostAdmissionPayloadBytes : UInt64 := 0
  maxOutputBytes : ℕ := 0
  simulateTerminationApiFailure : Bool := false
  nonce : ProtocolNonce

namespace ContainedRequest

/-- The protocol's deadlines come from the receipt (gpu_admission_session.cpp:371–382). -/
def runConfig (request : ContainedRequest) (timing : SupervisorTimingPolicy) : RunConfig :=
  { protocol := some
      { nonce := request.nonce
        requireGpuProtocolEvidence := request.requireGpuProtocolEvidence
        expectedPostAdmissionPayloadBytes := request.expectedPostAdmissionPayloadBytes
        maximumPostAdmissionPayloadBytes := request.maximumPostAdmissionPayloadBytes
        contextReadyTimeoutMs := timing.maximumGuardAgeMilliseconds.toUInt32
        heartbeatTimeoutMs := timing.maximumGuardAgeMilliseconds.toUInt32
        cooperativeCancelAckTimeoutMs := timing.cooperativeCancelAckMilliseconds.toUInt32
        workerExitTimeoutMs := timing.workerExitMilliseconds.toUInt32 }
    maxOutputBytes := request.maxOutputBytes
    simulateTerminationApiFailure := request.simulateTerminationApiFailure }

def policy (request : ContainedRequest) (timing : SupervisorTimingPolicy) : CallbackPolicy :=
  { requireGpuProtocolEvidence := request.requireGpuProtocolEvidence
    expectedPostAdmissionPayloadBytes := request.expectedPostAdmissionPayloadBytes
    maximumPostAdmissionPayloadBytes := request.maximumPostAdmissionPayloadBytes
    heartbeatTimeoutMs := timing.maximumGuardAgeMilliseconds.toUInt32
    tokenValidityMilliseconds := request.tokenValidityMilliseconds }

/-- What is refused before the session is looked at (gpu_admission_session.cpp:348–353). -/
def Invalid (request : ContainedRequest) : Prop :=
  request.tokenValidityMilliseconds = 0 ∨ request.postContextEvidence = false ∨
    request.watchdogEvidence = false

end ContainedRequest

/-- What a launch does to the session, which is asked to take the worker in when the job
holds it and it is still suspended (native_worker.cpp:1042–1060). -/
inductive Launches (impl : SessionImpl) : Except String Launched → SessionImpl → Prop
  | unasked (reason : String) : Launches impl (.error reason) impl
  | failed (reason : String) (identity : NativeWorkerContainmentIdentity) :
      Launches impl (.error reason) (impl.bindOwnedWorker identity).2
  | resumed {launched : Launched} {identity : NativeWorkerContainmentIdentity}
      (process : identity.rootProcessId = launched.rootProcessId)
      (job : identity.jobIdentity = launched.jobIdentity)
      (bound : (impl.bindOwnedWorker identity).1 = true) :
      Launches impl (.ok launched) (impl.bindOwnedWorker identity).2

/-- `run_contained_worker` with no other thread at the session: the bytes that the worker
sends on the protocol's pipe, the result, and the session when the call returns. -/
inductive RunContainedWorker (request : ContainedRequest) (s : SessionSide) :
    List Char → NativeWorkerResult → SessionSide → Prop
  | invalid (refused : request.Invalid) :
      RunContainedWorker request s [] (fail "supervisor_worker_request_invalid") s
  | unadmitted (valid : ¬request.Invalid)
      (state : s.impl.preReceipt = none ∨ s.impl.state ≠ .preContextAdmitted) :
      RunContainedWorker request s [] (fail "supervisor_pre_context_receipt_required") s
  | ran {receipt : PreContextAdmissionReceipt} {answer : Except String Launched}
      {bound : SessionImpl} {trace : List (WorkerAction × Unit)} {worker : WorkerRun}
      {calls : List ((ProtocolCall × CallbackInputs) × Unit)} {side : SessionSide}
      {result : NativeWorkerResult} {survives : Bool}
      (valid : ¬request.Invalid) (state : s.impl.state = .preContextAdmitted)
      (admitted : s.impl.preReceipt = some receipt) (launch : Launches s.impl answer bound)
      (run : Run (WorkerRun.exec (request.runConfig receipt.timing)) {}
        ((.launch answer, ()) :: trace) worker)
      (returned : worker.phase = .returned result survives)
      (session : Run (SessionSide.exec (request.policy receipt.timing)) ⟨bound, s.ledger⟩ calls
        side)
      (answered : callsOf calls = worker.protocol.calls) :
      RunContainedWorker request s (sentBytes trace) result
        { side with impl := side.impl.endOfRun result.teardown }

/-! ## The session after a run that succeeds -/

/-- A cleanup at this time is in time for a cancellation on record. -/
def WithinDeadlines (impl : SessionImpl) (now : UInt64) : Prop :=
  ∀ receipt, impl.postReceipt = some receipt → impl.cancelRequestedMonotonicMilliseconds ≠ 0 →
    impl.cancelRequestedMonotonicMilliseconds ≤ now ∧
    now - impl.cancelRequestedMonotonicMilliseconds ≤ receipt.timing.cleanupMilliseconds

/-- The worker's exit is on record, and a cleanup with complete evidence and in time ends in
`Cleaned`. -/
def Cleanable (impl : SessionImpl) : Prop :=
  impl.state = .workerExited ∧ ∀ registry evidence now, now ≠ 0 →
    DeviceCleanupEvidence.Good evidence → WithinDeadlines impl now →
    (impl.finalizeCleanup registry evidence now).1 = .cleaned

theorem cleanable_endOfRun (hstate : impl.state = .watchdogActive)
    (hreceipt : impl.postReceipt.isSome = true) :
    Cleanable (impl.endOfRun ⟨true, true, true, true, true⟩) := by
  let exited : SessionImpl := { impl with
    pendingToken := none
    ownedTeardown := ⟨true, true, true, true, true⟩
    state := .workerExited }
  have hend : impl.endOfRun ⟨true, true, true, true, true⟩ = exited := by
    simp [SessionImpl.endOfRun, hstate, exited]
  rw [hend]
  refine ⟨rfl, ?_⟩
  intro registry evidence now hnow hevidence htimely
  obtain ⟨receipt, hpost⟩ := Option.isSome_iff_exists.1 hreceipt
  have hbegun : (exited.beginCleanup now).1 = true := by
    simp [SessionImpl.beginCleanup, hnow, exited]
  have hready : exited.CleanupReady now := ⟨rfl, receipt, hpost, htimely receipt hpost⟩
  exact ((cleaned_of_begun_iff hbegun hnow hevidence registry).2 hready).1

/-- **The session after a run that succeeds.** A call of `run_contained_worker` that returns
`ok` leaves a session that can be cleaned up exactly when the worker has sent a heartbeat.
Without one the session stays at `TokenConsumed`, which is not among the states that the
end of the run turns into `WorkerExited`. -/
theorem contained_success_cleanable_iff {request : ContainedRequest} {s s' : SessionSide}
    {sent : List Char} {result : NativeWorkerResult}
    (h : RunContainedWorker request s sent result s') (hok : result.ok = true) :
    Cleanable s'.impl ↔ ∃ line ∈ (takeLines [] sent).1, IsHeartbeat line := by
  cases h with
  | invalid => cases hok
  | unadmitted => cases hok
  | ran valid state admitted launch run returned session answered =>
    obtain ⟨hteardown, hfollow⟩ := succeeded_run rfl run returned hok
    rw [← answered] at hfollow
    rw [hteardown]
    have hsent : ∀ answer trace, sentBytes ((.launch answer, ()) :: trace) = sentBytes trace :=
      fun _ _ => rfl
    rw [hsent] at hfollow
    rcases state_of_running session hfollow with ⟨hnone, hstate⟩ | ⟨hsome, hstate, hreceipt⟩
    · refine iff_of_false ?_ ?_
      · rintro ⟨hexited, -⟩
        simp [SessionImpl.endOfRun, hstate] at hexited
      · rintro ⟨line, hmem, hline⟩
        exact List.countP_eq_zero.1 hnone line hmem (decide_eq_true hline)
    · refine iff_of_true (cleanable_endOfRun hstate hreceipt) ?_
      obtain ⟨line, hmem, hline⟩ := List.countP_pos_iff.1 (Nat.pos_of_ne_zero hsome)
      exact ⟨line, hmem, of_decide_eq_true hline⟩

/-! ## Two workers -/

/-- A call is known once the actions of both machines are. -/
theorem ran_of_actions {request : ContainedRequest} {s : SessionSide}
    {receipt : PreContextAdmissionReceipt} {launched : Launched}
    {identity : NativeWorkerContainmentIdentity} (valid : ¬request.Invalid)
    (state : s.impl.state = .preContextAdmitted) (admitted : s.impl.preReceipt = some receipt)
    (process : identity.rootProcessId = launched.rootProcessId)
    (job : identity.jobIdentity = launched.jobIdentity)
    (bound : (s.impl.bindOwnedWorker identity).1 = true) (actions : List WorkerAction)
    (calls : List (ProtocolCall × CallbackInputs)) (check : NativeWorkerResult → SessionImpl → Bool)
    (h : (runActions (WorkerRun.exec (request.runConfig receipt.timing)) {}
        (.launch (.ok launched) :: actions)).any (fun ended =>
      match ended.2.phase with
      | .returned result _ =>
        (runActions (SessionSide.exec (request.policy receipt.timing))
          ⟨(s.impl.bindOwnedWorker identity).2, s.ledger⟩ calls).any fun answered =>
            calls.map Prod.fst == ended.2.protocol.calls &&
              check result (answered.2.impl.endOfRun result.teardown)
      | _ => false) = true) :
    ∃ result s', RunContainedWorker request s (actions.flatMap WorkerAction.sent) result s' ∧
      check result s'.impl = true := by
  rw [Option.any_eq_true] at h
  obtain ⟨⟨trace, worker⟩, hworker, h⟩ := h
  split at h
  · rename_i result survives hreturned
    rw [Option.any_eq_true] at h
    obtain ⟨⟨answers, side⟩, hside, h⟩ := h
    rw [Bool.and_eq_true, beq_iff_eq] at h
    -- the first step of the trace is the launch
    have hactions := runActions_actions hworker
    match trace, hactions with
    | (_, ()) :: trace, hactions =>
      rw [List.map_cons, List.cons.injEq] at hactions
      obtain ⟨rfl, rfl⟩ := hactions
      have hcalls : callsOf answers = worker.protocol.calls := by
        rw [← h.1, ← runActions_actions hside, callsOf, List.map_map]
        rfl
      have hrun := RunContainedWorker.ran valid state admitted
        (.resumed process job bound) (Run.of_runActions hworker) hreturned
        (Run.of_runActions hside) hcalls
      refine ⟨result, { side with impl := side.impl.endOfRun result.teardown }, ?_, h.2⟩
      rw [List.flatMap_map]
      exact hrun
  · cases h

namespace Fixture

open Governor.Fixture

/-- The session of the unit tests up to its Stage A. -/
def stageA : List SessionAction :=
  [.acquire cell 7 11 (.granted 1), .call 0 (.admitPreContext preRequest)]

/-- The process and the session after it. -/
def stageAEnd : List (SessionAction × SessionOutcome) × SessionWorld :=
  (runActions SessionWorld.exec {} stageA).get (by decide)

def stageASide : SessionSide :=
  ⟨stageAEnd.2.session.get (by decide), stageAEnd.2.process.ledger⟩

def stageAReceipt : PreContextAdmissionReceipt :=
  stageASide.impl.preReceipt.get (by decide)

theorem stageASide_reached : Run SessionWorld.exec {} stageAEnd.1 stageAEnd.2 ∧
      stageAEnd.2.session = some stageASide.impl :=
  ⟨Run.of_runActions
    (show runActions SessionWorld.exec {} stageA = some stageAEnd from (Option.some_get _).symm),
    (Option.some_get (show stageAEnd.2.session.isSome = true by decide)).symm⟩

def containedRequest : ContainedRequest :=
  { tokenValidityMilliseconds := 100, nonce := Runtime.Fixture.nonce }

def containedLaunch : Launched :=
  { Runtime.Fixture.launched with protocolStarted := 10200 }

def containedIdentity : NativeWorkerContainmentIdentity :=
  ⟨42, "job:1:42:1000", "worker", 1, kGiB, 1000⟩

def containedGrant : NativeWorkerAdmissionGrant :=
  { admitted := true
    tokenId := 1
    effectiveCapBytes := 8 * kGiB
    expiresMonotonicMilliseconds := 10400 }

/-- A worker that announces its context, consumes its token, sends the given lines and exits
with code 0. -/
def containedWorker (more : List String) : List WorkerAction :=
  let sends (now : UInt64) (line : String) : ProtocolRead :=
    { chunk := line.toList
      answers := fun _ =>
        { now := now, afterCallback := now, admitWritten := true, consumed := true
          accepted := true, grant := containedGrant } }
  let admission :=
    [sends 10300 ("PRISMINFER/1 CONTEXT_READY " ++ Runtime.Fixture.nonce.text ++ "\n"),
      sends 10350 ("PRISMINFER/1 TOKEN_CONSUMED " ++ Runtime.Fixture.nonce.text ++ " 1\n")]
  [.pass
      { timeouts := { now := 10400 }
        protocol := { reads := admission ++ more.map (sends 10400) } },
    .pass { timeouts := { now := 10400 }, wait := .object },
    .finish {
      accounting := some true, written := true, flushed := true, exitCode := some 0
      released := true }]

def heartbeat : String :=
  "PRISMINFER/1 HEARTBEAT " ++ Runtime.Fixture.nonce.text ++ " 1\n"

/-- The calls that admit the worker, with the evidence that the providers give. -/
def containedCalls : List (ProtocolCall × CallbackInputs) :=
  [(.contextReady 10300 {} containedGrant,
      { post := some (postRequest, processAt 10200), clock := ⟨10300, 10300⟩ }),
    (.wroteAdmit 1 (8 * kGiB) true, {}), (.tokenConsumed 1 10350 true, {})]

def heartbeatCall : ProtocolCall × CallbackInputs :=
  (.heartbeat 1 10400 {} true,
    { watchdog := some (watchdogSampleFor (14 * kGiB), processAt 10300), clock := ⟨10400, 10400⟩ })

theorem exists_contained (more : List String) (calls : List (ProtocolCall × CallbackInputs))
    (check : NativeWorkerResult → SessionImpl → Bool)
    (h : (runActions (WorkerRun.exec (containedRequest.runConfig stageAReceipt.timing)) {}
        (.launch (.ok containedLaunch) :: containedWorker more)).any (fun ended =>
      match ended.2.phase with
      | .returned result _ =>
        (runActions (SessionSide.exec (containedRequest.policy stageAReceipt.timing))
          ⟨(stageASide.impl.bindOwnedWorker containedIdentity).2, stageASide.ledger⟩
          calls).any fun answered =>
            calls.map Prod.fst == ended.2.protocol.calls &&
              check result (answered.2.impl.endOfRun result.teardown)
      | _ => false) = true) :
    ∃ result s', RunContainedWorker containedRequest stageASide
        ((containedWorker more).flatMap WorkerAction.sent) result s' ∧
      check result s'.impl = true := by
  refine ran_of_actions ?_ ?_ (Option.some_get _).symm rfl rfl ?_ (containedWorker more) calls
    check h
  · rintro (h | h | h) <;> cases h
  · decide
  · decide

end Fixture

/-- A worker that exits with code 0 after it has consumed its token: the run is reported as
successful, and every cleanup of the session quarantines it. -/
theorem successful_run_quarantined :
    ∃ request trace w s sent result s', Run SessionWorld.exec {} trace w ∧
      w.session = some s.impl ∧ s.impl.state = .preContextAdmitted ∧
      RunContainedWorker request s sent result s' ∧ result.ok = true ∧
      s'.impl.state = .tokenConsumed ∧
      ∀ registry evidence now, now ≠ 0 →
        (s'.impl.finalizeCleanup registry evidence now).1 = .quarantined := by
  obtain ⟨result, s', hcontained, hcheck⟩ := Fixture.exists_contained [] Fixture.containedCalls
    (fun result impl => result.ok && impl.state == .tokenConsumed) (by decide)
  rw [Bool.and_eq_true, beq_iff_eq] at hcheck
  obtain ⟨hok, hstate⟩ := hcheck
  obtain ⟨hrun, hsession⟩ := Fixture.stageASide_reached
  refine ⟨_, _, _, _, _, result, s', hrun, hsession, by decide, hcontained, hok, hstate, ?_⟩
  intro registry evidence now hnow
  simp [SessionImpl.finalizeCleanup, SessionImpl.beginCleanup, hnow, hstate,
    SessionImpl.quarantineLease]

/-- The same worker with one heartbeat. -/
theorem contained_success_cleanable :
    ∃ request s sent result s', RunContainedWorker request s sent result s' ∧
      result.ok = true ∧ Cleanable s'.impl := by
  obtain ⟨result, s', hcontained, hok⟩ := Fixture.exists_contained [Fixture.heartbeat]
    (Fixture.containedCalls ++ [Fixture.heartbeatCall]) (fun result _ => result.ok)
    (by decide)
  refine ⟨_, _, _, result, s', hcontained, hok,
    (contained_success_cleanable_iff hcontained hok).2 ?_⟩
  refine ⟨("PRISMINFER/1 HEARTBEAT " ++ Runtime.Fixture.nonce.text ++ " 1").toList, ?_, ?_⟩
  · decide
  · decide

end PrismInfer.Validation
