import PrismInfer.Governor.GpuAdmissionSession
import PrismInfer.Lib.Run

/-!
# Runs of a session in its process

One session, from a fresh process on: the process before it is acquired, the
acquisition, and then any interleaving of the session's operations, called on any
of its handles with any arguments, with steps of the rest of the process. A session
object may be moved; a moved-from handle has no session behind it. Destroying the
handle that has the session ends it.
-/

namespace PrismInfer.Governor

open PrismInfer.Lib

/-! ## The machine -/

/-- The critical sections of a session, with the arguments of the call. A token is
named by its slot among the token objects of the process. -/
inductive SessionOperation
  | admitPreContext (request : PreContextAdmissionRequest)
  | bindOwnedWorker (evidence : NativeWorkerContainmentIdentity)
  | admitPostContext (request : PostContextAdmissionRequest)
  | issueToken (now validity : UInt64)
  | consumeToken (slot : ℕ) (now : UInt64)
  | evaluateWatchdog (sample : SupervisorWatchdogSample)
  | cancelRequested (now : UInt64)
  | cancelAck (now : UInt64)
  | advanceCancellation (now : UInt64) (acknowledged workerExited jobTreeEmpty : Bool)
  | recordJobAbort (now : UInt64) (jobTreeEmpty : Bool)
  | recordNormalWorkerExit (now : UInt64) (jobTreeEmpty : Bool)
  | beginCleanup (now : UInt64)
  | cleanupOwned (evidence : SupervisorCleanupEvidence) (now : UInt64)
  | endOfRun (result : NativeWorkerTeardown)
  | failClosed
  | storePendingToken (slot : ℕ)
  | takePendingToken (tokenId : UInt64)

/-- What an operation returns. The answer to a consumption comes with the token as
the call found it. -/
inductive SessionAnswer
  | preContext (decision : PreContextAdmissionDecision)
  | bound (ok : Bool)
  | postContext (decision : PostContextAdmissionDecision)
  | issued (result : AdmissionTokenIssueResult)
  | consumed (found : AdmissionToken) (result : AdmissionTokenConsumeResult)
  | watchdog (decision : SupervisorWatchdogDecision)
  | cancellation (decision : CancellationDecision)
  | done (ok : Bool)
  | cleanup (state : GpuAdmissionSessionState)
  deriving DecidableEq

/-- An operation on the session, as a step of session and process. -/
def SessionImpl.run (p : AdmissionProcess) (impl : SessionImpl) :
    SessionOperation → Option (AdmissionProcess × SessionImpl × SessionAnswer)
  | .admitPreContext request =>
    let result := impl.admitPreContext request
    some (p, result.2, .preContext result.1)
  | .bindOwnedWorker evidence =>
    let result := impl.bindOwnedWorker evidence
    some (p, result.2, .bound result.1)
  | .admitPostContext request =>
    let result := impl.admitPostContext p.ledger request
    some ({ p with ledger := result.2.1 }, result.2.2, .postContext result.1)
  | .issueToken now validity =>
    let result := impl.issueToken p.ledger.consumed now validity
    some ({ p with
      ledger := { p.ledger with consumed := result.2.1 }
      tokens := p.tokens ++ result.1.token.toList }, result.2.2, .issued result.1)
  | .consumeToken slot now =>
    match p.tokens[slot]? with
    | none => none
    | some token =>
      let result := impl.consumeToken token now
      some ({ p with tokens := p.tokens.set slot result.2.1 }, result.2.2,
        .consumed token result.1)
  | .evaluateWatchdog sample =>
    let result := impl.evaluateWatchdog sample
    some (p, result.2, .watchdog result.1)
  | .cancelRequested now => some (p, impl.cancelRequested now, .done true)
  | .cancelAck now =>
    let result := impl.advanceCancellation now true false false
    some (p, result.2, .cancellation result.1)
  | .advanceCancellation now acknowledged workerExited jobTreeEmpty =>
    let result := impl.advanceCancellation now acknowledged workerExited jobTreeEmpty
    some (p, result.2, .cancellation result.1)
  | .recordJobAbort now jobTreeEmpty =>
    let result := impl.recordJobAbort now jobTreeEmpty
    some (p, result.2, .cancellation result.1)
  | .recordNormalWorkerExit now jobTreeEmpty =>
    let result := impl.recordNormalWorkerExit now jobTreeEmpty
    some (p, result.2, .done result.1)
  | .beginCleanup now =>
    let result := impl.beginCleanup now
    some (p, result.2, .done result.1)
  | .cleanupOwned evidence now =>
    let result := impl.cleanupOwned p.registry evidence now
    some ({ p with registry := result.2.1 }, result.2.2, .cleanup result.1)
  | .endOfRun result => some (p, impl.endOfRun result, .done true)
  | .failClosed => some (p, impl.failClosed, .done false)
  | .storePendingToken slot =>
    match p.tokens[slot]? with
    | none => none
    | some token =>
      some ({ p with tokens := p.tokens.set slot .invalidated }, impl.storePendingToken token,
        .done true)
  | .takePendingToken tokenId =>
    let result := impl.takePendingToken tokenId
    some ({ p with tokens := p.tokens ++ result.1.toList }, result.2, .done result.1.isSome)

/-- What an operation returns on a handle that was moved from. -/
def SessionOperation.withoutSession : SessionOperation → SessionAnswer
  | .admitPreContext _ =>
    .preContext { reason := "supervisor_pre_context_state_or_identity_mismatch" }
  | .bindOwnedWorker _ => .bound false
  | .admitPostContext _ =>
    .postContext { reason := "supervisor_post_context_state_or_identity_mismatch" }
  | .issueToken _ _ => .issued { status := .supervisorStateInvalid }
  | .consumeToken _ _ => .consumed {} { status := .supervisorStateInvalid }
  | .evaluateWatchdog _ => .watchdog {}
  | .cancelAck _ | .advanceCancellation _ _ _ _ | .recordJobAbort _ _ => .cancellation {}
  | .cleanupOwned _ _ => .cleanup .failedClosed
  | .cancelRequested _ | .recordNormalWorkerExit _ _ | .beginCleanup _ | .endOfRun _
  | .failClosed | .storePendingToken _ | .takePendingToken _ => .done false

/-- The process, the session once it is acquired and until it is destroyed, and the
handles: how many there are, and which one has the session. -/
structure SessionWorld where
  process : AdmissionProcess := {}
  session : Option SessionImpl := none
  owner : ℕ := 0
  handles : ℕ := 0

inductive SessionAction
  | process (action : ProcessAction)
  | acquire (cell : AdmissionCellIdentity) (high : Int32) (low : UInt32) (answer : OsAnswer)
  | call (handle : ℕ) (operation : SessionOperation)
  | move (handle : ℕ)
  | destroy (handle : ℕ)

/-- What a step shows. A call on a handle that was moved from is answered without a
session. -/
inductive SessionOutcome
  | silent
  | leaseReturned (high : Int32) (low : UInt32) (status : ExclusiveGpuLeaseStatus)
  | sessionReturned (status : SessionAcquireStatus)
  | answered (answer : SessionAnswer)
  | detached (answer : SessionAnswer)
  deriving DecidableEq

/-- What a step of the rest of the process shows. -/
def ProcessAction.outcome (status : Option ExclusiveGpuLeaseStatus) :
    ProcessAction → SessionOutcome
  | .acquireLease high low _ =>
    match status with
    | none => .silent
    | some status => .leaseReturned high low status
  | _ => .silent

/-- One step. The session is acquired once; the rest of the process may hold any
number of other leases. -/
def SessionWorld.exec (w : SessionWorld) : SessionAction → Option (SessionWorld × SessionOutcome)
  | .process action =>
    match w.process.step action with
    | none => none
    | some (p, status) => some ({ w with process := p }, action.outcome status)
  | .acquire cell high low answer =>
    if w.handles ≠ 0 then none
    else
    match acquireGpuAdmissionSession w.process cell high low answer with
    | (status, p, none) => some ({ w with process := p }, .sessionReturned status)
    | (status, p, some impl) =>
      some ({ process := p, session := some impl, owner := 0, handles := 1 },
        .sessionReturned status)
  | .call handle operation =>
    if handle ≥ w.handles then none
    else if handle ≠ w.owner then some (w, .detached operation.withoutSession)
    else
    match w.session with
    | none => none
    | some impl =>
      match impl.run w.process operation with
      | none => none
      | some (p, impl, answer) =>
        some ({ w with process := p, session := some impl }, .answered answer)
  | .move handle =>
    if handle ≥ w.handles then none
    else
      some ({ w with
        owner := if handle = w.owner then w.handles else w.owner
        handles := w.handles + 1 }, .silent)
  | .destroy handle =>
    if handle ≥ w.handles then none
    else if handle ≠ w.owner then some (w, .silent)
    else
    match w.session with
    | none => none
    | some impl =>
      some ({ w with
        process := { w.process with registry := impl.destroyed w.process.registry }
        session := none }, .silent)

end PrismInfer.Governor
