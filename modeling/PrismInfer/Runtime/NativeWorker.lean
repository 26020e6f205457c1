import PrismInfer.Lib.Run
import PrismInfer.Runtime.WorkerProtocol

/-!
# A run of the native worker

`run_native_worker_impl` (src/runtime/native_worker.cpp:651–1561) as a machine: the
launch, any number of passes of the supervision loop, and the end of the run, which
returns the result. What the operating system answers is part of each action. The
temporary output file survives the call exactly when it was released for publication;
every other return destroys the artifact and with it the file.
-/

namespace PrismInfer.Runtime

open PrismInfer.Lib

/-! ## Data -/

/-- `NativeWorkerResult`, without the captured bytes and the memory, process and
transfer statistics. -/
structure NativeWorkerResult where
  ok : Bool := false
  failureReason : String := ""
  outputPath : String := ""
  exitCode : UInt32 := 0
  (timedOut workerExitObserved jobTreeEmpty jobAccountingReconciled perProcessMemoryReconciled
    artifactHandlesClosed temporaryFilesReconciled : Bool := false)
  rootProcessId : UInt32 := 0
  jobIdentity : String := ""
  contextEvidence : NativeWorkerContextEvidence := {}
  lastHeartbeatEvidence : NativeWorkerHeartbeatEvidence := {}
  tokenConsumedObserved : Bool := false
  heartbeatSequence : UInt64 := 0
  deriving DecidableEq

/-- `fail` (native_worker.cpp:207–211). -/
def fail (reason : String) : NativeWorkerResult :=
  { failureReason := reason }

/-- What a launch sets before the loop: the temporary output file, the suspended
process in its job, and the start of the protocol's clock. -/
structure Launched where
  outputPath : String
  outputPath_ne : outputPath ≠ ""
  rootProcessId : UInt32
  jobIdentity : String
  protocolStarted : UInt64

/-- What the run depends on; there is a protocol when it is enabled. -/
structure RunConfig where
  protocol : Option ProtocolConfig := none
  maxOutputBytes : ℕ := 0
  simulateTerminationApiFailure : Bool := false

/-- What `WaitForSingleObject` says. -/
inductive WaitResult
  | object
  | timeout
  | failed
  deriving DecidableEq

/-- The reads of one `drain_output`, and whether one of its calls failed. -/
structure OutputAnswers where
  reads : List ℕ := []
  failed : Bool := false

/-- One read of the protocol pipe with the answers to what it brings. -/
structure ProtocolRead where
  chunk : List Char
  exceeded : ProtocolAnswers := {}
  answers : ℕ → ProtocolAnswers

/-- The reads of one `drain_protocol`, and whether one of its calls failed. -/
structure DrainAnswers where
  reads : List ProtocolRead := []
  failed : Bool := false

/-- One pass of the loop: the wait, the two pipes, the timeouts, the sample of the job
tree and the number of its active processes. -/
structure PassAnswers where
  wait : WaitResult := .timeout
  output : OutputAnswers := {}
  protocol : DrainAnswers := {}
  timeouts : ProtocolAnswers := {}
  sampled : Bool := true
  activeProcesses : Option UInt32 := some 0

/-- The end of the run: the last drain, `terminate_job_tree`, the accounting with its
per-process verdict, the clock against the deadline, and the output file. -/
structure EndAnswers where
  protocol : DrainAnswers := {}
  terminated : Bool := false
  accounting : Option Bool := none
  pastDeadline : Bool := false
  output : OutputAnswers := {}
  written : Bool := false
  flushed : Bool := false
  exitCode : Option UInt32 := none
  released : Bool := false

/-- Where the function is. A returned result comes with whether the output file
survives the call. -/
inductive WorkerPhase
  | starting
  | looping
  | left
  | returned (result : NativeWorkerResult) (survives : Bool)
  deriving DecidableEq

structure WorkerRun where
  phase : WorkerPhase := .starting
  result : NativeWorkerResult := {}
  protocol : ProtocolLoop := {}
  capturedBytes : ℕ := 0
  wait : WaitResult := .timeout
  (outputLimitExceeded treeComplete jobQueryFailed : Bool := false)

/-! ## The loop -/

/-- `drain_output` (native_worker.cpp:1278–1301): the bytes captured, and whether the
limit was exceeded. -/
def drainOutput (limit : ℕ) : List ℕ → ℕ → ℕ × Bool
  | [], captured => (captured, false)
  | read :: reads, captured =>
    if captured + read > limit then (captured, true) else drainOutput limit reads (captured + read)

/-- `drain_protocol` (native_worker.cpp:1302–1331), all its reads. -/
def drainProtocol (c : ProtocolConfig) : List ProtocolRead → ProtocolLoop → ProtocolLoop
  | [], s => s
  | read :: reads, s =>
    drainProtocol c reads (drainRead c read.chunk read.exceeded read.answers s)

namespace WorkerRun

/-- Return from the function; the artifact's destructor removes the file. -/
def returning (w : WorkerRun) (result : NativeWorkerResult) : WorkerRun :=
  { w with phase := .returned result false }

/-- Drain the protocol's pipe, if there is one. -/
def drainedProtocol (c : RunConfig) (answers : DrainAnswers) (w : WorkerRun) : WorkerRun :=
  match c.protocol with
  | none => w
  | some config => { w with protocol := drainProtocol config answers.reads w.protocol }

/-- The pipe of the protocol could not be read. -/
def protocolFailed (c : RunConfig) (answers : DrainAnswers) : Bool :=
  c.protocol.isSome && answers.failed

/-- The protocol's part of a pass: the timeouts, and whether the loop is left. -/
def timedProtocol (c : RunConfig) (answers : ProtocolAnswers) (w : WorkerRun) :
    WorkerRun × Bool :=
  match c.protocol with
  | none => (w, false)
  | some config =>
    let protocol := checkTimeouts config answers w.protocol
    ({ w with protocol := protocol }, cancelExpired config answers.now protocol)

/-- The job's part of a pass (native_worker.cpp:1381–1401). -/
def observeJob (answers : PassAnswers) (w : WorkerRun) : WorkerRun :=
  if !answers.sampled then { w with jobQueryFailed := true, phase := .left }
  else
  match answers.wait with
  | .object =>
    match answers.activeProcesses with
    | none => { w with jobQueryFailed := true, phase := .left }
    | some active => if active = 0 then { w with treeComplete := true, phase := .left } else w
  | .failed => { w with phase := .left }
  | .timeout => w

/-- One pass of the loop (native_worker.cpp:1351–1402). -/
def pass (c : RunConfig) (answers : PassAnswers) (w : WorkerRun) : WorkerRun :=
  let w := { w with wait := answers.wait }
  if answers.output.failed then w.returning (fail "native_worker_output_read_failed")
  else
  let output := drainOutput c.maxOutputBytes answers.output.reads w.capturedBytes
  let w := { w with
    capturedBytes := output.1
    outputLimitExceeded := w.outputLimitExceeded || output.2 }
  let w := w.drainedProtocol c answers.protocol
  if protocolFailed c answers.protocol then
    w.returning (fail "native_worker_protocol_read_failed")
  else if w.outputLimitExceeded then { w with phase := .left }
  else
  let timed := w.timedProtocol c answers.timeouts
  if timed.2 then { timed.1 with phase := .left } else timed.1.observeJob answers

/-! ## The end -/

/-- The result so far, with the protocol's part of it. -/
def current (w : WorkerRun) : NativeWorkerResult :=
  { w.result with
    contextEvidence := w.protocol.contextEvidence
    lastHeartbeatEvidence := w.protocol.lastHeartbeatEvidence
    tokenConsumedObserved := w.protocol.tokenConsumedObserved
    heartbeatSequence := w.protocol.resultHeartbeatSequence }

end WorkerRun

/-- `reconcile_job_accounting` (native_worker.cpp:1404–1450), as far as the result
keeps it. -/
def NativeWorkerResult.reconciled (result : NativeWorkerResult) (accounting : Option Bool) :
    NativeWorkerResult :=
  match accounting with
  | none => result
  | some perProcess =>
    { result with
      jobAccountingReconciled := true
      perProcessMemoryReconciled := perProcess }

/-- The four marks of a worker that is gone with all it had. -/
def NativeWorkerResult.tornDown (result : NativeWorkerResult) : NativeWorkerResult :=
  { result with
    workerExitObserved := true
    jobTreeEmpty := true
    artifactHandlesClosed := true
    temporaryFilesReconciled := true }

namespace WorkerRun

/-- The end of a run that the protocol ended (native_worker.cpp:1451–1476). -/
def protocolEnd (answers : EndAnswers) (reason : String) (w : WorkerRun) : WorkerRun :=
  w.returning ({ w.current with failureReason := reason }.tornDown.reconciled answers.accounting)

/-- The end of a run whose process tree is gone, with its output
(native_worker.cpp:1505–1557). -/
def outputEnd (c : RunConfig) (answers : EndAnswers) (timedOut : Bool) (w : WorkerRun) :
    WorkerRun :=
  let result := { w.current with timedOut := timedOut }
  if answers.output.failed then w.returning (fail "native_worker_output_read_failed")
  else if (drainOutput c.maxOutputBytes answers.output.reads w.capturedBytes).2 then
    w.returning { result with failureReason := "native_worker_output_limit_exceeded" }
  else if !answers.written then w.returning (fail "native_worker_output_write_failed")
  else if !answers.flushed then w.returning (fail "native_worker_output_flush_failed")
  else
  match answers.exitCode with
  | none => w.returning (fail "native_worker_exit_query_failed")
  | some exitCode =>
    let result := { result with exitCode := exitCode }.reconciled answers.accounting
    if answers.accounting.isNone ∨ exitCode = 0 ∧ !result.perProcessMemoryReconciled then
      w.returning (fail "native_worker_process_tree_evidence_incomplete")
    else
    let ok := !timedOut && exitCode = 0
    let result := { result with
      ok := ok
      failureReason := if ok then "" else
        if timedOut then "native_worker_timeout" else "native_worker_child_failed" }.tornDown
    if !ok then w.returning { result with outputPath := "" }
    else if !answers.released then
      w.returning (fail "native_worker_output_publish_failed")
    else { w with phase := .returned result true }

/-- The end of a run that neither the protocol nor the job ended
(native_worker.cpp:1477–1504). -/
def plainEnd (c : RunConfig) (answers : EndAnswers) (w : WorkerRun) : WorkerRun :=
  if w.jobQueryFailed then
    w.returning (fail (if answers.terminated then "native_worker_job_query_failed"
      else "native_worker_job_query_cleanup_failed"))
  else if w.outputLimitExceeded then
    if !answers.terminated then
      w.returning (fail "native_worker_output_limit_cleanup_failed")
    else
      w.returning { w.current with failureReason := "native_worker_output_limit_exceeded" }
  else if w.treeComplete then w.outputEnd c answers false
  else if w.wait ≠ .failed ∧ answers.pastDeadline then
    if c.simulateTerminationApiFailure ∨ !answers.terminated then
      w.returning (fail "native_worker_timeout_cleanup_failed")
    else w.outputEnd c answers true
  else
    w.returning (fail (if answers.terminated then "native_worker_wait_failed"
      else "native_worker_wait_cleanup_failed"))

/-- The end of the run (native_worker.cpp:1403–1557). -/
def finish (c : RunConfig) (answers : EndAnswers) (w : WorkerRun) : WorkerRun :=
  let w := w.drainedProtocol c answers.protocol
  if protocolFailed c answers.protocol then
    w.returning (fail "native_worker_protocol_read_failed")
  else if c.protocol.isSome ∧ w.protocol.failure ≠ "" then
    if !w.treeComplete ∧ !answers.terminated then
      w.returning (fail "native_worker_protocol_abort_cleanup_failed")
    else w.protocolEnd answers w.protocol.failure
  else if c.protocol.isSome ∧ w.treeComplete ∧ w.protocol.state ≠ .active then
    w.protocolEnd answers "native_worker_protocol_incomplete"
  else w.plainEnd c answers

end WorkerRun

/-! ## The machine -/

/-- The launch, which fails with a reason or leads to the loop; a pass of the loop; the
loop's deadline; the end. -/
inductive WorkerAction
  | launch (answer : Except String Launched)
  | pass (answers : PassAnswers)
  | expire
  | finish (answers : EndAnswers)

/-- One step of the function. -/
def WorkerRun.exec (c : RunConfig) (w : WorkerRun) : WorkerAction → Option (WorkerRun × Unit)
  | .launch answer =>
    if w.phase ≠ .starting then none
    else
    match answer with
    | .error reason => some (w.returning (fail reason), ())
    | .ok launched =>
      some ({ w with
        phase := .looping
        result := { w.result with
          outputPath := launched.outputPath
          rootProcessId := launched.rootProcessId
          jobIdentity := launched.jobIdentity }
        protocol := { w.protocol with
          started := launched.protocolStarted
          lastHeartbeat := launched.protocolStarted } }, ())
  | .pass answers => if w.phase ≠ .looping then none else some (w.pass c answers, ())
  | .expire => if w.phase ≠ .looping then none else some ({ w with phase := .left }, ())
  | .finish answers => if w.phase ≠ .left then none else some (w.finish c answers, ())

end PrismInfer.Runtime
