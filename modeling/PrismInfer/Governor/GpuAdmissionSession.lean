import PrismInfer.Governor.AdmissionToken
import PrismInfer.Governor.ExclusiveGpuLease
import PrismInfer.Governor.SupervisorWatchdog

/-!
# The GPU admission session (gpu_admission_session.cpp)

A session holds the adapter lease, the two admission receipts, the contained
worker and its own token issuer, and moves through fifteen states. Every operation
here runs under the session's mutex and is one function from the session before to
the session after; the operations that touch what the session shares with the rest
of the process (the receipt ledger, a token, the lease registry) take and return
that too.

`run_contained_worker` is not one operation: its callbacks take the mutex several
times, and other threads may act in between. Its critical sections are operations
of their own: the callbacks call the operations below, the rest is
`failClosed`, `storePendingToken`, `takePendingToken`, `cancelRequested` and
`endOfRun`.
-/

namespace PrismInfer.Governor

/-- `GpuAdmissionSessionState`. -/
inductive GpuAdmissionSessionState
  | leaseHeld
  | preContextAdmitted
  | workerContained
  | postContextAdmitted
  | tokenIssued
  | tokenConsumed
  | watchdogActive
  | cancelRequested
  | cooperativeCancelAcknowledged
  | jobAbortRequired
  | workerExited
  | cleanupStarted
  | failedClosed
  | cleaned
  | quarantined
  deriving DecidableEq

/-- `CancellationAction`. -/
inductive CancellationAction
  | awaitCooperativeExit
  | abortJob
  | beginCleanup
  | quarantine
  deriving DecidableEq

/-- `CancellationDecision`. -/
structure CancellationDecision where
  action : CancellationAction := .quarantine
  state : GpuAdmissionSessionState := .failedClosed
  deriving DecidableEq

/-- `SupervisorCleanupEvidence`. -/
structure SupervisorCleanupEvidence where
  (workerExitObserved jobTreeEmpty jobAccountingReconciled deviceResourcesReconciled
    artifactHandlesClosed temporaryFilesReconciled : Bool := false)
  (terminalReason lastGoodSampleSha256 evidenceBundleSha256 : String := "")

/-- `DeviceCleanupEvidence`. -/
structure DeviceCleanupEvidence where
  deviceResourcesReconciled : Bool := false
  (terminalReason lastGoodSampleSha256 evidenceBundleSha256 : String := "")

/-- `NativeWorkerContainmentIdentity`. -/
structure NativeWorkerContainmentIdentity where
  rootProcessId : UInt32 := 0
  jobIdentity : String := ""
  executableIdentity : String := ""
  maximumActiveProcesses : UInt32 := 0
  jobMemoryLimitBytes : UInt64 := 0
  jobCpuTimeLimitMilliseconds : UInt32 := 0

/-- The part of `NativeWorkerResult` that the session keeps. -/
structure NativeWorkerTeardown where
  (workerExitObserved jobTreeEmpty jobAccountingReconciled artifactHandlesClosed
    temporaryFilesReconciled : Bool := false)

/-- `is_sha256`: 64 lowercase hexadecimal digits. -/
def isSha256 (value : String) : Bool :=
  value.toList.length == 64 && value.toList.all fun character =>
    ('0' ≤ character && character ≤ '9') || ('a' ≤ character && character ≤ 'f')

/-- `GpuAdmissionSession::Impl`; its mutex is the atomicity of the operations. -/
structure SessionImpl where
  cell : AdmissionCellIdentity := {}
  adapterLuidHigh : Int32 := 0
  adapterLuidLow : UInt32 := 0
  lease : Option ExclusiveGpuLease := none
  state : GpuAdmissionSessionState := .leaseHeld
  preReceipt : Option PreContextAdmissionReceipt := none
  postReceipt : Option PostContextAdmissionReceipt := none
  worker : Option NativeWorkerContainmentIdentity := none
  pendingToken : Option AdmissionToken := none
  ownedTeardown : NativeWorkerTeardown := {}
  cancelRequestedMonotonicMilliseconds : UInt64 := 0
  cleanupStartedMonotonicMilliseconds : UInt64 := 0
  terminalEvidence : Option SupervisorCleanupEvidence := none
  tokenIssuer : AdmissionTokenIssuer

namespace SessionImpl

variable (impl : SessionImpl)

/-- Where an operation does not fit the state, the session fails closed. -/
def failClosed : SessionImpl :=
  { impl with state := .failedClosed }

/-- The lease, if there is one, is quarantined for the life of the process. -/
def quarantineLease : SessionImpl :=
  { impl with lease := impl.lease.map (·.quarantineForProcessLifetime) }

/-- The identity a token is bound to. The source dereferences the worker. -/
def workerIdentity : AdmissionWorkerIdentity :=
  let worker := impl.worker.getD {}
  ⟨worker.rootProcessId, worker.jobIdentity, worker.executableIdentity⟩

/-- `bind_owned_worker` (gpu_admission_session.cpp:181–199). -/
def bindOwnedWorker (evidence : NativeWorkerContainmentIdentity) : Bool × SessionImpl :=
  if impl.state = .preContextAdmitted ∧ evidence.rootProcessId ≠ 0 ∧
      evidence.maximumActiveProcesses ≠ 0 ∧ evidence.jobMemoryLimitBytes ≠ 0 ∧
      evidence.jobCpuTimeLimitMilliseconds ≠ 0 ∧ evidence.jobIdentity ≠ "" ∧
      evidence.executableIdentity ≠ "" then
    (true, { impl with worker := some evidence, state := .workerContained })
  else (false, impl.failClosed)

/-- `admit_pre_context` (gpu_admission_session.cpp:207–232). -/
def admitPreContext (request : PreContextAdmissionRequest) :
    PreContextAdmissionDecision × SessionImpl :=
  if impl.state ≠ .leaseHeld ∨ request.cell ≠ impl.cell ∨
      request.gpu.adapterLuidHigh ≠ impl.adapterLuidHigh ∨
      request.gpu.adapterLuidLow ≠ impl.adapterLuidLow then
    ({ reason := "supervisor_pre_context_state_or_identity_mismatch" }, impl.failClosed)
  else
  let decision := evaluatePreContextAdmission
    { request with exclusiveGpuLeaseHeld := impl.lease.any (·.active) }
  if !decision.admitted ∨ decision.receipt.isNone then (decision, impl.failClosed)
  else
    (decision, { impl with preReceipt := decision.receipt, state := .preContextAdmitted })

/-- `admit_post_context` (gpu_admission_session.cpp:234–261). -/
def admitPostContext (ledger : ReceiptLedger) (request : PostContextAdmissionRequest) :
    PostContextAdmissionDecision × ReceiptLedger × SessionImpl :=
  if impl.state ≠ .workerContained ∨ impl.worker.isNone ∨ impl.preReceipt.isNone ∨
      request.cell ≠ impl.cell ∨
      impl.worker.map (·.rootProcessId) ≠ some request.ownedGpu.processId ∨
      request.gpu.adapterLuidHigh ≠ impl.adapterLuidHigh ∨
      request.gpu.adapterLuidLow ≠ impl.adapterLuidLow then
    ({ reason := "supervisor_post_context_state_or_identity_mismatch" }, ledger,
      impl.failClosed)
  else
  let result := evaluatePostContextAdmission ledger
    { request with preContextReceipt := impl.preReceipt }
  if !result.1.admitted ∨ result.1.receipt.isNone then (result.1, result.2, impl.failClosed)
  else
    (result.1, result.2,
      { impl with postReceipt := result.1.receipt, state := .postContextAdmitted })

/-- `issue_token` (gpu_admission_session.cpp:263–288). -/
def issueToken (consumed : List Bool) (now validity : UInt64) :
    AdmissionTokenIssueResult × List Bool × SessionImpl :=
  match impl.postReceipt with
  | none => ({ status := .supervisorStateInvalid }, consumed, impl.failClosed)
  | some receipt =>
    if impl.state ≠ .postContextAdmitted then
      ({ status := .supervisorStateInvalid }, consumed, impl.failClosed)
    else
    let issued := impl.tokenIssuer.issue consumed receipt impl.cell impl.workerIdentity now
      validity
    let impl := { impl with tokenIssuer := issued.2.1 }
    if issued.1.status ≠ .issued ∨ issued.1.token.isNone then
      (issued.1, issued.2.2, impl.failClosed)
    else (issued.1, issued.2.2, { impl with state := .tokenIssued })

/-- `consume_token` (gpu_admission_session.cpp:290–316). -/
def consumeToken (token : AdmissionToken) (now : UInt64) :
    AdmissionTokenConsumeResult × AdmissionToken × SessionImpl :=
  if impl.state ≠ .tokenIssued then
    ({ status := .supervisorStateInvalid }, token, impl.failClosed)
  else if impl.worker.isNone then
    ({ status := .supervisorStateInvalid }, token, impl.failClosed)
  else
  let consumed := impl.tokenIssuer.consume token impl.cell impl.workerIdentity now
  if consumed.1.status ≠ .consumed then (consumed.1, consumed.2, impl.failClosed)
  else (consumed.1, consumed.2, { impl with state := .tokenConsumed })

/-- `evaluate_watchdog` (gpu_admission_session.cpp:318–339). -/
def evaluateWatchdog (sample : SupervisorWatchdogSample) :
    SupervisorWatchdogDecision × SessionImpl :=
  match impl.postReceipt with
  | none => ({}, impl.failClosed)
  | some receipt =>
    if (impl.state ≠ .tokenConsumed ∧ impl.state ≠ .watchdogActive) ∨ impl.worker.isNone ∨
        impl.worker.map (·.rootProcessId) ≠ some sample.ownedGpu.processId then
      ({}, impl.failClosed)
    else
    let decision := evaluateSupervisorWatchdog receipt sample
    if decision.continueWork then (decision, { impl with state := .watchdogActive })
    else
      (decision, { impl with
        state := .cancelRequested
        cancelRequestedMonotonicMilliseconds := sample.evaluatedMonotonicMilliseconds })

/-- The `cancel_requested` callback (gpu_admission_session.cpp:610–617). -/
def cancelRequested (now : UInt64) : SessionImpl :=
  if impl.state = .tokenConsumed ∨ impl.state = .watchdogActive then
    { impl with state := .cancelRequested, cancelRequestedMonotonicMilliseconds := now }
  else impl

/-- The state a cancellation moves to, and what the supervisor is to do
(gpu_admission_session.cpp:690–718). -/
def cancellationStep (state : GpuAdmissionSessionState) (timing : SupervisorTimingPolicy)
    (elapsed : UInt64) (acknowledged workerExited jobTreeEmpty : Bool) :
    GpuAdmissionSessionState × CancellationAction :=
  if elapsed > timing.workerExitMilliseconds then (.jobAbortRequired, .abortJob)
  else if workerExited then
    if !jobTreeEmpty then (.jobAbortRequired, .abortJob) else (.workerExited, .beginCleanup)
  else if elapsed = timing.workerExitMilliseconds then (.jobAbortRequired, .abortJob)
  else if acknowledged ∧ elapsed ≤ timing.cooperativeCancelAckMilliseconds then
    (.cooperativeCancelAcknowledged, .awaitCooperativeExit)
  else if state ≠ .cooperativeCancelAcknowledged ∧
      elapsed ≥ timing.cooperativeCancelAckMilliseconds then
    (.jobAbortRequired, .abortJob)
  else (state, .awaitCooperativeExit)

/-- `advance_cancellation` (gpu_admission_session.cpp:674–721). -/
def advanceCancellation (now : UInt64) (acknowledged workerExited jobTreeEmpty : Bool) :
    CancellationDecision × SessionImpl :=
  let quarantined : CancellationDecision × SessionImpl :=
    ({ state := .quarantined }, { impl with state := .quarantined })
  match impl.postReceipt with
  | none => quarantined
  | some receipt =>
    if (impl.state ≠ .cancelRequested ∧ impl.state ≠ .cooperativeCancelAcknowledged) ∨
        now < impl.cancelRequestedMonotonicMilliseconds then quarantined
    else
    let next := cancellationStep impl.state receipt.timing
      (now - impl.cancelRequestedMonotonicMilliseconds) acknowledged workerExited jobTreeEmpty
    ({ action := next.2, state := next.1 }, { impl with state := next.1 })

/-- `record_job_abort` (gpu_admission_session.cpp:723–746). -/
def recordJobAbort (now : UInt64) (jobTreeEmpty : Bool) : CancellationDecision × SessionImpl :=
  let quarantined : CancellationDecision × SessionImpl :=
    ({ state := .quarantined }, { impl with state := .quarantined })
  match impl.postReceipt with
  | none => quarantined
  | some receipt =>
    if impl.state ≠ .jobAbortRequired ∨ now < impl.cancelRequestedMonotonicMilliseconds then
      quarantined
    else if !jobTreeEmpty ∨
        now - impl.cancelRequestedMonotonicMilliseconds > receipt.timing.cleanupMilliseconds then
      ({ action := .quarantine, state := .quarantined }, { impl with state := .quarantined })
    else
      ({ action := .beginCleanup, state := .workerExited }, { impl with state := .workerExited })

/-- `record_normal_worker_exit` (gpu_admission_session.cpp:748–760). -/
def recordNormalWorkerExit (now : UInt64) (jobTreeEmpty : Bool) : Bool × SessionImpl :=
  if now = 0 then (false, impl)
  else if impl.state ≠ .watchdogActive ∨ impl.postReceipt.isNone ∨ !jobTreeEmpty then
    (false, { impl with state := .quarantined }.quarantineLease)
  else (true, { impl with state := .workerExited })

/-- `begin_cleanup` (gpu_admission_session.cpp:762–775). -/
def beginCleanup (now : UInt64) : Bool × SessionImpl :=
  if now = 0 then (false, impl)
  else if impl.state ≠ .workerExited ∧ (impl.state ≠ .failedClosed ∨ impl.worker.isSome) then
    (false, { impl with state := .quarantined }.quarantineLease)
  else
    (true, { impl with
      cleanupStartedMonotonicMilliseconds := now
      state := .cleanupStarted })

/-- The deadline of `cleanup_owned` (gpu_admission_session.cpp:786–796). -/
def deadlineMet (now : UInt64) : Bool :=
  impl.state == .cleanupStarted && impl.cleanupStartedMonotonicMilliseconds != 0 &&
  now ≥ impl.cleanupStartedMonotonicMilliseconds &&
  impl.postReceipt.any fun receipt =>
    now - impl.cleanupStartedMonotonicMilliseconds ≤ receipt.timing.cleanupMilliseconds &&
    (impl.cancelRequestedMonotonicMilliseconds == 0 ||
      now ≥ impl.cancelRequestedMonotonicMilliseconds &&
      now - impl.cancelRequestedMonotonicMilliseconds ≤ receipt.timing.cleanupMilliseconds)

end SessionImpl

/-- The evidence that `cleanup_owned` asks for (gpu_admission_session.cpp:800–808). -/
def SupervisorCleanupEvidence.complete (evidence : SupervisorCleanupEvidence) : Bool :=
  evidence.workerExitObserved && evidence.jobTreeEmpty && evidence.jobAccountingReconciled &&
  evidence.deviceResourcesReconciled && evidence.artifactHandlesClosed &&
  evidence.temporaryFilesReconciled && evidence.terminalReason != "" &&
  isSha256 evidence.lastGoodSampleSha256 && isSha256 evidence.evidenceBundleSha256

namespace SessionImpl

/-- The registry after the session's lease object is destroyed. -/
def dropLease (impl : SessionImpl) (registry : List String) : List String :=
  match impl.lease with
  | none => registry
  | some lease => (lease.release registry).2

/-- `cleanup_owned` (gpu_admission_session.cpp:777–818). -/
def cleanupOwned (impl : SessionImpl) (registry : List String)
    (evidence : SupervisorCleanupEvidence) (now : UInt64) :
    GpuAdmissionSessionState × List String × SessionImpl :=
  if impl.state = .cleaned ∨ impl.state = .quarantined then
    (.quarantined, registry, { impl with state := .quarantined })
  else
  let cleaned := evidence.complete && impl.deadlineMet now
  let ended := if cleaned then impl else impl.quarantineLease
  let state := if cleaned then .cleaned else .quarantined
  (state, ended.dropLease registry,
    { impl with
      preReceipt := none
      postReceipt := none
      worker := none
      terminalEvidence := some evidence
      lease := none
      state := state })

/-- The destructor (gpu_admission_session.cpp:167–173), with the members that it
destroys: the registry after it. -/
def destroyed (impl : SessionImpl) (registry : List String) : List String :=
  if impl.state ≠ .cleaned then impl.quarantineLease.dropLease registry
  else impl.dropLease registry

/-- The end of `run_contained_worker` (gpu_admission_session.cpp:624–648). -/
def endOfRun (impl : SessionImpl) (result : NativeWorkerTeardown) : SessionImpl :=
  let impl := { impl with pendingToken := none, ownedTeardown := result }
  let exitState := impl.state = .watchdogActive ∨ impl.state = .cancelRequested ∨
    impl.state = .cooperativeCancelAcknowledged ∨ impl.state = .jobAbortRequired
  let impl :=
    if result.workerExitObserved ∧ result.jobTreeEmpty ∧ exitState then
      { impl with state := .workerExited }
    else if !result.workerExitObserved ∨ !result.jobTreeEmpty then
      { impl with state := .quarantined }
    else impl
  if impl.state = .quarantined then impl.quarantineLease else impl

/-- The context callback keeps the issued token (gpu_admission_session.cpp:502–505). -/
def storePendingToken (impl : SessionImpl) (token : AdmissionToken) : SessionImpl :=
  { impl with pendingToken := some token }

/-- The first half of the token callback (gpu_admission_session.cpp:514–523): the
kept token, if it is the one the worker names. -/
def takePendingToken (impl : SessionImpl) (tokenId : UInt64) :
    Option AdmissionToken × SessionImpl :=
  match impl.pendingToken with
  | none => (none, impl.failClosed)
  | some token =>
    if token.tokenId ≠ tokenId then (none, impl.failClosed)
    else (some token, { impl with pendingToken := none })

/-- What `finalize_cleanup` knows of the worker's end
(gpu_admission_session.cpp:655–669). -/
def ownedEvidence (impl : SessionImpl) (evidence : DeviceCleanupEvidence) :
    SupervisorCleanupEvidence :=
  { workerExitObserved := impl.ownedTeardown.workerExitObserved
    jobTreeEmpty := impl.ownedTeardown.jobTreeEmpty
    jobAccountingReconciled := impl.ownedTeardown.jobAccountingReconciled
    deviceResourcesReconciled := evidence.deviceResourcesReconciled
    artifactHandlesClosed := impl.ownedTeardown.artifactHandlesClosed
    temporaryFilesReconciled := impl.ownedTeardown.temporaryFilesReconciled
    terminalReason := evidence.terminalReason
    lastGoodSampleSha256 := evidence.lastGoodSampleSha256
    evidenceBundleSha256 := evidence.evidenceBundleSha256 }

/-- `finalize_cleanup` (gpu_admission_session.cpp:652–672), with no other thread
between its critical sections. -/
def finalizeCleanup (impl : SessionImpl) (registry : List String)
    (evidence : DeviceCleanupEvidence) (now : UInt64) :
    GpuAdmissionSessionState × List String × SessionImpl :=
  if now = 0 then (.failedClosed, registry, impl)
  else
  let owned := impl.ownedEvidence evidence
  let begun := impl.beginCleanup now
  if !begun.1 then (begun.2.state, registry, begun.2)
  else begun.2.cleanupOwned registry owned now

end SessionImpl

/-! ## The process around a session -/

/-- What a session shares with the rest of its process: the receipt ledger, the
issuer sequence and the issuers of others, the token objects, and the registry of
leases with the lease objects of others. -/
structure AdmissionProcess where
  ledger : ReceiptLedger := {}
  issuerSequence : UInt64 := 1
  issuers : List AdmissionTokenIssuer := []
  tokens : List AdmissionToken := []
  registry : List String := []
  leases : List ExclusiveGpuLease := []

/-- What the rest of the process can do. The issuers of others work on any receipt
at all. -/
inductive ProcessAction
  | newIssuer
  | stageB (request : PostContextAdmissionRequest)
  | issue (issuer : ℕ) (receipt : PostContextAdmissionReceipt) (cell : AdmissionCellIdentity)
      (worker : AdmissionWorkerIdentity) (now validity : UInt64)
  | consume (issuer slot : ℕ) (cell : AdmissionCellIdentity) (worker : AdmissionWorkerIdentity)
      (now : UInt64)
  | moveConstructToken (source : ℕ)
  | moveAssignToken (target source : ℕ)
  | acquireLease (high : Int32) (low : UInt32) (answer : OsAnswer)
  | releaseLease (slot : ℕ)
  | quarantineLease (slot : ℕ)

/-- A step of the rest of the process, with the status of an acquire. -/
def AdmissionProcess.step (p : AdmissionProcess) :
    ProcessAction → Option (AdmissionProcess × Option ExclusiveGpuLeaseStatus)
  | .newIssuer =>
    some ({ p with
      issuerSequence := (nextIssuerId p.issuerSequence).2
      issuers := p.issuers ++ [{ issuerId := (nextIssuerId p.issuerSequence).1 }] }, none)
  | .stageB request =>
    some ({ p with ledger := (evaluatePostContextAdmission p.ledger request).2 }, none)
  | .issue i receipt cell worker now validity =>
    match p.issuers[i]? with
    | none => none
    | some issuer =>
      let issued := issuer.issue p.ledger.consumed receipt cell worker now validity
      some ({ p with
        ledger := { p.ledger with consumed := issued.2.2 }
        issuers := p.issuers.set i issued.2.1
        tokens := p.tokens ++ issued.1.token.toList }, none)
  | .consume i slot cell worker now =>
    match p.issuers[i]?, p.tokens[slot]? with
    | some issuer, some token =>
      some ({ p with
        tokens := p.tokens.set slot (issuer.consume token cell worker now).2 }, none)
    | _, _ => none
  | .moveConstructToken source =>
    match p.tokens[source]? with
    | none => none
    | some token =>
      some ({ p with tokens := p.tokens.set source .invalidated ++ [token] }, none)
  | .moveAssignToken target source =>
    match p.tokens[target]?, p.tokens[source]? with
    | some _, some token =>
      if target = source then some (p, none)
      else some ({ p with
        tokens := (p.tokens.set target token).set source .invalidated }, none)
    | _, _ => none
  | .acquireLease high low answer =>
    let acquired := acquireExclusiveGpuLease p.registry high low answer
    some ({ p with
      registry := acquired.2
      leases := p.leases ++ acquired.1.lease.toList }, some acquired.1.status)
  | .releaseLease slot =>
    match p.leases[slot]? with
    | none => none
    | some lease =>
      some ({ p with
        registry := (lease.release p.registry).2
        leases := p.leases.set slot (lease.release p.registry).1 }, none)
  | .quarantineLease slot =>
    match p.leases[slot]? with
    | none => none
    | some lease =>
      some ({ p with leases := p.leases.set slot lease.quarantineForProcessLifetime }, none)

/-- `GpuAdmissionSessionAcquireResult::Status`. -/
inductive SessionAcquireStatus
  | acquired
  | invalidCellIdentity
  | leaseUnavailable
  deriving DecidableEq

/-- `acquire_gpu_admission_session` (gpu_admission_session.cpp:827–858), with memory
to spare: the status, the process and the session. -/
def acquireGpuAdmissionSession (p : AdmissionProcess) (cell : AdmissionCellIdentity)
    (high : Int32) (low : UInt32) (answer : OsAnswer) :
    SessionAcquireStatus × AdmissionProcess × Option SessionImpl :=
  if !admissionCellIdentityValid cell then (.invalidCellIdentity, p, none)
  else
  let acquired := acquireExclusiveGpuLease p.registry high low answer
  let p := { p with registry := acquired.2 }
  if acquired.1.status ≠ .acquired ∨ acquired.1.lease.isNone then (.leaseUnavailable, p, none)
  else
    (.acquired, { p with issuerSequence := (nextIssuerId p.issuerSequence).2 },
      some {
        cell := cell
        adapterLuidHigh := high
        adapterLuidLow := low
        lease := acquired.1.lease
        tokenIssuer := { issuerId := (nextIssuerId p.issuerSequence).1 } })

end PrismInfer.Governor
