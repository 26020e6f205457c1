import PrismInfer.Lib.Run
import PrismInfer.Validation.C2Supervisor

/-!
# The evidence callbacks of a supervised run

`main` of tools/prism-c2-supervisor/main.cpp up to the return of `run_contained_worker`:
it acquires a session, has the pre-context request admitted and lets the session run the
worker. Whenever the worker reports its context or a heartbeat, the session asks the
providers of `main` for live samples (gpu_admission_session.cpp:389–605). A provider
stores what it has sampled in a `LiveEvidenceCapture` before it returns it; only then does
the session check, bind and evaluate it.

`bounded_evidence_call` joins the thread of the provider before it returns: nothing is stored
between two callbacks, and a callback is one step here. Which samples the providers see, whether
they return in time, and the clock are inputs of the step. A provider that does not return within
the grace period ends the process, so that no receipt is written.
-/

namespace PrismInfer.Validation

open PrismInfer.Lib PrismInfer.Governor PrismInfer.Runtime

/-! ## What the supervisor samples -/

/-- The answers of `sample_wddm_memory`, `sample_nvml_gpu_thermal` and
`sample_host_telemetry`. -/
structure Telemetry where
  wddm : WddmMemorySample := {}
  thermal : GpuThermalSample := {}
  host : HostTelemetrySample := {}

/-- `gpu_sample` (main.cpp:146–159). -/
def gpuSample (wddm : WddmMemorySample) : PreContextGpuSample :=
  { available := wddm.available
    adapterIdentityAvailable := wddm.available
    adapterLuidHigh := wddm.adapterLuidHigh
    adapterLuidLow := wddm.adapterLuidLow
    capturedMonotonicMilliseconds := wddm.capturedMonotonicMilliseconds
    physicalOrReportableLocalBytes := wddm.localBudgetBytes
    dxgiLocalBudgetBytes := wddm.localBudgetBytes
    dxgiLocalCurrentUsageBytes := wddm.localCurrentUsageBytes }

variable (options : SupervisorOptions)

/-- `make_pre_request` (main.cpp:190–236). `space` is the free space of the output root,
unless the file system does not say. -/
def makePreRequest (cell : AdmissionCellIdentity) (telemetry : Telemetry) (space : Option UInt64)
    (clock : UInt64) : PreContextAdmissionRequest :=
  { requestedTierBytes := 2 * kGiB
    contextTokens := 1
    runDeadlineMilliseconds := 60000
    cell := cell
    predictedGpu :=
      { contextRuntime := ⟨some (512 * kMiB), .pinnedRuntimeEstimate⟩
        backend := ⟨some options.payloadBytes, .pinnedRuntimeEstimate⟩
        model := ⟨some 0, .exactZeroNotApplicable⟩
        state := ⟨some 0, .exactZeroNotApplicable⟩
        workspace := ⟨some 0, .exactZeroNotApplicable⟩
        fragmentation := ⟨some 0, .exactZeroNotApplicable⟩ }
    gpu := gpuSample telemetry.wddm
    thermal := telemetry.thermal
    host := telemetry.host
    hostPolicy := defaultHostReservePolicy .evidencePromotable
    hostRequest :=
      { plannedIncrementalResidentBytes := 512 * kMiB
        plannedIncrementalCommitBytes := 512 * kMiB
        residentUncertaintyBytes := 128 * kMiB
        commitUncertaintyBytes := 128 * kMiB
        promotionRequested := true }
    storage :=
      match space with
      | none => { available := false }
      | some free =>
        { available := true
          freeBytes := free
          reserveBytes := kGiB
          requiredIncrementalBytes := 4 * kMiB }
    evaluationMonotonicMilliseconds := clock }

/-- `make_post_request` (main.cpp:238–256). The host policy and the host request are
those of the pre-context request. -/
def makePostRequest (pre : PreContextAdmissionRequest) (processId : UInt32)
    (loseTelemetry : Bool) (telemetry : Telemetry) : PostContextAdmissionRequest :=
  let gpu := gpuSample telemetry.wddm
  { requestedTierBytes := 2 * kGiB
    cell := pre.cell
    gpu := if loseTelemetry then { gpu with available := false } else gpu
    thermal := telemetry.thermal
    host := telemetry.host
    hostPolicy := pre.hostPolicy
    hostRequest := pre.hostRequest
    ownedGpu := { processId := processId } }

/-- `make_watchdog_sample` (main.cpp:258–273). -/
def makeWatchdogSample (processId : UInt32) (forceCancel : Bool) (telemetry : Telemetry) :
    SupervisorWatchdogSample :=
  { gpu := gpuSample telemetry.wddm
    thermal :=
      if forceCancel then { telemetry.thermal with available := false } else telemetry.thermal
    host := telemetry.host
    ownedGpu := { processId := processId } }

/-! ## The providers -/

/-- What comes of one `bounded_evidence_call` (gpu_admission_session.cpp:29–73) with the
two providers, of which the one for the process is asked second. -/
inductive EvidenceCall
  /-- Both return in time. -/
  | returned (guards : Telemetry) (process : ProcessDeviceMemorySample)
  /-- One of them throws, or the time is up. What they stored before stays stored; one
  that is only asked after the stop request stores nothing. -/
  | failed (stored : Option (Telemetry × Option ProcessDeviceMemorySample))

namespace EvidenceCall

/-- Without any time the call does not even start. -/
def bounded (timeoutMs : UInt32) (call : EvidenceCall) : EvidenceCall :=
  if timeoutMs = 0 then .failed none else call

/-- What the provider of the guard samples has seen when it stores its sample. -/
def guards : EvidenceCall → Option Telemetry
  | .returned guards _ => some guards
  | .failed stored => stored.map (·.1)

/-- The sample that the provider of the process samples stores (main.cpp:369–385). -/
def process : EvidenceCall → Option ProcessDeviceMemorySample
  | .returned _ process => some (requireC2WddmProcessSample process)
  | .failed stored => stored.bind fun stored => stored.2.map requireC2WddmProcessSample

/-- What the session gets. -/
def live {α : Type} (make : Telemetry → α) :
    EvidenceCall → Option (α × ProcessDeviceMemorySample)
  | .returned guards process => some (make guards, requireC2WddmProcessSample process)
  | .failed _ => none

end EvidenceCall

namespace LiveEvidenceCapture

variable (captured : LiveEvidenceCapture)

def storePost :
    Option PostContextAdmissionRequest → LiveEvidenceCapture
  | some sample => { captured with post := some sample }
  | none => captured

def storeWatchdog :
    Option SupervisorWatchdogSample → LiveEvidenceCapture
  | some sample => { captured with watchdog := some sample }
  | none => captured

def storeProcess :
    Option ProcessDeviceMemorySample → LiveEvidenceCapture
  | some sample =>
    { captured with
      firstProcess := captured.firstProcess.or (some sample)
      process := some sample
      processPeakBytes := max captured.processPeakBytes sample.currentBytes }
  | none => captured

end LiveEvidenceCapture

/-! ## The callbacks of the session -/

/-- `bind_process_device_memory_evidence` (windows_evidence.cpp:437–471). -/
def bindProcessDeviceMemoryEvidence (owned : OwnedGpuMemoryEvidence)
    (independent : ProcessDeviceMemorySample) (processId : UInt32) (luidHigh : Int32)
    (luidLow : UInt32) (evaluatedAt maximumAge : UInt64) : Option OwnedGpuMemoryEvidence :=
  if !independent.available ∨ independent.capturedMonotonicMilliseconds = 0 ∨
      independent.processId ≠ processId ∨ independent.adapterLuidHigh ≠ luidHigh ∨
      independent.adapterLuidLow ≠ luidLow ∨ maximumAge = 0 ∨
      evaluatedAt < independent.capturedMonotonicMilliseconds ∨
      evaluatedAt - independent.capturedMonotonicMilliseconds > maximumAge ∨
      (independent.source ≠ .wddmProcess ∧ independent.source ≠ .nvmlProcess) then none
  else
    some { owned with
      processDeviceCorroborationAvailable := true
      processDeviceSource := independent.source.text
      processId := independent.processId
      processDeviceCapturedMonotonicMilliseconds := independent.capturedMonotonicMilliseconds
      processDeviceCurrentBytes := independent.currentBytes
      adapterIdentityAvailable := true
      adapterLuidHigh := independent.adapterLuidHigh
      adapterLuidLow := independent.adapterLuidLow
      capturedMonotonicMilliseconds := independent.capturedMonotonicMilliseconds }

/-- What the session knows of the request and of its policy during a run. -/
structure CallbackPolicy where
  requireGpuProtocolEvidence : Bool
  expectedPostAdmissionPayloadBytes : UInt64
  maximumPostAdmissionPayloadBytes : UInt64
  heartbeatTimeoutMs : UInt32
  tokenValidityMilliseconds : UInt64

/-- The clock before the binding and before the decision. -/
structure CallbackClock where
  evaluatedAt : UInt64
  admissionAt : UInt64

/-- Whether a report of free and total device memory can be right. -/
def cudaReportRejected (free total : UInt64) : Bool :=
  total == 0 || decide (free > total)

/-- The memory that a context report gives the worker
(gpu_admission_session.cpp:445–477). -/
def contextOwned (impl : SessionImpl) (context : NativeWorkerContextEvidence)
    (independent : ProcessDeviceMemorySample) (owned : OwnedGpuMemoryEvidence) :
    Except String OwnedGpuMemoryEvidence :=
  if !context.available ∨ context.adapterLuidHigh ≠ impl.adapterLuidHigh ∨
      context.adapterLuidLow ≠ impl.adapterLuidLow ∨ independent.currentBytes = 0 ∨
      cudaReportRejected context.cudaMemInfoFreeBytes context.cudaMemInfoTotalBytes then
    .error "gpu_context_protocol_evidence_rejected"
  else
  match impl.preReceipt with
  | none => .error "gpu_context_pre_receipt_missing"
  | some receipt =>
    .ok { owned with
      available := true
      reconciled := true
      ownedCurrentBytes := independent.currentBytes
      ownedPeakBytes := independent.currentBytes
      cudaContextRuntimeCurrentBytes := independent.currentBytes
      cudaMemInfoFreeBytes := context.cudaMemInfoFreeBytes
      cudaMemInfoTotalBytes := context.cudaMemInfoTotalBytes
      hardCapBytes := receipt.preContextEffectiveCapBytes }

variable (policy : CallbackPolicy)

/-- The request that the context callback hands to `admit_post_context`, or why it hands
none (gpu_admission_session.cpp:417–487). -/
def readyRequest (impl : SessionImpl) (processId : UInt32) (context : NativeWorkerContextEvidence)
    (clock : CallbackClock) :
    Option (PostContextAdmissionRequest × ProcessDeviceMemorySample) →
      Except String PostContextAdmissionRequest
  | none => .error "post_context_evidence_timeout"
  | some (request, independent) =>
    if clock.evaluatedAt = 0 then .error "monotonic_clock_invalid"
    else
    match bindProcessDeviceMemoryEvidence request.ownedGpu independent processId
        impl.adapterLuidHigh impl.adapterLuidLow clock.evaluatedAt
        policy.heartbeatTimeoutMs.toUInt64 with
    | none =>
      .error (if independent.unavailableReason = "" then "process_device_evidence_rejected"
        else independent.unavailableReason)
    | some owned =>
      match if policy.requireGpuProtocolEvidence then contextOwned impl context independent owned
        else .ok owned with
      | .error reason => .error reason
      | .ok owned =>
        if clock.admissionAt = 0 ∨ clock.admissionAt < clock.evaluatedAt then
          .error "monotonic_clock_invalid"
        else
          .ok { request with
            ownedGpu := owned
            evaluationMonotonicMilliseconds := clock.admissionAt }

/-- What the context callback leaves: the grant, the request if it was admitted, and the
state after it. -/
structure ReadyAnswer where
  grant : NativeWorkerAdmissionGrant := {}
  admitted : Option PostContextAdmissionRequest := none
  ledger : ReceiptLedger
  impl : SessionImpl

/-- The context callback after the evidence call (gpu_admission_session.cpp:417–507). -/
def readyWithEvidence (impl : SessionImpl) (ledger : ReceiptLedger) (processId : UInt32)
    (context : NativeWorkerContextEvidence) (clock : CallbackClock)
    (live : Option (PostContextAdmissionRequest × ProcessDeviceMemorySample)) : ReadyAnswer :=
  match readyRequest policy impl processId context clock live with
  | .error reason =>
    { grant := { failureReason := reason }, ledger := ledger, impl := impl.failClosed }
  | .ok request =>
    let decided := impl.admitPostContext ledger request
    if !decided.1.admitted then
      { grant := { failureReason := decided.1.reason }
        ledger := decided.2.1
        impl := decided.2.2 }
    else
    let issued := decided.2.2.issueToken decided.2.1.consumed clock.admissionAt
      policy.tokenValidityMilliseconds
    let ledger := { decided.2.1 with consumed := issued.2.1 }
    -- the sample is admitted even if no token comes of it
    match if issued.1.status = .issued then issued.1.token else none with
    | none =>
      { grant := { failureReason := "token_issue_failed" }
        admitted := some request
        ledger := ledger
        impl := issued.2.2 }
    | some token =>
      { grant :=
          { admitted := true
            tokenId := token.tokenId
            effectiveCapBytes := token.effectiveCapBytes
            expiresMonotonicMilliseconds := token.expiresMonotonicMilliseconds }
        admitted := some request
        ledger := ledger
        impl := issued.2.2.storePendingToken token }

/-- The token callback (gpu_admission_session.cpp:512–525). -/
def consumedToken (impl : SessionImpl) (tokenId now : UInt64) : Bool × SessionImpl :=
  match impl.takePendingToken tokenId with
  | (none, impl) => (false, impl)
  | (some token, impl) =>
    let consumed := impl.consumeToken token now
    (consumed.1.status == .consumed, consumed.2.2)

/-- The memory that a heartbeat gives the worker (gpu_admission_session.cpp:574–600). -/
def heartbeatOwned (heartbeat : NativeWorkerHeartbeatEvidence)
    (independent : ProcessDeviceMemorySample) (owned : OwnedGpuMemoryEvidence) :
    Option OwnedGpuMemoryEvidence :=
  let payload := policy.expectedPostAdmissionPayloadBytes
  if !heartbeat.available ∨ payload = 0 ∨ payload > policy.maximumPostAdmissionPayloadBytes ∨
      heartbeat.postAdmissionPayloadBytes ≠ payload ∨ independent.currentBytes ≤ payload ∨
      cudaReportRejected heartbeat.cudaMemInfoFreeBytes heartbeat.cudaMemInfoTotalBytes then
    none
  else
    some { owned with
      available := true
      reconciled := true
      ownedCurrentBytes := independent.currentBytes
      ownedPeakBytes := independent.currentBytes
      backendBufferCurrentBytes := payload
      cudaContextRuntimeCurrentBytes := independent.currentBytes - payload
      cudaMemInfoFreeBytes := heartbeat.cudaMemInfoFreeBytes
      cudaMemInfoTotalBytes := heartbeat.cudaMemInfoTotalBytes }

/-- The sample that the heartbeat callback hands to `evaluate_watchdog`, if any
(gpu_admission_session.cpp:553–603). -/
def beatSample (impl : SessionImpl) (processId : UInt32) (receipt : PostContextAdmissionReceipt)
    (now : UInt64) (heartbeat : NativeWorkerHeartbeatEvidence) (clock : CallbackClock) :
    Option (SupervisorWatchdogSample × ProcessDeviceMemorySample) →
      Option SupervisorWatchdogSample
  | none => none
  | some (sample, independent) =>
    if clock.evaluatedAt = 0 then none
    else
    let owned := { sample.ownedGpu with hardCapBytes := receipt.effectiveCapBytes }
    match bindProcessDeviceMemoryEvidence owned independent processId impl.adapterLuidHigh
        impl.adapterLuidLow clock.evaluatedAt policy.heartbeatTimeoutMs.toUInt64 with
    | none => none
    | some owned =>
      match if policy.requireGpuProtocolEvidence then
          heartbeatOwned policy heartbeat independent owned else some owned with
      | none => none
      | some owned =>
        if clock.admissionAt = 0 ∨ clock.admissionAt < clock.evaluatedAt then none
        else
          some { sample with
            workerHeartbeatMonotonicMilliseconds := now
            workerAlive := true
            runDeadlineMonotonicMilliseconds := receipt.runDeadlineMonotonicMilliseconds
            ownedGpu := owned
            evaluatedMonotonicMilliseconds := clock.admissionAt }

/-- What the heartbeat callback leaves: the sample if it let work continue, and the
session after it. -/
structure BeatAnswer where
  continued : Option SupervisorWatchdogSample := none
  impl : SessionImpl

/-- The heartbeat callback after the evidence call (gpu_admission_session.cpp:553–605). A
sample that does not get to `evaluate_watchdog` leaves the session as it is. -/
def beatWithEvidence (impl : SessionImpl) (processId : UInt32)
    (receipt : PostContextAdmissionReceipt) (now : UInt64)
    (heartbeat : NativeWorkerHeartbeatEvidence) (clock : CallbackClock)
    (live : Option (SupervisorWatchdogSample × ProcessDeviceMemorySample)) : BeatAnswer :=
  match beatSample policy impl processId receipt now heartbeat clock live with
  | none => { impl := impl }
  | some sample =>
    let decided := impl.evaluateWatchdog sample
    { continued := if decided.1.continueWork then some sample else none
      impl := decided.2 }

/-! ## A run of the worker -/

/-- The state that the callbacks work on, and the request that was admitted before it. -/
structure LiveRun where
  pre : PreContextAdmissionRequest
  policy : CallbackPolicy
  impl : SessionImpl
  ledger : ReceiptLedger
  captured : LiveEvidenceCapture := {}

inductive LiveAction
  | bind (identity : NativeWorkerContainmentIdentity)
  | ready (context : NativeWorkerContextEvidence) (call : EvidenceCall) (clock : CallbackClock)
  | consumed (tokenId now : UInt64)
  | beat (now : UInt64) (heartbeat : NativeWorkerHeartbeatEvidence) (call : EvidenceCall)
      (clock : CallbackClock)
  | cancelRequested (now : UInt64)
  | cancelAck (now : UInt64)

/-- What a callback did with the guard samples: the one that its provider stored, and the
one that the session accepted. -/
structure CallbackOutcome where
  answer : Bool := false
  captured : Option (LastGoodStage × GuardSample) := none
  accepted : Option (LastGoodStage × GuardSample) := none

namespace LiveRun

/-- The context callback with the providers of `main` (main.cpp:348–357). -/
def ready (s : LiveRun) (context : NativeWorkerContextEvidence) (call : EvidenceCall)
    (clock : CallbackClock) : LiveRun × CallbackOutcome :=
  match s.impl.worker with
  | none => (s, {})
  | some worker =>
    let call := call.bounded s.policy.heartbeatTimeoutMs
    let make := makePostRequest s.pre worker.rootProcessId
      (options.caseName = .postContextTelemetryLoss)
    let answer := readyWithEvidence s.policy s.impl s.ledger worker.rootProcessId context clock
      (call.live make)
    ({ s with
        impl := answer.impl
        ledger := answer.ledger
        captured := (s.captured.storePost (call.guards.map make)).storeProcess call.process },
      { answer := answer.grant.admitted
        captured := call.guards.map fun guards => (.postContext, postGuard (make guards))
        accepted := answer.admitted.map fun request => (.postContext, postGuard request) })

/-- The heartbeat callback with the providers of `main` (main.cpp:358–368). -/
def beat (s : LiveRun) (now : UInt64) (heartbeat : NativeWorkerHeartbeatEvidence)
    (call : EvidenceCall) (clock : CallbackClock) : LiveRun × CallbackOutcome :=
  match s.impl.worker, s.impl.postReceipt with
  | some worker, some receipt =>
    let call := call.bounded s.policy.heartbeatTimeoutMs
    let make := makeWatchdogSample worker.rootProcessId (options.caseName = .watchdogCancel)
    let answer := beatWithEvidence s.policy s.impl worker.rootProcessId receipt now heartbeat
      clock (call.live make)
    ({ s with
        impl := answer.impl
        captured := (s.captured.storeWatchdog (call.guards.map make)).storeProcess call.process },
      { answer := answer.continued.isSome
        captured := call.guards.map fun guards => (.watchdog, watchdogGuard (make guards))
        accepted := answer.continued.map fun sample => (.watchdog, watchdogGuard sample) })
  | _, _ => (s, {})

/-- One callback. The order of the callbacks is that of the worker's messages, and any
order is possible here. -/
def exec (s : LiveRun) :
    LiveAction → Option (LiveRun × CallbackOutcome)
  | .bind identity =>
    let bound := s.impl.bindOwnedWorker identity
    some ({ s with impl := bound.2 }, { answer := bound.1 })
  | .ready context call clock => some (s.ready options context call clock)
  | .consumed tokenId now =>
    let consumed := consumedToken s.impl tokenId now
    some ({ s with impl := consumed.2 }, { answer := consumed.1 })
  | .beat now heartbeat call clock => some (s.beat options now heartbeat call clock)
  | .cancelRequested now => some ({ s with impl := s.impl.cancelRequested now }, {})
  | .cancelAck now =>
    some ({ s with impl := (s.impl.advanceCancellation now true false false).2 }, {})

/-- `main` before the worker runs (main.cpp:294–317 and 341–347): a session, and a
pre-context request that it admits; otherwise it returns. -/
def start (process : AdmissionProcess) (cell : AdmissionCellIdentity) (answer : OsAnswer)
    (telemetry : Telemetry) (space : Option UInt64) (clock : UInt64) : Option LiveRun :=
  if !telemetry.wddm.available then none
  else
  let acquired := acquireGpuAdmissionSession process cell telemetry.wddm.adapterLuidHigh
    telemetry.wddm.adapterLuidLow answer
  match acquired.2.2 with
  | none => none
  | some impl =>
    let pre := makePreRequest options cell telemetry space clock
    let decided := impl.admitPreContext pre
    if !decided.1.admitted then none
    else
      some {
        pre := pre
        policy :=
          { requireGpuProtocolEvidence := true
            expectedPostAdmissionPayloadBytes := options.payloadBytes
            maximumPostAdmissionPayloadBytes := kC2MaximumPayloadBytes
            heartbeatTimeoutMs := pre.timing.maximumGuardAgeMilliseconds.toUInt32
            tokenValidityMilliseconds := 250 }
        impl := decided.2
        ledger := acquired.2.1.ledger }

end LiveRun

end PrismInfer.Validation
