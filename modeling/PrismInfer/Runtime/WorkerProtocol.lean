import PrismInfer.Lib.TextStream

/-!
# The protocol between the native worker's runner and its worker

The protocol part of `run_native_worker_impl` (src/runtime/native_worker.cpp): the five
states, the lines a worker sends, the calls that are made to the supervisor and the
lines that are written to the worker. The closures of the source exist only when the
protocol is enabled, which is when there is a `ProtocolConfig`.

A `std::string` is the list of its bytes as characters. What the clock, the supervisor
and the pipe answer while one line is handled is a `ProtocolAnswers`, all of it
arbitrary. The state also lists the calls made so far and the reasons of all
cancellations asked for, the ignored ones too; the code does not read these two lists.
-/

namespace PrismInfer.Runtime

open PrismInfer.Lib

/-! ## Data -/

/-- `NativeWorkerContextEvidence`. -/
structure NativeWorkerContextEvidence where
  available : Bool := false
  adapterLuidHigh : Int32 := 0
  adapterLuidLow : UInt32 := 0
  cudaMemInfoFreeBytes : UInt64 := 0
  cudaMemInfoTotalBytes : UInt64 := 0
  deriving DecidableEq

/-- `NativeWorkerHeartbeatEvidence`. -/
structure NativeWorkerHeartbeatEvidence where
  available : Bool := false
  (postAdmissionPayloadBytes cudaMemInfoFreeBytes cudaMemInfoTotalBytes : UInt64 := 0)
  deriving DecidableEq

/-- `NativeWorkerAdmissionGrant`. -/
structure NativeWorkerAdmissionGrant where
  admitted : Bool := false
  (tokenId effectiveCapBytes expiresMonotonicMilliseconds : UInt64 := 0)
  failureReason : String := ""
  deriving DecidableEq

/-- `protocol_nonce`: a run with the protocol does not start on an empty nonce, and
`random_protocol_nonce` writes hexadecimal digits (native_worker.cpp:582–594, 842–846). -/
structure ProtocolNonce where
  text : String
  nonempty : text.toList ≠ []
  solid : Solid text.toList

/-- What the protocol reads of the request and of `NativeWorkerProtocolPolicy`. -/
structure ProtocolConfig where
  nonce : ProtocolNonce
  requireGpuProtocolEvidence : Bool := false
  expectedPostAdmissionPayloadBytes : UInt64 := 0
  maximumPostAdmissionPayloadBytes : UInt64 := 0
  contextReadyTimeoutMs : UInt32 := 2000
  heartbeatTimeoutMs : UInt32 := 500
  cooperativeCancelAckTimeoutMs : UInt32 := 500
  workerExitTimeoutMs : UInt32 := 2000

/-- `ProtocolState`. -/
inductive ProtocolState
  | awaitContext
  | tokenDelivered
  | active
  | cancelSent
  | cancelAcknowledged
  deriving DecidableEq

/-- A call to `NativeWorkerProtocolSupervisor`, with its answer, or a write to the
worker's input. -/
inductive ProtocolCall
  | contextReady (now : UInt64) (evidence : NativeWorkerContextEvidence)
      (grant : NativeWorkerAdmissionGrant)
  | tokenConsumed (tokenId now : UInt64) (consumed : Bool)
  | heartbeat (sequence now : UInt64) (evidence : NativeWorkerHeartbeatEvidence)
      (accepted : Bool)
  | cancelRequested (reason : String) (now : UInt64)
  | cancelAcknowledged (now : UInt64)
  | wroteAdmit (tokenId effectiveCapBytes : UInt64) (written : Bool)
  | wroteCancel (written : Bool)
  deriving DecidableEq

/-- What is answered while one line is handled or the timeouts are checked once:
readings of the clock, answers of the supervisor, results of `WriteFile`, and
`emergency_job_abort` where it is loaded. -/
structure ProtocolAnswers where
  (now afterCallback cancelNow cancelSentAt : UInt64 := 0)
  grant : NativeWorkerAdmissionGrant := {}
  (consumed accepted aborted abortedAgain admitWritten cancelWritten : Bool := false)

/-- The variables of the protocol (native_worker.cpp:1069–1086), the protocol's part of
the result, and the lists of calls and of cancellations asked for. -/
structure ProtocolLoop where
  state : ProtocolState := .awaitContext
  (tokenId heartbeatSequence started lastHeartbeat tokenConsumptionDeadline cancelSentAt
    : UInt64 := 0)
  pending : List Char := []
  failure : String := ""
  contextEvidence : NativeWorkerContextEvidence := {}
  tokenConsumedObserved : Bool := false
  lastHeartbeatEvidence : NativeWorkerHeartbeatEvidence := {}
  resultHeartbeatSequence : UInt64 := 0
  calls : List ProtocolCall := []
  asked : List String := []

/-! ## The lines to the worker -/

/-- The admission line (native_worker.cpp:1178–1181). -/
def admitLine (nonce : ProtocolNonce) (tokenId effectiveCapBytes : UInt64) : String :=
  "PRISMINFER/1 ADMIT " ++ nonce.text ++ " " ++ toString tokenId ++ " " ++
    toString effectiveCapBytes ++ "\n"

/-- The cancel line (native_worker.cpp:1111). -/
def cancelLine (nonce : ProtocolNonce) : String :=
  "PRISMINFER/1 CANCEL " ++ nonce.text ++ "\n"

/-! ## The handlers -/

/-- `request_protocol_cancel` (native_worker.cpp:1103–1117). -/
def requestProtocolCancel (answers : ProtocolAnswers) (reason : String) (s : ProtocolLoop) :
    ProtocolLoop :=
  let s := { s with asked := s.asked ++ [reason] }
  if s.state = .cancelSent ∨ s.state = .cancelAcknowledged then s
  else
  { s with
    failure :=
      if !answers.cancelWritten ∧ reason = "" then "native_worker_protocol_cancel_write_failed"
      else reason
    calls := s.calls ++
      [.cancelRequested reason answers.cancelNow, .wroteCancel answers.cancelWritten]
    state := .cancelSent
    cancelSentAt := answers.cancelSentAt }

/-- The evidence of a `CONTEXT_READY` line (native_worker.cpp:1142–1157); `none` where
the line is refused. -/
def parseContextEvidence (parsed : TextStream) : Option NativeWorkerContextEvidence :=
  let high := parsed.signed 32
  -- no first field, or one that does not parse: the rest of the line is not read, and the
  -- evidence keeps what the extraction stored
  if !high.2.good then some { adapterLuidHigh := Int32.ofInt high.1 }
  else
  let low := high.2.unsigned 32
  let free := low.2.unsigned 64
  let total := free.2.unsigned 64
  if !total.2.good ∨ total.2.word.2.good ∨ total.1 = 0 ∨ free.1 > total.1 then none
  else
    some {
      available := true
      adapterLuidHigh := Int32.ofInt high.1
      adapterLuidLow := UInt32.ofNat low.1
      cudaMemInfoFreeBytes := UInt64.ofNat free.1
      cudaMemInfoTotalBytes := UInt64.ofNat total.1 }

variable (c : ProtocolConfig)

/-- The evidence of a `HEARTBEAT` line (native_worker.cpp:1228–1248). -/
def parseHeartbeatEvidence (parsed : TextStream) : Option NativeWorkerHeartbeatEvidence :=
  let payload := parsed.unsigned 64
  if !payload.2.good then some { postAdmissionPayloadBytes := UInt64.ofNat payload.1 }
  else
  let free := payload.2.unsigned 64
  let total := free.2.unsigned 64
  if !total.2.good ∨ total.2.word.2.good ∨ total.1 = 0 ∨ free.1 > total.1 ∨ payload.1 = 0 ∨
      payload.1 ≠ c.expectedPostAdmissionPayloadBytes.toNat ∨
      payload.1 > c.maximumPostAdmissionPayloadBytes.toNat then none
  else
    some {
      available := true
      postAdmissionPayloadBytes := UInt64.ofNat payload.1
      cudaMemInfoFreeBytes := UInt64.ofNat free.1
      cudaMemInfoTotalBytes := UInt64.ofNat total.1 }

/-- The reason of a refused admission (native_worker.cpp:1168–1172). -/
def admissionRejected (grant : NativeWorkerAdmissionGrant) : String :=
  if grant.failureReason = "" then "native_worker_protocol_admission_rejected"
  else "native_worker_protocol_admission_rejected:" ++ grant.failureReason

/-- A `CONTEXT_READY` line (native_worker.cpp:1135–1191). -/
def onContextReady (answers : ProtocolAnswers) (parsed : TextStream) (s : ProtocolLoop) :
    ProtocolLoop :=
  if s.state ≠ .awaitContext then
    requestProtocolCancel answers "native_worker_protocol_context_duplicate" s
  else
  match parseContextEvidence parsed with
  | none => requestProtocolCancel answers "native_worker_protocol_context_evidence_invalid" s
  | some evidence =>
    if c.requireGpuProtocolEvidence ∧ !evidence.available then
      requestProtocolCancel answers "native_worker_protocol_context_evidence_required" s
    else
    let grant := answers.grant
    let s := { s with calls := s.calls ++ [.contextReady answers.now evidence grant] }
    if !grant.admitted ∨ grant.tokenId = 0 ∨ grant.effectiveCapBytes = 0 ∨
        grant.expiresMonotonicMilliseconds ≤ answers.now then
      requestProtocolCancel answers (admissionRejected grant) s
    else if answers.aborted then
      requestProtocolCancel answers "native_worker_protocol_authority_callback_timeout" s
    else
    let s := { s with
      tokenId := grant.tokenId
      calls := s.calls ++
        [.wroteAdmit grant.tokenId grant.effectiveCapBytes answers.admitWritten] }
    if !answers.admitWritten then
      requestProtocolCancel answers "native_worker_protocol_token_write_failed" s
    else
      { s with
        state := .tokenDelivered
        tokenConsumptionDeadline := grant.expiresMonotonicMilliseconds
        contextEvidence := evidence }

/-- A `TOKEN_CONSUMED` line (native_worker.cpp:1192–1217). -/
def onTokenConsumed (answers : ProtocolAnswers) (parsed : TextStream) (s : ProtocolLoop) :
    ProtocolLoop :=
  let token := parsed.unsigned 64
  if s.state ≠ .tokenDelivered ∨ !token.2.good ∨ token.2.word.2.good ∨
      token.1 ≠ s.tokenId.toNat then
    requestProtocolCancel answers "native_worker_protocol_token_rejected" s
  else
  let s := { s with
    calls := s.calls ++ [.tokenConsumed (UInt64.ofNat token.1) answers.now answers.consumed] }
  if !answers.consumed ∨ answers.aborted then
    requestProtocolCancel answers
      (if answers.abortedAgain then "native_worker_protocol_authority_callback_timeout"
      else "native_worker_protocol_token_rejected") s
  else
    { s with
      state := .active
      lastHeartbeat := answers.afterCallback
      tokenConsumedObserved := true }

/-- A `HEARTBEAT` line (native_worker.cpp:1218–1262). -/
def onHeartbeat (answers : ProtocolAnswers) (parsed : TextStream) (s : ProtocolLoop) :
    ProtocolLoop :=
  let sequence := parsed.unsigned 64
  if s.state ≠ .active ∨ !sequence.2.good ∨
      sequence.1 ≠ (s.heartbeatSequence + 1).toNat then
    requestProtocolCancel answers "native_worker_protocol_heartbeat_invalid" s
  else
  match parseHeartbeatEvidence c sequence.2 with
  | none => requestProtocolCancel answers "native_worker_protocol_heartbeat_evidence_invalid" s
  | some evidence =>
    if c.requireGpuProtocolEvidence ∧ !evidence.available then
      requestProtocolCancel answers "native_worker_protocol_heartbeat_evidence_required" s
    else
    let s := { s with
      heartbeatSequence := UInt64.ofNat sequence.1
      lastHeartbeat := answers.afterCallback
      calls := s.calls ++
        [.heartbeat (UInt64.ofNat sequence.1) answers.now evidence answers.accepted] }
    let s :=
      if !answers.accepted ∨ answers.aborted then
        requestProtocolCancel answers "native_worker_protocol_watchdog_rejected" s
      else s
    { s with
      lastHeartbeatEvidence := evidence
      resultHeartbeatSequence := UInt64.ofNat sequence.1 }

/-- A `CANCEL_ACK` line (native_worker.cpp:1263–1275). -/
def onCancelAck (answers : ProtocolAnswers) (parsed : TextStream) (s : ProtocolLoop) :
    ProtocolLoop :=
  if s.state ≠ .cancelSent ∨ parsed.word.2.good then
    requestProtocolCancel answers "native_worker_protocol_cancel_ack_invalid" s
  else
    { s with
      state := .cancelAcknowledged
      calls := s.calls ++ [.cancelAcknowledged answers.now] }

/-- One carriage return at the end of a line is not part of it. -/
def stripCarriageReturn (line : List Char) : List Char :=
  if line.getLast? = some '\r' then line.dropLast else line

/-- `process_protocol_line` (native_worker.cpp:1118–1277). -/
def processProtocolLine (answers : ProtocolAnswers) (line : List Char) (s : ProtocolLoop) :
    ProtocolLoop :=
  let line := stripCarriageReturn line
  if line.length > 512 ∨ '\r' ∈ line then
    requestProtocolCancel answers "native_worker_protocol_message_invalid" s
  else
  let version := (TextStream.mk line true).word
  let type := version.2.word
  let nonce := type.2.word
  if version.1 ≠ "PRISMINFER/1" ∨ nonce.1 ≠ c.nonce.text then
    requestProtocolCancel answers "native_worker_protocol_identity_mismatch" s
  else if type.1 = "CONTEXT_READY" then onContextReady c answers nonce.2 s
  else if type.1 = "TOKEN_CONSUMED" then onTokenConsumed answers nonce.2 s
  else if type.1 = "HEARTBEAT" then onHeartbeat c answers nonce.2 s
  else if type.1 = "CANCEL_ACK" then onCancelAck answers nonce.2 s
  else requestProtocolCancel answers "native_worker_protocol_message_unknown" s

/-! ## Framing and timeouts -/

/-- The complete lines of a text, in order, and what follows the last one. -/
def takeLines (line : List Char) : List Char → List (List Char) × List Char
  | [] => ([], line)
  | c :: rest =>
    if c = '\n' then
      let taken := takeLines [] rest
      (line :: taken.1, taken.2)
    else takeLines (line ++ [c]) rest

/-- Lines are processed in order, each with its own answers. -/
def processLines (c : ProtocolConfig) (answers : ℕ → ProtocolAnswers) :
    List (List Char) → ProtocolLoop → ProtocolLoop
  | [], s => s
  | line :: lines, s =>
    processLines c (fun i => answers (i + 1)) lines (processProtocolLine c (answers 0) line s)

/-- What one read of the pipe does to the buffer (native_worker.cpp:1317–1329): whether
the bound was exceeded, the lines to process, and what stays pending. -/
def frameRead (pending chunk : List Char) : Bool × List (List Char) × List Char :=
  if (pending ++ chunk).length > 1024 then (true, [], [])
  else
  let taken := takeLines [] (pending ++ chunk)
  (false, taken.1, taken.2)

/-- One read of `drain_protocol`. The cancellation of an exceeded buffer has its own
answers. -/
def drainRead (chunk : List Char) (exceeded : ProtocolAnswers) (answers : ℕ → ProtocolAnswers)
    (s : ProtocolLoop) : ProtocolLoop :=
  let framed := frameRead s.pending chunk
  let s := if framed.1 then
      requestProtocolCancel exceeded "native_worker_protocol_buffer_exceeded" s
    else s
  processLines c answers framed.2.1 { s with pending := framed.2.2 }

/-- The timeouts of one pass of the loop (native_worker.cpp:1356–1371). -/
def checkTimeouts (answers : ProtocolAnswers) (s : ProtocolLoop) : ProtocolLoop :=
  if s.state = .awaitContext ∧
      answers.now - s.started ≥ c.contextReadyTimeoutMs.toUInt64 then
    requestProtocolCancel answers "native_worker_protocol_context_timeout" s
  else if s.state = .tokenDelivered ∧ answers.now ≥ s.tokenConsumptionDeadline then
    requestProtocolCancel answers "native_worker_protocol_token_consumption_timeout" s
  else if s.state = .active ∧
      answers.now - s.lastHeartbeat ≥ c.heartbeatTimeoutMs.toUInt64 then
    requestProtocolCancel answers "native_worker_protocol_heartbeat_timeout" s
  else s

/-- The loop is left when a cancellation was not answered in time
(native_worker.cpp:1372–1380). -/
def cancelExpired (now : UInt64) (s : ProtocolLoop) : Bool :=
  (s.state == .cancelSent &&
    decide (now - s.cancelSentAt ≥ c.cooperativeCancelAckTimeoutMs.toUInt64)) ||
  (s.state == .cancelAcknowledged &&
    decide (now - s.cancelSentAt ≥ c.workerExitTimeoutMs.toUInt64))

namespace Fixture

def nonce : ProtocolNonce :=
  ⟨"0123456789abcdef0123456789abcdef", by decide, by decide⟩

end Fixture

end PrismInfer.Runtime
