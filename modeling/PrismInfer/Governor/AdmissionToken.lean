import PrismInfer.Governor.SupervisorAdmission

/-!
# Admission tokens (admission_token.cpp)

An issuer turns a Stage-B receipt into a token bound to one cell and one worker,
and later consumes the token. A token is good for one consumption: its `active_`
flag falls by compare-exchange. A receipt is good for one token: all copies of a
receipt share one flag (`token_consumed_`), and an issuer also keeps a table of
the receipt ids it has used.

The functions here are the pieces between two accesses to shared memory, which
the concurrent machine interleaves, and their sequential composition (`issue`,
`consume`), which is what a caller under a lock of its own sees.
-/

namespace PrismInfer.Governor

/-- `AdmissionTokenStatus`. -/
inductive AdmissionTokenStatus
  | issued
  | consumed
  | invalidReceipt
  | invalidCellIdentity
  | invalidTime
  | receiptAlreadyUsed
  | issuerCapacityExhausted
  | tokenSequenceExhausted
  | foreignIssuer
  | tokenAlreadyConsumed
  | tokenCellMismatch
  | invalidWorkerIdentity
  | tokenWorkerMismatch
  | tokenExpired
  | supervisorStateInvalid
  deriving DecidableEq

/-- `AdmissionWorkerIdentity`. -/
structure AdmissionWorkerIdentity where
  rootProcessId : UInt32 := 0
  jobIdentity : String := ""
  executableIdentity : String := ""
  deriving DecidableEq

/-- The worker check that `issue` and `consume` share. -/
def AdmissionWorkerIdentity.incomplete (worker : AdmissionWorkerIdentity) : Bool :=
  worker.rootProcessId == 0 || worker.jobIdentity == "" || worker.executableIdentity == ""

/-- `AdmissionToken`. The defaults are those of a moved-from token. -/
structure AdmissionToken where
  (issuerId tokenId receiptId : UInt64 := 0)
  cell : AdmissionCellIdentity := {}
  worker : AdmissionWorkerIdentity := {}
  (issuedMonotonicMilliseconds expiresMonotonicMilliseconds effectiveCapBytes : UInt64 := 0)
  active : Bool := false
  deriving DecidableEq

/-- `AdmissionToken::invalidate`, which ends a move of the token. -/
def AdmissionToken.invalidated : AdmissionToken := {}

/-- `AdmissionTokenIssuer`; `usedReceiptIds` is the used part of the table
`used_receipt_ids_`. The issuer's mutex belongs to the machine that runs it. -/
structure AdmissionTokenIssuer where
  issuerId : UInt64
  nextTokenId : UInt64 := 1
  usedReceiptIds : List UInt64 := []

/-- `kMaximumReceipts`. -/
def kMaximumReceipts : ℕ := 64

/-- `next_issuer_id`: the id handed out and the sequence after it; 0 once the
sequence is exhausted. -/
def nextIssuerId (sequence : UInt64) : UInt64 × UInt64 :=
  if sequence = 0 ∨ sequence = uint64Max then (0, sequence) else (sequence, sequence + 1)

/-! ## Issue -/

/-- The receipt check of `issue` (admission_token.cpp:105–114). -/
def receiptRejected (issuer : AdmissionTokenIssuer) (receipt : PostContextAdmissionReceipt) :
    Bool :=
  issuer.issuerId == 0 || receipt.receiptId == 0 ||
  !(validateGpuHardCap receipt.policyCeilingBytes).accepted ||
  receipt.requestedTierBytes == 0 ||
  receipt.requestedTierBytes > receipt.policyCeilingBytes ||
  receipt.effectiveCapBytes == 0 ||
  receipt.effectiveCapBytes > receipt.requestedTierBytes ||
  receipt.predictedGpuPeakBytes > receipt.effectiveCapBytes

/-- The checks of `issue` up to `consume_for_token` (admission_token.cpp:105–156):
the status of the first that fails, or the expiry of the token to mint. -/
def AdmissionTokenIssuer.checkIssue (issuer : AdmissionTokenIssuer)
    (receipt : PostContextAdmissionReceipt) (cell : AdmissionCellIdentity)
    (worker : AdmissionWorkerIdentity) (now validity : UInt64) :
    Except AdmissionTokenStatus UInt64 :=
  if receiptRejected issuer receipt then .error .invalidReceipt
  else if !admissionCellIdentityValid cell ∨ receipt.cell ≠ cell then
    .error .invalidCellIdentity
  else if worker.incomplete then .error .invalidWorkerIdentity
  else if now = 0 ∨ now < receipt.evaluationMonotonicMilliseconds ∨ validity = 0 ∨
      validity > receipt.timing.maximumGuardAgeMilliseconds then
    .error .invalidTime
  else
  let requestedExpires := checkedAddU64 now validity
  let receiptExpires := checkedAddU64 receipt.evaluationMonotonicMilliseconds
    receipt.timing.maximumGuardAgeMilliseconds
  if requestedExpires.isNone ∨ receiptExpires.isNone ∨ now ≥ receiptExpires.getD 0 then
    .error .invalidTime
  else if receipt.receiptId ∈ issuer.usedReceiptIds then .error .receiptAlreadyUsed
  else if issuer.usedReceiptIds.length = kMaximumReceipts then .error .issuerCapacityExhausted
  else if issuer.nextTokenId = 0 ∨ issuer.nextTokenId = uint64Max then
    .error .tokenSequenceExhausted
  else .ok (min (requestedExpires.getD 0) (receiptExpires.getD 0))

/-- `PostContextAdmissionReceipt::consume_for_token`: the compare-exchange on the
flag that the copies of the receipt share; `none` if it fails. -/
def PostContextAdmissionReceipt.consumeForToken (receipt : PostContextAdmissionReceipt)
    (consumed : List Bool) : Option (List Bool) :=
  match receipt.tokenConsumed with
  | none => none
  | some address =>
    if consumed[address]? = some false then some (consumed.set address true) else none

/-- The token that `issue` constructs (admission_token.cpp:165–168). -/
def AdmissionTokenIssuer.mint (issuer : AdmissionTokenIssuer)
    (receipt : PostContextAdmissionReceipt) (cell : AdmissionCellIdentity)
    (worker : AdmissionWorkerIdentity) (now expires : UInt64) : AdmissionToken :=
  { issuerId := issuer.issuerId
    tokenId := issuer.nextTokenId
    receiptId := receipt.receiptId
    cell := cell
    worker := worker
    issuedMonotonicMilliseconds := now
    expiresMonotonicMilliseconds := expires
    effectiveCapBytes := receipt.effectiveCapBytes
    active := true }

/-- The issuer after it has minted a token. -/
def AdmissionTokenIssuer.recorded (issuer : AdmissionTokenIssuer)
    (receipt : PostContextAdmissionReceipt) : AdmissionTokenIssuer :=
  { issuer with
    nextTokenId := issuer.nextTokenId + 1
    usedReceiptIds := issuer.usedReceiptIds ++ [receipt.receiptId] }

/-- `AdmissionTokenIssueResult`. -/
structure AdmissionTokenIssueResult where
  status : AdmissionTokenStatus := .invalidReceipt
  token : Option AdmissionToken := none
  deriving DecidableEq

/-- `AdmissionTokenIssuer::issue` (admission_token.cpp:98–171) without
interference: the result, the issuer and the shared flags after it. -/
def AdmissionTokenIssuer.issue (issuer : AdmissionTokenIssuer) (consumed : List Bool)
    (receipt : PostContextAdmissionReceipt) (cell : AdmissionCellIdentity)
    (worker : AdmissionWorkerIdentity) (now validity : UInt64) :
    AdmissionTokenIssueResult × AdmissionTokenIssuer × List Bool :=
  match issuer.checkIssue receipt cell worker now validity with
  | .error status => ({ status := status }, issuer, consumed)
  | .ok expires =>
    match receipt.consumeForToken consumed with
    | none => ({ status := .receiptAlreadyUsed }, issuer, consumed)
    | some consumed' =>
      ({ status := .issued, token := some (issuer.mint receipt cell worker now expires) },
        issuer.recorded receipt, consumed')

/-! ## Consume -/

/-- `terminal_status` (admission_token.cpp:186–200): what a consumption that wins
the token's flag will answer. -/
def AdmissionToken.terminalStatus (token : AdmissionToken) (cell : AdmissionCellIdentity)
    (worker : AdmissionWorkerIdentity) (now : UInt64) : AdmissionTokenStatus :=
  if !admissionCellIdentityValid cell ∨ token.cell ≠ cell then .tokenCellMismatch
  else if worker.incomplete ∨ token.worker ≠ worker then .tokenWorkerMismatch
  else if now < token.issuedMonotonicMilliseconds ∨
      now > token.expiresMonotonicMilliseconds then .tokenExpired
  else .consumed

/-- `AdmissionTokenConsumeResult`. -/
structure AdmissionTokenConsumeResult where
  status : AdmissionTokenStatus := .tokenAlreadyConsumed
  effectiveCapBytes : UInt64 := 0
  deriving DecidableEq

/-- The end of `consume` after the flag was won (admission_token.cpp:208–221). -/
def AdmissionToken.consumeResult (token : AdmissionToken) (terminal : AdmissionTokenStatus) :
    AdmissionTokenConsumeResult :=
  if terminal = .consumed then
    { status := .consumed, effectiveCapBytes := token.effectiveCapBytes }
  else { status := terminal }

/-- `AdmissionTokenIssuer::consume` (admission_token.cpp:173–222) without
interference: the result and the token after it. -/
def AdmissionTokenIssuer.consume (issuer : AdmissionTokenIssuer) (token : AdmissionToken)
    (cell : AdmissionCellIdentity) (worker : AdmissionWorkerIdentity) (now : UInt64) :
    AdmissionTokenConsumeResult × AdmissionToken :=
  if !token.active then ({ status := .tokenAlreadyConsumed }, token)
  else if token.issuerId ≠ issuer.issuerId then ({ status := .foreignIssuer }, token)
  else (token.consumeResult (token.terminalStatus cell worker now), { token with active := false })

/-! ## What the checks guarantee -/

/-- Everything `issue` checked before it asked for the receipt's flag. -/
structure IssueChecked (issuer : AdmissionTokenIssuer) (receipt : PostContextAdmissionReceipt)
    (cell : AdmissionCellIdentity) (worker : AdmissionWorkerIdentity) (now validity : UInt64)
    (expires : UInt64) : Prop where
  receipt_accepted : receiptRejected issuer receipt = false
  cell_valid : admissionCellIdentityValid cell = true
  cell_matched : receipt.cell = cell
  worker_complete : worker.incomplete = false
  now_valid : ¬ (now = 0 ∨ now < receipt.evaluationMonotonicMilliseconds ∨ validity = 0 ∨
    validity > receipt.timing.maximumGuardAgeMilliseconds)
  receipt_unused : receipt.receiptId ∉ issuer.usedReceiptIds
  capacity_left : issuer.usedReceiptIds.length ≠ kMaximumReceipts
  sequence_left : ¬ (issuer.nextTokenId = 0 ∨ issuer.nextTokenId = uint64Max)
  /-- The token outlives its issue, and its receipt bounds its life. -/
  issued_before_expiry : now.toNat < expires.toNat
  expiry_bounded : expires.toNat ≤ receipt.evaluationMonotonicMilliseconds.toNat +
    receipt.timing.maximumGuardAgeMilliseconds.toNat

/-- Counting one on stays below the bound unless the sequence is exhausted. -/
theorem toNat_succ_of_not_exhausted {sequence : UInt64}
    (h : ¬ (sequence = 0 ∨ sequence = uint64Max)) : (sequence + 1).toNat = sequence.toNat + 1 := by
  have hmax : sequence.toNat ≠ uint64Max.toNat := fun heq =>
    h (.inr (UInt64.toNat_inj.1 heq))
  rw [toNat_uint64Max] at hmax
  have hlt := sequence.toNat_lt
  exact toNat_add_of_lt (by simp; omega)

/-- An issuer's id is 0 or the number the sequence stood at, and the sequence is
past it afterwards. -/
theorem nextIssuerId_spec {sequence : UInt64} (h : 0 < sequence.toNat) :
    ((nextIssuerId sequence).1 = 0 ∨ (nextIssuerId sequence).1 = sequence) ∧
      (nextIssuerId sequence).1.toNat < (nextIssuerId sequence).2.toNat ∧
      sequence.toNat ≤ (nextIssuerId sequence).2.toNat := by
  unfold nextIssuerId
  by_cases hexhausted : sequence = 0 ∨ sequence = uint64Max
  · rw [if_pos hexhausted]
    exact ⟨.inl rfl, h, le_rfl⟩
  · rw [if_neg hexhausted]
    have hnext := toNat_succ_of_not_exhausted hexhausted
    refine ⟨.inr rfl, ?_, ?_⟩
    · show sequence.toNat < (sequence + 1).toNat
      omega
    · show sequence.toNat ≤ (sequence + 1).toNat
      omega

/-- `Except` version of one link of a chain of early returns. -/
theorem guard_ok {ε α : Type*} {c : Prop} [Decidable c] {e : ε} {rest : Except ε α} {a : α}
    (h : (if c then .error e else rest) = .ok a) : ¬ c ∧ rest = .ok a := by
  by_cases hc : c
  · rw [if_pos hc] at h
    cases h
  · rw [if_neg hc] at h
    exact ⟨hc, h⟩

variable {worker : AdmissionWorkerIdentity} {cell : AdmissionCellIdentity}

theorem issueChecked_of_ok {issuer : AdmissionTokenIssuer} {receipt : PostContextAdmissionReceipt}
    {now validity expires : UInt64}
    (h : issuer.checkIssue receipt cell worker now validity = .ok expires) :
    IssueChecked issuer receipt cell worker now validity expires := by
  unfold AdmissionTokenIssuer.checkIssue at h
  obtain ⟨hreceipt, h⟩ := guard_ok h
  obtain ⟨hcell, h⟩ := guard_ok h
  obtain ⟨hworker, h⟩ := guard_ok h
  obtain ⟨hnow, h⟩ := guard_ok h
  obtain ⟨hexpires, h⟩ := guard_ok h
  obtain ⟨hunused, h⟩ := guard_ok h
  obtain ⟨hcapacity, h⟩ := guard_ok h
  obtain ⟨hsequence, h⟩ := guard_ok h
  rw [not_or] at hcell
  rw [not_or, not_or, ge_iff_le, UInt64.not_le] at hexpires
  -- both candidate expiries are exact sums, and both lie after `now`
  have hrequested := checkedAddU64_eq_some.1 (eq_some_getD_of_not_isNone 0 hexpires.1)
  have hreceiptExpires := checkedAddU64_eq_some.1 (eq_some_getD_of_not_isNone 0 hexpires.2.1)
  have hbefore := UInt64.lt_iff_toNat_lt.1 hexpires.2.2
  have hvalidity : validity.toNat ≠ 0 := by
    intro hzero
    exact hnow (.inr (.inr (.inl (UInt64.toNat_inj.1 hzero))))
  have hmin := congrArg UInt64.toNat (Except.ok.inj h)
  rw [UInt64.toNat_min, hrequested, hreceiptExpires] at hmin
  rw [hreceiptExpires] at hbefore
  exact
    { receipt_accepted := by simpa using hreceipt
      cell_valid := by simpa using hcell.1
      cell_matched := not_not.1 hcell.2
      worker_complete := by simpa using hworker
      now_valid := hnow
      receipt_unused := hunused
      capacity_left := hcapacity
      sequence_left := hsequence
      issued_before_expiry := by omega
      expiry_bounded := by omega }

/-- A winning consumption answers `Consumed` exactly for the token's own cell and
worker, within its time. -/
theorem terminalStatus_eq_consumed {token : AdmissionToken} {now : UInt64}
    (h : token.terminalStatus cell worker now = .consumed) :
    token.cell = cell ∧ token.worker = worker ∧
      token.issuedMonotonicMilliseconds ≤ now ∧ now ≤ token.expiresMonotonicMilliseconds := by
  unfold AdmissionToken.terminalStatus at h
  split at h
  · cases h
  rename_i hcell
  split at h
  · cases h
  rename_i hworker
  split at h
  · cases h
  rename_i htime
  rw [not_or] at hcell hworker htime
  exact ⟨not_not.1 hcell.2, not_not.1 hworker.2, UInt64.not_lt.1 htime.1,
    UInt64.not_lt.1 htime.2⟩

/-- A rejection is not reported as `Issued`. -/
def NotIssued (checked : Except AdmissionTokenStatus UInt64) : Prop :=
  ∀ status, checked = .error status → status ≠ .issued

theorem notIssued_error {status : AdmissionTokenStatus} (h : status ≠ .issued) :
    NotIssued (.error status) := by
  intro other hother
  cases hother
  exact h

variable (issuer : AdmissionTokenIssuer)

theorem notIssued_checkIssue (receipt : PostContextAdmissionReceipt) (cell : AdmissionCellIdentity)
    (worker : AdmissionWorkerIdentity) (now validity : UInt64) :
    NotIssued (issuer.checkIssue receipt cell worker now validity) := by
  unfold AdmissionTokenIssuer.checkIssue
  repeat refine guard_both NotIssued (notIssued_error (by decide)) ?_
  intro status hstatus
  cases hstatus

/-- `issue` rejects and changes nothing, or mints one token. -/
theorem issue_cases (consumed : List Bool) (receipt : PostContextAdmissionReceipt)
    (cell : AdmissionCellIdentity) (worker : AdmissionWorkerIdentity) (now validity : UInt64) :
    (∃ status, status ≠ .issued ∧ issuer.issue consumed receipt cell worker now validity =
      ({ status := status }, issuer, consumed)) ∨
    ∃ expires consumed', IssueChecked issuer receipt cell worker now validity expires ∧
      issuer.issue consumed receipt cell worker now validity =
        ({ status := .issued, token := some (issuer.mint receipt cell worker now expires) },
          issuer.recorded receipt, consumed') := by
  have hnot := notIssued_checkIssue issuer receipt cell worker now validity
  unfold AdmissionTokenIssuer.issue
  split
  · rename_i status hchecked
    exact .inl ⟨status, hnot status hchecked, rfl⟩
  · rename_i expires hchecked
    split
    · exact .inl ⟨.receiptAlreadyUsed, by decide, rfl⟩
    · rename_i consumed' _
      exact .inr ⟨expires, consumed', issueChecked_of_ok hchecked, rfl⟩

/-- The issuer that passes its own checks has an id. -/
theorem IssueChecked.issuerId_ne_zero {issuer : AdmissionTokenIssuer}
    {receipt : PostContextAdmissionReceipt} {now validity expires : UInt64}
    (h : IssueChecked issuer receipt cell worker now validity expires) : issuer.issuerId ≠ 0 := by
  intro hzero
  have haccepted := h.receipt_accepted
  unfold receiptRejected at haccepted
  rw [hzero] at haccepted
  simp at haccepted

/-- `consume` fails, or takes an active token of its own issuer on its terms. -/
theorem consume_cases (token : AdmissionToken) (cell : AdmissionCellIdentity)
    (worker : AdmissionWorkerIdentity) (now : UInt64) : (∃ status, status ≠ .consumed ∧
      (issuer.consume token cell worker now = ({ status := status }, token) ∨
        issuer.consume token cell worker now =
          ({ status := status }, { token with active := false }))) ∨
    token.active = true ∧ token.issuerId = issuer.issuerId ∧ token.cell = cell ∧
      token.worker = worker ∧ issuer.consume token cell worker now =
        ({ status := .consumed, effectiveCapBytes := token.effectiveCapBytes },
          { token with active := false }) := by
  unfold AdmissionTokenIssuer.consume
  by_cases hactive : token.active = true
  · rw [if_neg (by simp [hactive])]
    by_cases hforeign : token.issuerId ≠ issuer.issuerId
    · rw [if_pos hforeign]
      exact .inl ⟨.foreignIssuer, by decide, .inl rfl⟩
    · rw [if_neg hforeign, AdmissionToken.consumeResult]
      by_cases hterminal : token.terminalStatus cell worker now = .consumed
      · rw [if_pos hterminal]
        obtain ⟨hcell, hworker, -⟩ := terminalStatus_eq_consumed hterminal
        exact .inr ⟨hactive, not_not.1 hforeign, hcell, hworker, rfl⟩
      · rw [if_neg hterminal]
        exact .inl ⟨_, hterminal, .inr rfl⟩
  · rw [if_pos (by simpa using hactive)]
    exact .inl ⟨.tokenAlreadyConsumed, by decide, .inl rfl⟩

end PrismInfer.Governor
