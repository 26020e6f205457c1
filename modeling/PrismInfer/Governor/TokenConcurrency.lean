import PrismInfer.Governor.AdmissionToken
import PrismInfer.Lib.Run

/-!
# Tokens under concurrency

The issuers of a process, the Stage-B receipts with their copies and the tokens,
worked on by any number of threads (admission_token.cpp). A step of a thread is
one access to memory that another thread may write: the issuer's mutex, the
one-shot flag of a receipt, the `active_` flag of a token. What lies between two
such accesses belongs to the step before.

`TokenStep` lists what a step can do, with what it has found; `tokenStep_of_exec`
says that this is all.
-/

namespace PrismInfer.Governor

open PrismInfer.Lib

/-! ## The machine -/

/-- An issuer with its mutex. -/
structure IssuerCell where
  issuer : AdmissionTokenIssuer
  locked : Bool := false

/-- A call of `issue`. The receipt is read, never written, so the call carries
its value; the one-shot flag it shares with its copies is in the ledger. -/
structure IssueCall where
  issuer : ℕ
  receipt : PostContextAdmissionReceipt
  cell : AdmissionCellIdentity
  worker : AdmissionWorkerIdentity
  now : UInt64
  validity : UInt64
  deriving DecidableEq

/-- A call of `consume` on the token object in a slot. -/
structure ConsumeCall where
  issuer : ℕ
  slot : ℕ
  cell : AdmissionCellIdentity
  worker : AdmissionWorkerIdentity
  now : UInt64
  deriving DecidableEq

/-- The program counter of a thread. A consumption that has seen the token active
keeps what it read of the token (`read`). -/
inductive TokenPc
  | idle
  | issueStart (call : IssueCall)
  | issueLocked (call : IssueCall)
  | issueWon (call : IssueCall) (expires : UInt64)
  | consumeStart (call : ConsumeCall)
  | consumeJudged (call : ConsumeCall) (read : AdmissionToken)
  | consumeWon (call : ConsumeCall) (read : AdmissionToken)
  deriving DecidableEq

/-- A process: the receipt ledger, the receipt objects, the issuers, the token
objects and the threads. The defaults are those of a fresh process. -/
structure TokenWorld where
  ledger : ReceiptLedger := {}
  receipts : List PostContextAdmissionReceipt := []
  issuerSequence : UInt64 := 1
  issuers : List IssuerCell := []
  tokens : List AdmissionToken := []
  threads : List TokenPc := []

/-- What can happen next. Destroying an object is to use it no more; assigning a
receipt is a copy or a move of it. A moved-from receipt has lost its flag, and
its strings are unspecified. -/
inductive TokenAction
  | spawn
  | newIssuer
  | stageB (request : PostContextAdmissionRequest)
  | copyReceipt (source : ℕ)
  | moveReceipt (source : ℕ) (leftover : AdmissionCellIdentity)
  | callIssue (thread receipt issuer : ℕ) (cell : AdmissionCellIdentity)
      (worker : AdmissionWorkerIdentity) (now validity : UInt64)
  | callConsume (thread : ℕ) (call : ConsumeCall)
  | advance (thread : ℕ)
  | moveConstruct (source : ℕ)
  | moveAssign (target source : ℕ)

/-- What an action shows: nothing, or the answer of the call it ends. The answer
of a consumption comes with the token as the call found it. -/
inductive TokenOutcome
  | silent
  | issueAnswered (call : IssueCall) (result : AdmissionTokenIssueResult)
  | consumeAnswered (call : ConsumeCall) (found : AdmissionToken)
      (result : AdmissionTokenConsumeResult)

namespace TokenWorld

/-- The world after a thread has moved to a program counter. -/
def setPc (w : TokenWorld) (thread : ℕ) (pc : TokenPc) : TokenWorld :=
  { w with threads := w.threads.set thread pc }

/-- The world after an issuer and its mutex were written. -/
def setIssuer (w : TokenWorld) (i : ℕ) (cell : IssuerCell) : TokenWorld :=
  { w with issuers := w.issuers.set i cell }

/-- The world after a receipt's one-shot flags were written. -/
def setConsumed (w : TokenWorld) (consumed : List Bool) : TokenWorld :=
  { w with ledger := { w.ledger with consumed := consumed } }

/-- The world after a token object was written. -/
def setToken (w : TokenWorld) (slot : ℕ) (token : AdmissionToken) : TokenWorld :=
  { w with tokens := w.tokens.set slot token }

/-- The world after a token object was constructed. -/
def addToken (w : TokenWorld) (token : AdmissionToken) : TokenWorld :=
  { w with tokens := w.tokens ++ [token] }

end TokenWorld

/-- The slot of the token object that a thread's call refers to. -/
def TokenPc.slot? : TokenPc → Option ℕ
  | .consumeStart call | .consumeJudged call _ | .consumeWon call _ => some call.slot
  | _ => none

/-- No running call refers to the token object in the slot. -/
def TokenWorld.unused (w : TokenWorld) (slot : ℕ) : Bool :=
  w.threads.all fun pc => pc.slot? != some slot

/-- `issue` under the mutex up to the compare-exchange on the receipt's flag
(admission_token.cpp:105–159). A rejection returns, and so unlocks. -/
def stepIssueLocked (w : TokenWorld) (thread : ℕ) (call : IssueCall) :
    Option (TokenWorld × TokenOutcome) :=
  match w.issuers[call.issuer]? with
  | none => none
  | some cell =>
    let reject (status : AdmissionTokenStatus) :=
      some ((w.setIssuer call.issuer { cell with locked := false }).setPc thread .idle,
        TokenOutcome.issueAnswered call { status := status })
    match cell.issuer.checkIssue call.receipt call.cell call.worker call.now call.validity with
    | .error status => reject status
    | .ok expires =>
      match call.receipt.consumeForToken w.ledger.consumed with
      | none => reject .receiptAlreadyUsed
      | some consumed =>
        some ((w.setConsumed consumed).setPc thread (.issueWon call expires), .silent)

/-- The end of `issue`: the token is minted, the issuer updated and unlocked
(admission_token.cpp:162–170). -/
def stepIssueWon (w : TokenWorld) (thread : ℕ) (call : IssueCall) (expires : UInt64) :
    Option (TokenWorld × TokenOutcome) :=
  match w.issuers[call.issuer]? with
  | none => none
  | some cell =>
    let token := cell.issuer.mint call.receipt call.cell call.worker call.now expires
    some (((w.setIssuer call.issuer { issuer := cell.issuer.recorded call.receipt }).addToken
        token).setPc thread .idle,
      .issueAnswered call { status := .issued, token := some token })

/-- The load of `active_` and the issuer check (admission_token.cpp:178–185). The
other fields of the token are not written while a call refers to it, so they are
read here once for the whole call. -/
def stepConsumeStart (w : TokenWorld) (thread : ℕ) (call : ConsumeCall) :
    Option (TokenWorld × TokenOutcome) :=
  match w.tokens[call.slot]?, w.issuers[call.issuer]? with
  | some token, some cell =>
    if !token.active then
      some (w.setPc thread .idle,
        .consumeAnswered call token { status := .tokenAlreadyConsumed })
    else if token.issuerId ≠ cell.issuer.issuerId then
      some (w.setPc thread .idle, .consumeAnswered call token { status := .foreignIssuer })
    else some (w.setPc thread (.consumeJudged call token), .silent)
  | _, _ => none

/-- The compare-exchange on `active_` (admission_token.cpp:201–207). -/
def stepConsumeJudged (w : TokenWorld) (thread : ℕ) (call : ConsumeCall)
    (read : AdmissionToken) : Option (TokenWorld × TokenOutcome) :=
  match w.tokens[call.slot]? with
  | none => none
  | some token =>
    if token.active then
      some ((w.setToken call.slot { token with active := false }).setPc thread
        (.consumeWon call read), .silent)
    else
      some (w.setPc thread .idle,
        .consumeAnswered call read { status := .tokenAlreadyConsumed })

/-- The answer of the call that took the flag (admission_token.cpp:208–221). -/
def stepConsumeWon (w : TokenWorld) (thread : ℕ) (call : ConsumeCall) (read : AdmissionToken) :
    Option (TokenWorld × TokenOutcome) :=
  match w.tokens[call.slot]? with
  | none => none
  | some token =>
    some (w.setPc thread .idle,
      .consumeAnswered call read
        (token.consumeResult (read.terminalStatus call.cell call.worker call.now)))

/-- One step of a thread inside a call. -/
def TokenWorld.advance (w : TokenWorld) (thread : ℕ) : Option (TokenWorld × TokenOutcome) :=
  match w.threads[thread]? with
  | none | some .idle => none
  | some (.issueStart call) =>
    match w.issuers[call.issuer]? with
    | some ⟨issuer, false⟩ =>
      some ((w.setIssuer call.issuer ⟨issuer, true⟩).setPc thread (.issueLocked call), .silent)
    | _ => none
  | some (.issueLocked call) => stepIssueLocked w thread call
  | some (.issueWon call expires) => stepIssueWon w thread call expires
  | some (.consumeStart call) => stepConsumeStart w thread call
  | some (.consumeJudged call read) => stepConsumeJudged w thread call read
  | some (.consumeWon call read) => stepConsumeWon w thread call read

/-- Issuers, receipts, tokens and threads of one process, one action at a time.
A token is moved only while no call refers to it or to the target of the move. -/
def TokenWorld.exec (w : TokenWorld) : TokenAction → Option (TokenWorld × TokenOutcome)
  | .spawn => some ({ w with threads := w.threads ++ [.idle] }, .silent)
  | .newIssuer =>
    let (issuerId, sequence) := nextIssuerId w.issuerSequence
    some ({ w with
      issuerSequence := sequence
      issuers := w.issuers ++ [{ issuer := { issuerId := issuerId } }] }, .silent)
  | .stageB request =>
    let result := evaluatePostContextAdmission w.ledger request
    some ({ w with
      ledger := result.2
      receipts := w.receipts ++ result.1.receipt.toList }, .silent)
  | .copyReceipt source =>
    match w.receipts[source]? with
    | none => none
    | some receipt => some ({ w with receipts := w.receipts ++ [receipt] }, .silent)
  | .moveReceipt source leftover =>
    match w.receipts[source]? with
    | none => none
    | some receipt =>
      let left := { receipt with tokenConsumed := none, cell := leftover }
      some ({ w with receipts := w.receipts.set source left ++ [receipt] }, .silent)
  | .callIssue thread receipt issuer cell worker now validity =>
    match w.threads[thread]?, w.receipts[receipt]? with
    | some .idle, some receipt =>
      if issuer < w.issuers.length then
        some (w.setPc thread (.issueStart ⟨issuer, receipt, cell, worker, now, validity⟩),
          .silent)
      else none
    | _, _ => none
  | .callConsume thread call =>
    match w.threads[thread]? with
    | some .idle =>
      if call.slot < w.tokens.length ∧ call.issuer < w.issuers.length then
        some (w.setPc thread (.consumeStart call), .silent)
      else none
    | _ => none
  | .advance thread => w.advance thread
  -- both moves leave the source invalidated (admission_token.cpp:50–68)
  | .moveConstruct source =>
    match w.tokens[source]? with
    | none => none
    | some token =>
      if w.unused source then
        some ((w.setToken source .invalidated).addToken token, .silent)
      else none
  | .moveAssign target source =>
    match w.tokens[target]?, w.tokens[source]? with
    | some _, some token =>
      if w.unused target ∧ w.unused source then
        if target = source then some (w, .silent)
        else some ((w.setToken target token).setToken source .invalidated, .silent)
      else none
    | _, _ => none

/-! ## What a step can do -/

/-- Every step of the machine, with what it has found. -/
inductive TokenStep (w : TokenWorld) : TokenAction → TokenWorld → TokenOutcome → Prop
  | spawn : TokenStep w .spawn { w with threads := w.threads ++ [.idle] } .silent
  | newIssuer : TokenStep w .newIssuer
      { w with
        issuerSequence := (nextIssuerId w.issuerSequence).2
        issuers := w.issuers ++ [{ issuer := { issuerId := (nextIssuerId w.issuerSequence).1 } }] }
      .silent
  | noReceipt (request) : TokenStep w (.stageB request) w .silent
  | newReceipt (request) {receipt} (number : receipt.receiptId = w.ledger.sequence)
      (flag : receipt.tokenConsumed = some w.ledger.consumed.length)
      (sequence : ¬ (w.ledger.sequence = 0 ∨ w.ledger.sequence = uint64Max)) :
      TokenStep w (.stageB request)
        { w with ledger := w.ledger.issued, receipts := w.receipts ++ [receipt] } .silent
  | copied {source receipt} (found : w.receipts[source]? = some receipt) :
      TokenStep w (.copyReceipt source) { w with receipts := w.receipts ++ [receipt] } .silent
  | moved {source receipt} (leftover) (found : w.receipts[source]? = some receipt) :
      TokenStep w (.moveReceipt source leftover)
        { w with
          receipts := w.receipts.set source
            { receipt with tokenConsumed := none, cell := leftover } ++ [receipt] } .silent
  | calledIssue {thread index} (call : IssueCall) (idle : w.threads[thread]? = some .idle)
      (found : w.receipts[index]? = some call.receipt) :
      TokenStep w (.callIssue thread index call.issuer call.cell call.worker call.now
        call.validity) (w.setPc thread (.issueStart call)) .silent
  | calledConsume {thread call} (idle : w.threads[thread]? = some .idle) :
      TokenStep w (.callConsume thread call) (w.setPc thread (.consumeStart call)) .silent
  | locked {thread call cell} (at_pc : w.threads[thread]? = some (.issueStart call))
      (found : w.issuers[call.issuer]? = some cell) (unlocked : cell.locked = false) :
      TokenStep w (.advance thread)
        ((w.setIssuer call.issuer { cell with locked := true }).setPc thread
          (.issueLocked call)) .silent
  | rejected {thread call cell} (status) (at_pc : w.threads[thread]? = some (.issueLocked call))
      (found : w.issuers[call.issuer]? = some cell) :
      TokenStep w (.advance thread)
        ((w.setIssuer call.issuer { cell with locked := false }).setPc thread .idle)
        (.issueAnswered call { status := status })
  | took {thread call cell expires address}
      (at_pc : w.threads[thread]? = some (.issueLocked call))
      (found : w.issuers[call.issuer]? = some cell)
      (checked : IssueChecked cell.issuer call.receipt call.cell call.worker call.now
        call.validity expires)
      (flag : call.receipt.tokenConsumed = some address)
      (fresh : w.ledger.consumed[address]? = some false) :
      TokenStep w (.advance thread)
        ((w.setConsumed (w.ledger.consumed.set address true)).setPc thread
          (.issueWon call expires)) .silent
  | minted {thread call cell expires} (at_pc : w.threads[thread]? = some (.issueWon call expires))
      (found : w.issuers[call.issuer]? = some cell) :
      TokenStep w (.advance thread)
        (((w.setIssuer call.issuer { issuer := cell.issuer.recorded call.receipt }).addToken
          (cell.issuer.mint call.receipt call.cell call.worker call.now expires)).setPc thread
            .idle)
        (.issueAnswered call
          { status := .issued
            token := some (cell.issuer.mint call.receipt call.cell call.worker call.now
              expires) })
  | refused {thread call token} (status) (at_pc : w.threads[thread]? = some (.consumeStart call))
      (found : w.tokens[call.slot]? = some token)
      (untaken : token.active = false ∧ status = .tokenAlreadyConsumed ∨
        (∃ cell, w.issuers[call.issuer]? = some cell ∧
          token.issuerId ≠ cell.issuer.issuerId) ∧ status = .foreignIssuer) :
      TokenStep w (.advance thread) (w.setPc thread .idle)
        (.consumeAnswered call token { status := status })
  | judged {thread call token cell} (at_pc : w.threads[thread]? = some (.consumeStart call))
      (found : w.tokens[call.slot]? = some token) (active : token.active = true)
      (asked : w.issuers[call.issuer]? = some cell)
      (own : token.issuerId = cell.issuer.issuerId) :
      TokenStep w (.advance thread) (w.setPc thread (.consumeJudged call token)) .silent
  | lost {thread call read token}
      (at_pc : w.threads[thread]? = some (.consumeJudged call read))
      (found : w.tokens[call.slot]? = some token) (inactive : token.active = false) :
      TokenStep w (.advance thread) (w.setPc thread .idle)
        (.consumeAnswered call read { status := .tokenAlreadyConsumed })
  | won {thread call read token}
      (at_pc : w.threads[thread]? = some (.consumeJudged call read))
      (found : w.tokens[call.slot]? = some token) (active : token.active = true) :
      TokenStep w (.advance thread)
        ((w.setToken call.slot { token with active := false }).setPc thread
          (.consumeWon call read)) .silent
  | answered {thread call read token}
      (at_pc : w.threads[thread]? = some (.consumeWon call read))
      (found : w.tokens[call.slot]? = some token) :
      TokenStep w (.advance thread) (w.setPc thread .idle)
        (.consumeAnswered call read
          (token.consumeResult (read.terminalStatus call.cell call.worker call.now)))
  | constructed {source token} (found : w.tokens[source]? = some token)
      (unused : w.unused source = true) :
      TokenStep w (.moveConstruct source)
        ((w.setToken source .invalidated).addToken token) .silent
  | assigned {target source token old} (overwritten : w.tokens[target]? = some old)
      (found : w.tokens[source]? = some token) (distinct : target ≠ source)
      (unused : w.unused target = true ∧ w.unused source = true) :
      TokenStep w (.moveAssign target source)
        ((w.setToken target token).setToken source .invalidated) .silent
  | selfAssigned {target} : TokenStep w (.moveAssign target target) w .silent

section Inversion

variable {w w' : TokenWorld} {o : TokenOutcome} {thread : ℕ}

theorem tokenStep_issueLocked {call : IssueCall}
    (hpc : w.threads[thread]? = some (.issueLocked call))
    (h : stepIssueLocked w thread call = some (w', o)) : TokenStep w (.advance thread) w' o := by
  unfold stepIssueLocked at h
  split at h
  · cases h
  rename_i cell hcell
  dsimp only at h
  split at h
  · cases h
    exact .rejected _ hpc hcell
  rename_i expires hchecked
  split at h
  · cases h
    exact .rejected _ hpc hcell
  rename_i consumed hconsumed
  cases h
  unfold PostContextAdmissionReceipt.consumeForToken at hconsumed
  split at hconsumed
  · cases hconsumed
  rename_i address haddress
  split at hconsumed
  · rename_i hfresh
    cases hconsumed
    exact .took hpc hcell (issueChecked_of_ok hchecked) haddress hfresh
  · cases hconsumed

theorem tokenStep_consumeStart {call : ConsumeCall}
    (hpc : w.threads[thread]? = some (.consumeStart call))
    (h : stepConsumeStart w thread call = some (w', o)) : TokenStep w (.advance thread) w' o := by
  unfold stepConsumeStart at h
  split at h
  · rename_i token cell htoken hcell
    split at h
    · rename_i hinactive
      cases h
      exact .refused _ hpc htoken (.inl ⟨by simpa using hinactive, rfl⟩)
    rename_i hactive
    split at h
    · rename_i hforeign
      cases h
      exact .refused _ hpc htoken (.inr ⟨⟨cell, hcell, hforeign⟩, rfl⟩)
    · rename_i hown
      cases h
      exact .judged hpc htoken (by simpa using hactive) hcell (not_not.1 hown)
  · cases h

theorem tokenStep_consumeJudged {call : ConsumeCall} {read : AdmissionToken}
    (hpc : w.threads[thread]? = some (.consumeJudged call read))
    (h : stepConsumeJudged w thread call read = some (w', o)) :
    TokenStep w (.advance thread) w' o := by
  unfold stepConsumeJudged at h
  split at h
  · cases h
  rename_i token htoken
  split at h
  · rename_i hactive
    cases h
    exact .won hpc htoken hactive
  · rename_i hinactive
    cases h
    exact .lost hpc htoken (by simpa using hinactive)

theorem tokenStep_of_advance (h : w.advance thread = some (w', o)) :
    TokenStep w (.advance thread) w' o := by
  unfold TokenWorld.advance at h
  split at h
  · cases h
  · cases h
  · rename_i call hpc
    split at h
    · rename_i issuer hcell
      cases h
      exact .locked hpc hcell rfl
    · cases h
  · rename_i call hpc
    exact tokenStep_issueLocked hpc h
  · rename_i call expires hpc
    unfold stepIssueWon at h
    split at h
    · cases h
    · rename_i cell hcell
      cases h
      exact .minted hpc hcell
  · rename_i call hpc
    exact tokenStep_consumeStart hpc h
  · rename_i call read hpc
    exact tokenStep_consumeJudged hpc h
  · rename_i call read hpc
    unfold stepConsumeWon at h
    split at h
    · cases h
    · rename_i token htoken
      cases h
      exact .answered hpc htoken

theorem tokenStep_of_stageB {request : PostContextAdmissionRequest}
    (h : w.exec (.stageB request) = some (w', o)) : TokenStep w (.stageB request) w' o := by
  have hledger := stageB_ledger w.ledger request
  rw [TokenWorld.exec] at h
  generalize evaluatePostContextAdmission w.ledger request = result at h hledger
  obtain ⟨decision, ledger⟩ := result
  cases h
  dsimp only at hledger ⊢
  rcases hledger with ⟨hnone, rfl⟩ | ⟨receipt, hreceipt, rfl, hnumber, hflag, hsequence⟩
  · rw [hnone, Option.toList_none, List.append_nil]
    exact .noReceipt request
  · rw [hreceipt, Option.toList_some]
    exact .newReceipt request hnumber hflag hsequence

/-- `TokenStep` is all the machine does. -/
theorem tokenStep_of_exec {a : TokenAction} (h : w.exec a = some (w', o)) : TokenStep w a w' o := by
  cases a with
  | spawn =>
    cases h
    exact .spawn
  | newIssuer =>
    cases h
    exact .newIssuer
  | stageB request => exact tokenStep_of_stageB h
  | copyReceipt source =>
    simp only [TokenWorld.exec] at h
    split at h
    · cases h
    · rename_i receipt hreceipt
      cases h
      exact .copied hreceipt
  | moveReceipt source leftover =>
    simp only [TokenWorld.exec] at h
    split at h
    · cases h
    · rename_i receipt hreceipt
      cases h
      exact .moved leftover hreceipt
  | callIssue thread index issuer cell worker now validity =>
    simp only [TokenWorld.exec] at h
    split at h
    · rename_i receipt hidle hreceipt
      split at h
      · cases h
        exact .calledIssue ⟨issuer, receipt, cell, worker, now, validity⟩ hidle hreceipt
      · cases h
    · cases h
  | callConsume thread call =>
    simp only [TokenWorld.exec] at h
    split at h
    · rename_i hidle
      split at h
      · cases h
        exact .calledConsume hidle
      · cases h
    · cases h
  | advance thread => exact tokenStep_of_advance h
  | moveConstruct source =>
    simp only [TokenWorld.exec] at h
    split at h
    · cases h
    · rename_i token htoken
      split at h
      · rename_i hunused
        cases h
        exact .constructed htoken hunused
      · cases h
  | moveAssign target source =>
    simp only [TokenWorld.exec] at h
    split at h
    · rename_i old token hold htoken
      split at h
      · rename_i hunused
        split at h
        · rename_i hself
          cases h
          subst hself
          exact .selfAssigned
        · rename_i hdistinct
          cases h
          exact .assigned hold htoken hdistinct hunused
      · cases h
    · cases h

end Inversion

end PrismInfer.Governor
