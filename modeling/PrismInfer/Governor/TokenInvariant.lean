import PrismInfer.Governor.TokenConcurrency
import PrismInfer.Lib.Tally

/-!
# What holds of tokens in every interleaving

Four invariants of issuers, receipts and tokens, and what a step does to each.

* `NumberInv`: receipt ids follow the addresses of the one-shot flags, and no two
  issuers share an id.
* `MutexInv`: at most one thread is inside `issue` of an issuer.
* `OriginInv`: an active token, and what a consumption has read of one, is a token
  of the trace's issues; each was minted on the terms of its receipt.
* `AccountInv` carries the argument. A receipt's flag is up exactly while one
  issuing thread, or one issued token, accounts for it. The active objects of a
  token, the calls that have taken its flag and the answers of such calls together
  never exceed the one issue that minted it.

`tokenInv_run` has all four after every run.
-/

namespace PrismInfer.Governor

open PrismInfer.Lib AdmissionToken

/-- The calls and answers of a process so far. -/
abbrev TokenTrace := List (TokenAction × TokenOutcome)

/-- The identity of a token, which moves with it. -/
def AdmissionToken.key (token : AdmissionToken) : UInt64 × UInt64 :=
  (token.issuerId, token.tokenId)

/-- An `issue` call has returned the token. -/
def IssuedIn (trace : TokenTrace) (call : IssueCall) (token : AdmissionToken) : Prop :=
  ∃ a result, (a, TokenOutcome.issueAnswered call result) ∈ trace ∧ result.token = some token

variable {trace : TokenTrace} {call : IssueCall} {token : AdmissionToken} {a : TokenAction}
  {o : TokenOutcome} {i thread : ℕ} {cell cell' : IssuerCell} {expires : UInt64}
  {key : UInt64 × UInt64}

theorem IssuedIn.append (h : IssuedIn trace call token) (more : TokenTrace) :
    IssuedIn (trace ++ more) call token := by
  obtain ⟨a, result, hmem, htoken⟩ := h
  exact ⟨a, result, List.mem_append_left _ hmem, htoken⟩

theorem issuedIn_snoc : IssuedIn (trace ++ [(a, o)]) call token ↔ IssuedIn trace call token ∨
      ∃ result, o = .issueAnswered call result ∧ result.token = some token := by
  constructor
  · rintro ⟨a', result, hmem, htoken⟩
    rcases List.mem_append.1 hmem with hold | hnew
    · exact .inl ⟨a', result, hold, htoken⟩
    · obtain ⟨-, rfl⟩ := Prod.mk.inj (List.mem_singleton.1 hnew)
      exact .inr ⟨result, rfl, htoken⟩
  · rintro (hold | ⟨result, rfl, htoken⟩)
    · exact hold.append _
    · exact ⟨a, result, List.mem_append_right _ List.mem_cons_self, htoken⟩

/-! ## Numbers -/

/-- The ids of the issuers, by index. -/
def TokenWorld.issuerIds (w : TokenWorld) : List UInt64 :=
  w.issuers.map (·.issuer.issuerId)

variable {w : TokenWorld}

theorem issuerIds_of_getElem? (h : w.issuers[i]? = some cell) :
    w.issuerIds[i]? = some cell.issuer.issuerId := by
  rw [TokenWorld.issuerIds, List.getElem?_map, h]
  rfl

/-- No write to an issuer changes its id. -/
theorem issuerIds_set {issuers : List IssuerCell} (h : issuers[i]? = some cell)
    (hid : cell'.issuer.issuerId = cell.issuer.issuerId) :
    (issuers.set i cell').map (·.issuer.issuerId) = issuers.map (·.issuer.issuerId) := by
  rw [List.map_set, hid]
  exact (set_of_getElem? (by rw [List.getElem?_map, h]; rfl)).symm

/-- The id of a receipt is one more than the address of its flag. -/
def PostContextAdmissionReceipt.Numbered (receipt : PostContextAdmissionReceipt) : Prop :=
  ∀ address, receipt.tokenConsumed = some address → receipt.receiptId.toNat = address + 1

/-- Ids are handed out in sequence. -/
structure NumberInv (w : TokenWorld) : Prop where
  sequence : w.ledger.sequence.toNat = w.ledger.consumed.length + 1
  receipts : ∀ receipt ∈ w.receipts, receipt.Numbered
  below : ∀ id ∈ w.issuerIds, id.toNat < w.issuerSequence.toNat
  positive : 0 < w.issuerSequence.toNat
  distinct : ∀ (i j : ℕ) (id : UInt64), w.issuerIds[i]? = some id →
    w.issuerIds[j]? = some id → id ≠ 0 → i = j

theorem numberInv_init : NumberInv {} where
  sequence := rfl
  receipts := by simp
  below := by simp [TokenWorld.issuerIds]
  positive := by decide
  distinct := by simp [TokenWorld.issuerIds]

variable {w' : TokenWorld}

/-- What leaves the sequences, the receipts and the issuers' ids alone. -/
theorem NumberInv.of_same (h : NumberInv w) (hsequence : w'.ledger.sequence = w.ledger.sequence)
    (hconsumed : w'.ledger.consumed.length = w.ledger.consumed.length)
    (hreceipts : w'.receipts = w.receipts) (hissuers : w'.issuerSequence = w.issuerSequence)
    (hids : w'.issuerIds = w.issuerIds) : NumberInv w' := by
  constructor
  · rw [hsequence, hconsumed]
    exact h.sequence
  · rw [hreceipts]
    exact h.receipts
  · rw [hids, hissuers]
    exact h.below
  · rw [hissuers]
    exact h.positive
  · rw [hids]
    exact h.distinct

/-- A fresh issuer: either the sequence is exhausted and its id is 0, or its id is
above all others. -/
theorem NumberInv.addIssuer (h : NumberInv w) {id sequence : UInt64}
    (hfresh : ∀ i : ℕ, id ≠ 0 → w.issuerIds[i]? ≠ some id) (hid : id.toNat < sequence.toNat)
    (hsequence : w.issuerSequence.toNat ≤ sequence.toNat) : NumberInv { w with
      issuerSequence := sequence
      issuers := w.issuers ++ [{ issuer := { issuerId := id } }] } := by
  have hids : ({ w with
      issuerSequence := sequence
      issuers := w.issuers ++ [{ issuer := { issuerId := id } }] } : TokenWorld).issuerIds =
        w.issuerIds ++ [id] := by
    simp [TokenWorld.issuerIds]
  refine { h with below := ?_, positive := h.positive.trans_le hsequence, distinct := ?_ }
  · rw [hids]
    exact forall_mem_snoc (fun other hold => (h.below other hold).trans_le hsequence) hid
  · intro i j other hi hj hother
    rw [hids] at hi hj
    rcases getElem?_snoc_cases hi with hold | ⟨rfl, rfl⟩
    · rcases getElem?_snoc_cases hj with hold' | ⟨-, rfl⟩
      · exact h.distinct i j other hold hold' hother
      · exact absurd hold (hfresh i hother)
    · rcases getElem?_snoc_cases hj with hold' | ⟨rfl, -⟩
      · exact absurd hold' (hfresh j hother)
      · rfl

theorem NumberInv.newIssuer (h : NumberInv w) : NumberInv { w with
      issuerSequence := (nextIssuerId w.issuerSequence).2
      issuers := w.issuers ++
        [{ issuer := { issuerId := (nextIssuerId w.issuerSequence).1 } }] } := by
  obtain ⟨hid, hlt, hle⟩ := nextIssuerId_spec h.positive
  refine h.addIssuer ?_ hlt hle
  intro i hnonzero hi
  rcases hid with hzero | hsequence
  · exact hnonzero hzero
  · rw [hsequence] at hi
    exact absurd (h.below _ (List.mem_of_getElem? hi)) (lt_irrefl _)

theorem NumberInv.newReceipt (h : NumberInv w) {receipt : PostContextAdmissionReceipt}
    (hnumber : receipt.receiptId = w.ledger.sequence)
    (hflag : receipt.tokenConsumed = some w.ledger.consumed.length)
    (hsequence : ¬ (w.ledger.sequence = 0 ∨ w.ledger.sequence = uint64Max)) :
    NumberInv { w with ledger := w.ledger.issued, receipts := w.receipts ++ [receipt] } := by
  refine { h with sequence := ?_, receipts := ?_ }
  · show (w.ledger.sequence + 1).toNat = (w.ledger.consumed ++ [false]).length + 1
    rw [toNat_succ_of_not_exhausted hsequence, h.sequence, List.length_append,
      List.length_singleton]
  · refine forall_mem_snoc h.receipts fun address haddress => ?_
    cases hflag.symm.trans haddress
    rw [hnumber, h.sequence]

theorem numberInv_step (h : NumberInv w) (step : TokenStep w a w' o) : NumberInv w' := by
  cases step with
  | newIssuer => exact h.newIssuer
  | newReceipt request number flag sequence => exact h.newReceipt number flag sequence
  | copied found =>
    have hsource := h.receipts _ (List.mem_of_getElem? found)
    exact { h with receipts := forall_mem_snoc h.receipts hsource }
  | moved leftover found =>
    have hsource := h.receipts _ (List.mem_of_getElem? found)
    refine { h with receipts := forall_mem_snoc (forall_mem_set h.receipts ?_) hsource }
    -- the source has lost its flag
    intro address haddress
    cases haddress
  | locked _ found | rejected _ _ found | minted _ found =>
    exact h.of_same rfl rfl rfl rfl (issuerIds_set found rfl)
  | took => exact h.of_same rfl (List.length_set ..) rfl rfl rfl
  | _ => exact h.of_same rfl rfl rfl rfl rfl

/-! ## The issuer's mutex -/

/-- The thread is inside `issue` of the issuer. -/
def TokenPc.holds (i : ℕ) : TokenPc → ℕ
  | .issueLocked call | .issueWon call _ => if call.issuer = i then 1 else 0
  | _ => 0

/-- The state of an issuer's mutex. -/
def TokenWorld.lockedAt (w : TokenWorld) (i : ℕ) : ℕ :=
  (w.issuers[i]?.any (·.locked)).toNat

/-- A mutex is locked exactly while one thread is inside. -/
def MutexInv (w : TokenWorld) : Prop :=
  ∀ i, tally (TokenPc.holds i) w.threads = w.lockedAt i

/-- A write to an issuer sets the state of its mutex. -/
theorem lockedAt_set (h : w.issuers[i]? = some cell) (hset : w'.issuers = w.issuers.set i cell')
    (j : ℕ) : w'.lockedAt j = if i = j then cell'.locked.toNat else w.lockedAt j := by
  rw [TokenWorld.lockedAt, hset]
  by_cases hij : i = j
  · subst hij
    rw [List.getElem?_set_self', h]
    simp
  · rw [List.getElem?_set_ne hij, if_neg hij, TokenWorld.lockedAt]

variable {new : TokenPc} {old : TokenPc}

/-- A thread moves and a mutex changes with it. -/
theorem MutexInv.setIssuer (h : MutexInv w) (hpc : w.threads[thread]? = some old)
    (hthreads : w'.threads = w.threads.set thread new) (hcell : w.issuers[i]? = some cell)
    (hissuers : w'.issuers = w.issuers.set i cell') (hsame : ∀ j, j ≠ i → new.holds j = old.holds j)
    (hchange : new.holds i + cell.locked.toNat = old.holds i + cell'.locked.toNat) :
    MutexInv w' := by
  intro j
  have hset := tally_set (TokenPc.holds j) hpc new
  have hj := h j
  rw [hthreads, lockedAt_set hcell hissuers]
  by_cases hij : i = j
  · subst hij
    rw [TokenWorld.lockedAt, hcell] at hj
    simp only [Option.any_some] at hj
    rw [if_pos rfl]
    omega
  · rw [if_neg hij]
    have := hsame j (Ne.symm hij)
    omega

/-- A thread moves and stays inside, or outside, every issuer. -/
theorem MutexInv.setPc (h : MutexInv w) (hpc : w.threads[thread]? = some old)
    (hthreads : w'.threads = w.threads.set thread new) (hissuers : w'.issuers = w.issuers)
    (hsame : ∀ j, new.holds j = old.holds j) : MutexInv w' := by
  intro j
  have hset := tally_set (TokenPc.holds j) hpc new
  have hj := h j
  have := hsame j
  rw [hthreads, TokenWorld.lockedAt, hissuers, ← TokenWorld.lockedAt]
  omega

variable {pc : TokenPc}

/-- A thread inside an issuer has its mutex. -/
theorem MutexInv.locked_of_holds (h : MutexInv w) (hpc : w.threads[thread]? = some pc)
    (hholds : pc.holds i = 1) (hcell : w.issuers[i]? = some cell) : cell.locked = true := by
  have hle := le_tally (TokenPc.holds i) (List.mem_of_getElem? hpc)
  rw [h i, TokenWorld.lockedAt, hcell, hholds] at hle
  cases hlocked : cell.locked with
  | true => rfl
  | false => simp [hlocked] at hle

/-- No other thread is inside an issuer that a thread is about to leave. -/
theorem MutexInv.alone (h : MutexInv w) (hpc : w.threads[thread]? = some old)
    (hold : old.holds i = 1) (hnew : new.holds i = 0) (hmem : pc ∈ w.threads.set thread new) :
    pc.holds i = 0 := by
  have hset := tally_set (TokenPc.holds i) hpc new
  have hle := le_tally (TokenPc.holds i) hmem
  have hone : w.lockedAt i ≤ 1 := Bool.toNat_le _
  have := h i
  omega

/-- A thread leaves an issuer and unlocks its mutex. -/
theorem MutexInv.unlock (h : MutexInv w) (hpc : w.threads[thread]? = some old)
    (hthreads : w'.threads = w.threads.set thread .idle) (hcell : w.issuers[i]? = some cell)
    (hissuers : w'.issuers = w.issuers.set i cell') (hunlocked : cell'.locked = false)
    (hinside : ∀ j, old.holds j = if i = j then 1 else 0) : MutexInv w' := by
  have hlocked := h.locked_of_holds hpc (by rw [hinside, if_pos rfl]) hcell
  refine h.setIssuer hpc hthreads hcell hissuers (fun j hj => ?_) ?_
  · rw [hinside, if_neg hj.symm]
    rfl
  · rw [hinside, if_pos rfl, hlocked, hunlocked]
    rfl

theorem mutexInv_step (h : MutexInv w) (step : TokenStep w a w' o) : MutexInv w' := by
  cases step with
  | spawn =>
    intro i
    rw [tally_snoc]
    exact h i
  | newIssuer =>
    intro i
    rw [h i, TokenWorld.lockedAt, TokenWorld.lockedAt, List.getElem?_append]
    by_cases hold : i < w.issuers.length
    · rw [if_pos hold]
    · rw [if_neg hold, List.getElem?_eq_none (by omega), List.getElem?_singleton]
      split <;> rfl
  | @locked thread call cell at_pc found unlocked =>
    refine h.setIssuer at_pc rfl found rfl (fun j hj => ?_) ?_
    · simp [TokenPc.holds, Ne.symm hj]
    · simp [TokenPc.holds, unlocked]
  | rejected _ at_pc found | minted at_pc found =>
    exact h.unlock at_pc rfl found rfl rfl fun _ => rfl
  | calledIssue _ at_pc | calledConsume at_pc | took at_pc | refused _ at_pc | judged at_pc
  | lost at_pc | won at_pc | answered at_pc => exact h.setPc at_pc rfl rfl fun _ => rfl
  | _ => exact h

/-! ## Where tokens come from -/

/-- The terms on which `issue` mints a token. -/
structure MintTerms (call : IssueCall) (token : AdmissionToken) : Prop where
  active : token.active = true
  own_issuer : token.issuerId ≠ 0
  flag : ∃ address, call.receipt.tokenConsumed = some address ∧
    call.receipt.receiptId.toNat = address + 1
  receipt : token.receiptId = call.receipt.receiptId
  cell : token.cell = call.cell
  cell_valid : admissionCellIdentityValid call.cell = true
  worker : token.worker = call.worker
  worker_complete : call.worker.incomplete = false
  cap : token.effectiveCapBytes = call.receipt.effectiveCapBytes
  issued : token.issuedMonotonicMilliseconds = call.now
  expiry : token.expiresMonotonicMilliseconds.toNat ≤
    call.receipt.evaluationMonotonicMilliseconds.toNat +
      call.receipt.timing.maximumGuardAgeMilliseconds.toNat

/-- The token carries the id of the issuer it was asked of, and a token id that
the issuer has gone past. -/
structure MintedAt (w : TokenWorld) (call : IssueCall) (token : AdmissionToken) : Prop where
  issuer : w.issuerIds[call.issuer]? = some token.issuerId
  passed : ∃ cell, w.issuers[call.issuer]? = some cell ∧
    token.tokenId.toNat < cell.issuer.nextTokenId.toNat

/-- What a thread in the middle of a call knows. -/
def TokenPc.Sound (trace : TokenTrace) (w : TokenWorld) : TokenPc → Prop
  | .issueStart call | .issueLocked call => call.receipt.Numbered
  | .issueWon call expires =>
    call.receipt.Numbered ∧ (∃ address, call.receipt.tokenConsumed = some address) ∧
      ∃ cell, w.issuers[call.issuer]? = some cell ∧
        IssueChecked cell.issuer call.receipt call.cell call.worker call.now call.validity expires
  | .consumeJudged call read | .consumeWon call read =>
    (∃ issue, IssuedIn trace issue read) ∧ w.issuerIds[call.issuer]? = some read.issuerId ∧
      ∃ token, w.tokens[call.slot]? = some token ∧ { token with active := true } = read
  | _ => True

/-- Active tokens and what threads have read of tokens come from issues. -/
structure OriginInv (trace : TokenTrace) (w : TokenWorld) : Prop where
  pcs : ∀ pc ∈ w.threads, pc.Sound trace w
  objects : ∀ token ∈ w.tokens, token.active = true → ∃ issue, IssuedIn trace issue token
  minted : ∀ issue token, IssuedIn trace issue token →
    MintTerms issue token ∧ MintedAt w issue token

/-- Issuers stay, keep their ids, and count their tokens upwards. -/
def IssuersGrow (w w' : TokenWorld) : Prop :=
  ∀ (i : ℕ) cell, w.issuers[i]? = some cell → ∃ cell', w'.issuers[i]? = some cell' ∧
    cell'.issuer.issuerId = cell.issuer.issuerId ∧
    cell.issuer.nextTokenId.toNat ≤ cell'.issuer.nextTokenId.toNat

theorem IssuersGrow.refl (w w' : TokenWorld) (h : w'.issuers = w.issuers) : IssuersGrow w w' := by
  intro i cell hcell
  exact ⟨cell, h ▸ hcell, rfl, le_rfl⟩

theorem IssuersGrow.set (hcell : w.issuers[i]? = some cell)
    (hset : w'.issuers = w.issuers.set i cell') (hid : cell'.issuer.issuerId = cell.issuer.issuerId)
    (hnext : cell.issuer.nextTokenId.toNat ≤ cell'.issuer.nextTokenId.toNat) :
    IssuersGrow w w' := by
  intro j other hother
  rw [hset]
  exact exists_getElem?_set (r := fun x y => x.issuer.issuerId = y.issuer.issuerId ∧
    y.issuer.nextTokenId.toNat ≤ x.issuer.nextTokenId.toNat) (fun _ => ⟨rfl, le_rfl⟩) hcell
    ⟨hid, hnext⟩ hother

theorem IssuersGrow.ids (h : IssuersGrow w w') {id : UInt64} (hid : w.issuerIds[i]? = some id) :
    w'.issuerIds[i]? = some id := by
  rw [TokenWorld.issuerIds, List.getElem?_map, Option.map_eq_some_iff] at hid
  obtain ⟨cell, hcell, rfl⟩ := hid
  obtain ⟨cell', hcell', hsame, -⟩ := h i cell hcell
  rw [issuerIds_of_getElem? hcell', hsame]

theorem MintedAt.grow (h : MintedAt w call token) (hgrow : IssuersGrow w w') :
    MintedAt w' call token := by
  obtain ⟨cell, hcell, hlt⟩ := h.passed
  obtain ⟨cell', hcell', -, hle⟩ := hgrow _ _ hcell
  exact ⟨hgrow.ids h.issuer, cell', hcell', hlt.trans_le hle⟩

/-- What a thread knows survives a step of another thread that does not write an
issuer the thread is inside of, and changes no more than the flag of a token the
thread refers to. -/
theorem TokenPc.Sound.frame (h : pc.Sound trace w) (more : TokenTrace) (hgrow : IssuersGrow w w')
    (hissuers : ∀ (i : ℕ) cell, pc.holds i = 1 → w.issuers[i]? = some cell →
      ∃ cell', w'.issuers[i]? = some cell' ∧ cell'.issuer = cell.issuer)
    (htokens : ∀ (slot : ℕ) token, pc.slot? = some slot → w.tokens[slot]? = some token →
      ∃ token', w'.tokens[slot]? = some token' ∧
        { token' with active := true } = { token with active := true }) :
    pc.Sound (trace ++ more) w' := by
  cases pc with
  | issueWon call expires =>
    obtain ⟨hnumbered, hflag, cell, hcell, hchecked⟩ := h
    obtain ⟨cell', hcell', hsame⟩ := hissuers call.issuer cell (by simp [TokenPc.holds]) hcell
    exact ⟨hnumbered, hflag, cell', hcell', hsame ▸ hchecked⟩
  | consumeJudged call read | consumeWon call read =>
    obtain ⟨⟨issue, hissued⟩, hid, token, htoken, hread⟩ := h
    obtain ⟨token', htoken', hsame⟩ := htokens call.slot token rfl htoken
    exact ⟨⟨issue, hissued.append more⟩, hgrow.ids hid, token', htoken', hsame.trans hread⟩
  | _ => exact h

/-- The frame of a step that writes neither issuers nor tokens. -/
theorem TokenPc.Sound.same (h : pc.Sound trace w) (more : TokenTrace)
    (hissuers : w'.issuers = w.issuers) (htokens : w'.tokens = w.tokens) :
    pc.Sound (trace ++ more) w' := by
  refine h.frame more (.refl w w' hissuers) ?_ ?_
  · intro i cell _ hcell
    exact ⟨cell, hissuers ▸ hcell, rfl⟩
  · intro slot token _ htoken
    exact ⟨token, htokens ▸ htoken, rfl⟩

variable {read : AdmissionToken}

section OriginSteps

section

variable (h : OriginInv trace w)
  (hquiet : ∀ issue result, o = .issueAnswered issue result → result.token = none)
include h

section

include hquiet

/-- A step that ends no `issue` with a token. -/
theorem OriginInv.extend (hgrow : IssuersGrow w w')
    (hpcs : ∀ pc ∈ w'.threads, pc.Sound (trace ++ [(a, o)]) w')
    (hobjects : ∀ token ∈ w'.tokens, token.active = true → token ∈ w.tokens) :
    OriginInv (trace ++ [(a, o)]) w' := by
  refine ⟨hpcs, ?_, ?_⟩
  · intro token hmem hactive
    obtain ⟨issue, hissued⟩ := h.objects token (hobjects token hmem hactive) hactive
    exact ⟨issue, hissued.append _⟩
  · intro issue token hissued
    rcases issuedIn_snoc.1 hissued with hold | ⟨result, ho, htoken⟩
    · obtain ⟨hterms, hminted⟩ := h.minted issue token hold
      exact ⟨hterms, hminted.grow hgrow⟩
    · rw [hquiet issue result ho] at htoken
      cases htoken

/-- A step that writes neither issuers, tokens nor threads. -/
theorem OriginInv.same (hissuers : w'.issuers = w.issuers) (htokens : w'.tokens = w.tokens)
    (hthreads : w'.threads = w.threads) : OriginInv (trace ++ [(a, o)]) w' := by
  refine h.extend hquiet (.refl w w' hissuers) ?_ ?_
  · intro pc hmem
    exact (h.pcs pc (hthreads ▸ hmem)).same _ hissuers htokens
  · intro token hmem _
    exact htokens ▸ hmem

/-- A step that only moves a thread. -/
theorem OriginInv.setPc (hissuers : w'.issuers = w.issuers) (htokens : w'.tokens = w.tokens)
    (hthreads : w'.threads = w.threads.set thread new) (hnew : new.Sound (trace ++ [(a, o)]) w') :
    OriginInv (trace ++ [(a, o)]) w' := by
  refine h.extend hquiet (.refl w w' hissuers) ?_ ?_
  · rw [hthreads]
    exact forall_mem_set (fun pc hold => (h.pcs pc hold).same _ hissuers htokens) hnew
  · intro token hmem _
    exact htokens ▸ hmem

/-- A step that moves a thread and works its issuer's mutex. -/
theorem OriginInv.relock {locked : Bool} (hcell : w.issuers[i]? = some cell)
    (hissuers : w'.issuers = w.issuers.set i { cell with locked := locked })
    (htokens : w'.tokens = w.tokens) (hthreads : w'.threads = w.threads.set thread new)
    (hnew : new.Sound (trace ++ [(a, o)]) w') : OriginInv (trace ++ [(a, o)]) w' := by
  have hgrow : IssuersGrow w w' := .set hcell hissuers rfl le_rfl
  refine h.extend hquiet hgrow ?_ ?_
  · rw [hthreads]
    refine forall_mem_set (fun pc hold => (h.pcs pc hold).frame _ hgrow ?_ ?_) hnew
    · -- the mutex changes, the issuer does not
      intro j other _ hother
      rw [hissuers]
      exact exists_getElem?_set (r := fun x y => x.issuer = y.issuer) (b := { cell with locked })
        (fun _ => rfl) hcell rfl hother
    · intro slot token _ htoken
      exact ⟨token, htokens ▸ htoken, rfl⟩
  · intro token hmem _
    exact htokens ▸ hmem

end

/-- The call that took a token's flag changes nothing else of the token. -/
theorem OriginInv.won {call : ConsumeCall}
    (hpc : w.threads[thread]? = some (.consumeJudged call read))
    (htoken : w.tokens[call.slot]? = some token) : OriginInv (trace ++ [(a, .silent)])
      ((w.setToken call.slot { token with active := false }).setPc thread
        (.consumeWon call read)) := by
  -- every slot still holds the same token, flag apart
  have hsame : ∀ (slot : ℕ) other, w.tokens[slot]? = some other → ∃ other',
      (w.tokens.set call.slot { token with active := false })[slot]? = some other' ∧
        { other' with active := true } = { other with active := true } :=
    fun slot other hother => exists_getElem?_set
      (r := fun x y => { x with active := true } = { y with active := true }) (fun _ => rfl) htoken
      (by rfl) hother
  refine h.extend (fun _ _ ho => by cases ho) (.refl _ _ rfl) ?_ ?_
  · intro pc hmem
    rcases List.mem_or_eq_of_mem_set hmem with hold | rfl
    · exact (h.pcs pc hold).frame _ (.refl _ _ rfl) (fun i cell _ hcell => ⟨cell, hcell, rfl⟩)
        fun slot other _ hother => hsame slot other hother
    · obtain ⟨⟨issue, hissued⟩, hid, other, hother, hread⟩ :=
        h.pcs _ (List.mem_of_getElem? hpc)
      obtain ⟨other', hother', hsame'⟩ := hsame call.slot other hother
      exact ⟨⟨issue, hissued.append _⟩, hid, other', hother', hsame'.trans hread⟩
  · intro other hmem hactive
    rcases List.mem_or_eq_of_mem_set hmem with hold | rfl
    · exact hold
    · cases hactive

/-- A move of tokens that no call refers to. -/
theorem OriginInv.moveTokens {tokens : List AdmissionToken}
    (hunused : ∀ pc ∈ w.threads, ∀ (slot : ℕ), pc.slot? = some slot →
      ∀ token, w.tokens[slot]? = some token → tokens[slot]? = some token)
    (hobjects : ∀ token ∈ tokens, token.active = true → token ∈ w.tokens) :
    OriginInv (trace ++ [(a, .silent)]) { w with tokens := tokens } := by
  refine h.extend (fun _ _ ho => by cases ho) (.refl _ _ rfl) ?_ hobjects
  intro pc hmem
  refine (h.pcs pc hmem).frame _ (.refl _ _ rfl) (fun i cell _ hcell => ⟨cell, hcell, rfl⟩) ?_
  intro slot token hslot htoken
  exact ⟨token, hunused pc hmem slot hslot token htoken, rfl⟩

end

/-- The token that is minted has the terms of its call. -/
theorem mintTerms_of_checked {issuer : AdmissionTokenIssuer} (hnumbered : call.receipt.Numbered)
    (hflag : ∃ address, call.receipt.tokenConsumed = some address)
    (hchecked : IssueChecked issuer call.receipt call.cell call.worker call.now call.validity
      expires) :
    MintTerms call (issuer.mint call.receipt call.cell call.worker call.now expires) where
  active := rfl
  own_issuer := hchecked.issuerId_ne_zero
  flag := by
    obtain ⟨address, haddress⟩ := hflag
    exact ⟨address, haddress, hnumbered address haddress⟩
  receipt := rfl
  cell := rfl
  cell_valid := hchecked.cell_valid
  worker := rfl
  worker_complete := hchecked.worker_complete
  cap := rfl
  issued := rfl
  expiry := hchecked.expiry_bounded

/-- A slot that no call refers to is not the slot of a call. -/
theorem ne_of_unused {slot other : ℕ} (hunused : w.unused slot = true) (hmem : pc ∈ w.threads)
    (hother : pc.slot? = some other) : slot ≠ other := by
  rintro rfl
  have := List.all_eq_true.1 hunused pc hmem
  rw [hother] at this
  simp at this

theorem originInv_minted (h : OriginInv trace w) (hmutex : MutexInv w)
    (hpc : w.threads[thread]? = some (.issueWon call expires))
    (hcell : w.issuers[call.issuer]? = some cell) :
    let token := cell.issuer.mint call.receipt call.cell call.worker call.now expires
    OriginInv (trace ++ [(a, .issueAnswered call { status := .issued, token := some token })])
      (((w.setIssuer call.issuer { issuer := cell.issuer.recorded call.receipt }).addToken
        token).setPc thread .idle) := by
  intro token
  obtain ⟨hnumbered, hflag, cell', hcell', hchecked⟩ := h.pcs _ (List.mem_of_getElem? hpc)
  cases hcell.symm.trans hcell'
  have hnext : (cell.issuer.nextTokenId + 1).toNat = cell.issuer.nextTokenId.toNat + 1 :=
    toNat_succ_of_not_exhausted hchecked.sequence_left
  have hgrow : IssuersGrow w (((w.setIssuer call.issuer
      { issuer := cell.issuer.recorded call.receipt }).addToken token).setPc thread .idle) :=
    .set hcell rfl rfl (hnext.symm ▸ Nat.le_succ _)
  refine ⟨?_, ?_, ?_⟩
  · intro pc hmem
    rcases List.mem_or_eq_of_mem_set hmem with hold | rfl
    · refine (h.pcs pc hold).frame _ hgrow ?_ ?_
      · -- no other thread is inside this issuer
        intro i other hholds hother
        have hne : call.issuer ≠ i := by
          rintro rfl
          have hwon : (TokenPc.issueWon call expires).holds call.issuer = 1 := if_pos rfl
          have hnone : pc.holds call.issuer = 0 := hmutex.alone hpc hwon rfl hmem
          omega
        exact ⟨other, by
          show (w.issuers.set call.issuer _)[i]? = some other
          rw [List.getElem?_set_ne hne, hother], rfl⟩
      · intro slot other _ hother
        exact ⟨other, getElem?_snoc_of hother token, rfl⟩
    · trivial
  · refine forall_mem_snoc (fun other hold hactive => ?_)
      fun _ => ⟨call, issuedIn_snoc.2 (.inr ⟨_, rfl, rfl⟩)⟩
    obtain ⟨issue, hissued⟩ := h.objects other hold hactive
    exact ⟨issue, hissued.append _⟩
  · intro issue other hissued
    rcases issuedIn_snoc.1 hissued with hold | ⟨result, ho, htoken⟩
    · obtain ⟨hterms, hminted⟩ := h.minted issue other hold
      exact ⟨hterms, hminted.grow hgrow⟩
    · cases ho
      obtain rfl := Option.some.inj htoken
      refine ⟨mintTerms_of_checked hnumbered hflag hchecked,
        hgrow.ids (issuerIds_of_getElem? hcell), _, getElem?_set_of hcell _, ?_⟩
      show cell.issuer.nextTokenId.toNat < (cell.issuer.nextTokenId + 1).toNat
      omega

theorem originInv_step (h : OriginInv trace w) (hnumber : NumberInv w) (hmutex : MutexInv w)
    (step : TokenStep w a w' o) : OriginInv (trace ++ [(a, o)]) w' := by
  have hsilent : ∀ issue result, TokenOutcome.silent = .issueAnswered issue result →
      result.token = none := fun _ _ ho => by cases ho
  cases step with
  | spawn =>
    refine h.extend hsilent (.refl _ _ rfl) ?_ (fun token hmem _ => hmem)
    exact forall_mem_snoc (fun pc hold => (h.pcs pc hold).same _ rfl rfl) trivial
  | newIssuer =>
    -- the new issuer comes after the old ones
    have hgrow : IssuersGrow w { w with
        issuerSequence := (nextIssuerId w.issuerSequence).2
        issuers := w.issuers ++
          [{ issuer := { issuerId := (nextIssuerId w.issuerSequence).1 } }] } :=
      fun i cell hcell => ⟨cell, getElem?_snoc_of hcell _, rfl, le_rfl⟩
    refine h.extend hsilent hgrow ?_ (fun token hmem _ => hmem)
    intro pc hmem
    exact (h.pcs pc hmem).frame _ hgrow
      (fun i cell _ hcell => ⟨cell, getElem?_snoc_of hcell _, rfl⟩)
      fun slot token _ htoken => ⟨token, htoken, rfl⟩
  | @calledIssue thread index call idle found =>
    exact h.setPc hsilent rfl rfl rfl (hnumber.receipts _ (List.mem_of_getElem? found))
  | calledConsume => exact h.setPc hsilent rfl rfl rfl trivial
  | @locked thread call cell at_pc found unlocked =>
    have hnumbered : call.receipt.Numbered := h.pcs _ (List.mem_of_getElem? at_pc)
    exact h.relock hsilent found rfl rfl rfl hnumbered
  | rejected _ _ found => exact h.relock (fun _ _ ho => by cases ho; rfl) found rfl rfl rfl trivial
  | @took thread call cell expires address at_pc found checked flag fresh =>
    have hnumbered : call.receipt.Numbered := h.pcs _ (List.mem_of_getElem? at_pc)
    exact h.setPc hsilent rfl rfl rfl ⟨hnumbered, ⟨address, flag⟩, cell, found, checked⟩
  | minted at_pc found => exact originInv_minted h hmutex at_pc found
  | refused | lost | answered => exact h.setPc (fun _ _ ho => by cases ho) rfl rfl rfl trivial
  | @judged thread call token cell at_pc found active asked own =>
    obtain ⟨issue, hissued⟩ := h.objects token (List.mem_of_getElem? found) active
    refine h.setPc hsilent rfl rfl rfl ⟨⟨issue, hissued.append _⟩, ?_, token, found, ?_⟩
    · rw [own]
      exact issuerIds_of_getElem? asked
    · rw [← active]
  | won at_pc found active => exact h.won at_pc found
  | @constructed source token found unused =>
    refine h.moveTokens ?_ ?_
    · intro pc hmem slot hslot other hother
      refine getElem?_snoc_of ?_ token
      show (w.tokens.set source .invalidated)[slot]? = some other
      rw [List.getElem?_set_ne (ne_of_unused unused hmem hslot), hother]
    · exact forall_mem_snoc (forall_mem_set (fun _ hold _ => hold) fun hactive => by cases hactive)
        fun _ => List.mem_of_getElem? found
  | @assigned target source token old overwritten found distinct unused =>
    refine h.moveTokens ?_ ?_
    · intro pc hmem slot hslot other hother
      show ((w.tokens.set target token).set source .invalidated)[slot]? = some other
      rw [List.getElem?_set_ne (ne_of_unused unused.2 hmem hslot),
        List.getElem?_set_ne (ne_of_unused unused.1 hmem hslot), hother]
    · exact forall_mem_set (forall_mem_set (fun _ hold _ => hold)
        fun _ => List.mem_of_getElem? found) fun hactive => by cases hactive
  | _ => exact h.same hsilent rfl rfl rfl

end OriginSteps

/-! ## Accounts -/

/-- The thread has taken the one-shot flag at the address. -/
def TokenPc.tookReceipt (address : ℕ) : TokenPc → ℕ
  | .issueWon call _ => if call.receipt.tokenConsumed = some address then 1 else 0
  | _ => 0

/-- The thread has taken the `active_` flag of the token. -/
def TokenPc.tookToken (key : UInt64 × UInt64) : TokenPc → ℕ
  | .consumeWon _ read => if read.key = key then 1 else 0
  | _ => 0

/-- The object is the token. -/
def AdmissionToken.named (key : UInt64 × UInt64) (token : AdmissionToken) : ℕ :=
  if token.key = key then 1 else 0

/-- The object is the token and active. -/
def AdmissionToken.activeAs (key : UInt64 × UInt64) (token : AdmissionToken) : ℕ :=
  if token.active = true ∧ token.key = key then 1 else 0

/-- The call that gave the answer had taken the token's flag. -/
def AdmissionTokenStatus.tookFlag : AdmissionTokenStatus → Bool
  | .tokenAlreadyConsumed | .foreignIssuer => false
  | _ => true

/-- A token was issued from a receipt with the flag at the address. -/
def issuedFlag (address : ℕ) : TokenAction × TokenOutcome → ℕ
  | (_, .issueAnswered call ⟨_, some _⟩) =>
    if call.receipt.tokenConsumed = some address then 1 else 0
  | _ => 0

/-- The token was issued. -/
def issuedToken (key : UInt64 × UInt64) : TokenAction × TokenOutcome → ℕ
  | (_, .issueAnswered _ ⟨_, some token⟩) => if token.key = key then 1 else 0
  | _ => 0

/-- A call that had taken the token's flag was answered. -/
def spentToken (key : UInt64 × UInt64) : TokenAction × TokenOutcome → ℕ
  | (_, .consumeAnswered _ found result) =>
    if result.status.tookFlag = true ∧ found.key = key then 1 else 0
  | _ => 0

/-- The state of the one-shot flag at the address. -/
def TokenWorld.flagAt (w : TokenWorld) (address : ℕ) : ℕ :=
  if w.ledger.consumed[address]? = some true then 1 else 0

/-- Who accounts for flags, tokens and objects. -/
structure AccountInv (trace : TokenTrace) (w : TokenWorld) : Prop where
  receipts : ∀ address, tally (TokenPc.tookReceipt address) w.threads +
    tally (issuedFlag address) trace = w.flagAt address
  tokens : ∀ key, tally (activeAs key) w.tokens +
    tally (TokenPc.tookToken key) w.threads + tally (spentToken key) trace ≤
      tally (issuedToken key) trace
  objects : ∀ key, key.1 ≠ 0 →
    tally (named key) w.tokens ≤ tally (issuedToken key) trace
  once : ∀ key, tally (issuedToken key) trace ≤ 1

theorem named_invalidated (h : key.1 ≠ 0) : invalidated.named key = 0 := by
  refine if_neg ?_
  rintro rfl
  exact h rfl

theorem activeAs_of_inactive (h : token.active = false) : token.activeAs key = 0 := by
  refine if_neg ?_
  rintro ⟨hactive, -⟩
  rw [h] at hactive
  cases hactive

theorem activeAs_of_active (h : token.active = true) : token.activeAs key = token.named key := by
  simp [activeAs, named, h]

theorem spentToken_of_not_took {call : ConsumeCall} {found : AdmissionToken}
    {result : AdmissionTokenConsumeResult} (h : result.status.tookFlag = false) :
    spentToken key (a, .consumeAnswered call found result) = 0 := by
  refine if_neg ?_
  rintro ⟨htook, -⟩
  rw [h] at htook
  cases htook

section AccountSteps

variable {old : TokenPc}

section

variable (h : AccountInv trace w)
include h

/-- A step of a thread that issues nothing: what the thread and the trace account
for is exchanged with what flags and tokens show. -/
theorem AccountInv.step (hpc : w.threads[thread]? = some old)
    (hthreads : w'.threads = w.threads.set thread new)
    (hflag : ∀ address, issuedFlag address (a, o) = 0) (htoken : ∀ key, issuedToken key (a, o) = 0)
    (hreceipts : ∀ address, new.tookReceipt address + w.flagAt address =
      old.tookReceipt address + w'.flagAt address)
    (htokens : ∀ key, tally (activeAs key) w'.tokens + new.tookToken key +
      spentToken key (a, o) ≤
        tally (activeAs key) w.tokens + old.tookToken key)
    (hobjects : ∀ key, tally (named key) w'.tokens =
      tally (named key) w.tokens) : AccountInv (trace ++ [(a, o)]) w' := by
  refine ⟨fun address => ?_, fun key => ?_, fun key hkey => ?_, fun key => ?_⟩
  · have hset := tally_set (TokenPc.tookReceipt address) hpc new
    have h₁ := h.receipts address
    have h₂ := hreceipts address
    rw [hthreads, tally_snoc, hflag address]
    omega
  · have hset := tally_set (TokenPc.tookToken key) hpc new
    have h₁ := h.tokens key
    have h₂ := htokens key
    rw [hthreads, tally_snoc, tally_snoc, htoken key]
    omega
  · rw [hobjects, tally_snoc, htoken key]
    exact h.objects key hkey
  · rw [tally_snoc, htoken key]
    exact h.once key

/-- A step of a thread that takes no flag and answers for none. -/
theorem AccountInv.quiet (hpc : w.threads[thread]? = some old)
    (hthreads : w'.threads = w.threads.set thread new)
    (hconsumed : w'.ledger.consumed = w.ledger.consumed) (htokens : w'.tokens = w.tokens)
    (hspent : ∀ key, spentToken key (a, o) = 0)
    (hflag : ∀ address, issuedFlag address (a, o) = 0) (htoken : ∀ key, issuedToken key (a, o) = 0)
    (hreceipt : ∀ address, new.tookReceipt address = old.tookReceipt address)
    (htook : ∀ key, new.tookToken key = old.tookToken key) :
    AccountInv (trace ++ [(a, o)]) w' := by
  refine h.step hpc hthreads hflag htoken (fun address => ?_) (fun key => ?_) (fun key => ?_)
  · rw [hreceipt, TokenWorld.flagAt, TokenWorld.flagAt, hconsumed]
  · rw [htokens, htook, hspent]
    omega
  · rw [htokens]

/-- A silent step that leaves threads, flags and tokens alone. -/
theorem AccountInv.same (hthreads : w'.threads = w.threads)
    (hflags : ∀ address, w'.flagAt address = w.flagAt address) (htokens : w'.tokens = w.tokens) :
    AccountInv (trace ++ [(a, .silent)]) w' := by
  refine ⟨fun address => ?_, fun key => ?_, fun key hkey => ?_, fun key => ?_⟩
  · rw [hthreads, hflags, tally_append]
    exact h.receipts address
  · rw [hthreads, htokens, tally_append, tally_append]
    exact h.tokens key
  · rw [htokens, tally_append]
    exact h.objects key hkey
  · rw [tally_append]
    exact h.once key

/-- A move of tokens makes none active that was not, and leaves one object of a
name where one was. -/
theorem AccountInv.moveTokens {tokens : List AdmissionToken}
    (hactive : ∀ key, tally (activeAs key) tokens ≤
      tally (activeAs key) w.tokens)
    (hnamed : ∀ key, key.1 ≠ 0 → tally (named key) tokens ≤
      tally (named key) w.tokens) :
    AccountInv (trace ++ [(a, .silent)]) { w with tokens := tokens } := by
  refine ⟨fun address => ?_, fun key => ?_, fun key hkey => ?_, fun key => ?_⟩
  · rw [tally_append]
    exact h.receipts address
  · have := h.tokens key
    have := hactive key
    simp only [tally_snoc, spentToken, issuedToken]
    omega
  · rw [tally_append]
    exact (hnamed key hkey).trans (h.objects key hkey)
  · rw [tally_append]
    exact h.once key

/-- The compare-exchange on a receipt's flag. -/
theorem AccountInv.took {address : ℕ} (hpc : w.threads[thread]? = some (.issueLocked call))
    (hflag : call.receipt.tokenConsumed = some address)
    (hfresh : w.ledger.consumed[address]? = some false) : AccountInv (trace ++ [(a, .silent)])
      ((w.setConsumed (w.ledger.consumed.set address true)).setPc thread
        (.issueWon call expires)) := by
  refine h.step hpc rfl (fun _ => rfl) (fun _ => rfl) (fun other => ?_)
    (fun key => le_rfl) fun _ => rfl
  show (TokenPc.issueWon call expires).tookReceipt other + w.flagAt other = 0 + _
  by_cases hother : address = other
  · subst hother
    have hnow : (w.ledger.consumed.set address true)[address]? = some true :=
      getElem?_set_of hfresh true
    simp [TokenPc.tookReceipt, TokenWorld.flagAt, TokenWorld.setPc, TokenWorld.setConsumed,
      hflag, hfresh, hnow]
  · simp [TokenPc.tookReceipt, TokenWorld.flagAt, TokenWorld.setPc, TokenWorld.setConsumed,
      hflag, hother]

/-- The compare-exchange on a token's flag. -/
theorem AccountInv.won {call : ConsumeCall}
    (hpc : w.threads[thread]? = some (.consumeJudged call read))
    (htoken : w.tokens[call.slot]? = some token) (hactive : token.active = true)
    (hkey : token.key = read.key) : AccountInv (trace ++ [(a, .silent)])
      ((w.setToken call.slot { token with active := false }).setPc thread
        (.consumeWon call read)) := by
  refine h.step hpc rfl (fun _ => rfl) (fun _ => rfl) (fun _ => rfl) (fun key => ?_) fun key => ?_
  · have hset := tally_set (activeAs key) htoken { token with active := false }
    have hgone : activeAs key { token with active := false } = 0 :=
      activeAs_of_inactive rfl
    rw [hgone, activeAs_of_active hactive] at hset
    have htook : (TokenPc.consumeWon call read).tookToken key = token.named key := by
      rw [TokenPc.tookToken, named, hkey]
    rw [htook]
    show tally _ (w.tokens.set call.slot _) + token.named key + 0 ≤ _ + 0
    omega
  · have hset := tally_set (named key) htoken { token with active := false }
    have hsame : named key { token with active := false } = token.named key := rfl
    show tally _ (w.tokens.set call.slot _) = _
    omega

/-- The answer of the call that had taken the flag. -/
theorem AccountInv.answered {call : ConsumeCall} {result : AdmissionTokenConsumeResult}
    (hpc : w.threads[thread]? = some (.consumeWon call read)) :
    AccountInv (trace ++ [(a, .consumeAnswered call read result)]) (w.setPc thread .idle) := by
  refine h.step hpc rfl (fun _ => rfl) (fun _ => rfl) (fun _ => rfl) (fun key => ?_) fun _ => rfl
  show _ + 0 + spentToken key _ ≤ tally _ w.tokens + _
  have hle : spentToken key (a, .consumeAnswered call read result) ≤
      (TokenPc.consumeWon call read).tookToken key := by
    rw [spentToken, TokenPc.tookToken]
    by_cases hkey : read.key = key
    · rw [if_pos hkey]
      split <;> omega
    · rw [if_neg hkey, if_neg (by rintro ⟨-, hsame⟩; exact hkey hsame)]
  have htokens : tally (activeAs key) (w.setPc thread .idle).tokens =
      tally (activeAs key) w.tokens := rfl
  omega

end

/-- No token of the trace has the name of the one an issuer mints next. -/
theorem issuedToken_fresh (horigin : OriginInv trace w) (hnumber : NumberInv w)
    (hcell : w.issuers[call.issuer]? = some cell) (hissuer : token.issuerId = cell.issuer.issuerId)
    (hid : token.tokenId = cell.issuer.nextTokenId) : tally (issuedToken token.key) trace = 0 := by
  refine tally_eq_zero fun entry hmem => ?_
  obtain ⟨a, o⟩ := entry
  cases o with
  | issueAnswered issue result =>
    obtain ⟨status, other⟩ := result
    cases other with
    | none => rfl
    | some other =>
      refine if_neg fun hkey => ?_
      obtain ⟨hterms, hminted⟩ := horigin.minted issue other ⟨a, _, hmem, rfl⟩
      obtain ⟨hsameIssuer, hsameId⟩ := Prod.mk.inj hkey
      -- the same issuer id is the same issuer, which has gone past the token id
      have hindex : issue.issuer = call.issuer :=
        hnumber.distinct _ _ _ hminted.issuer
          (by rw [hsameIssuer, hissuer]; exact issuerIds_of_getElem? hcell) hterms.own_issuer
      obtain ⟨cell', hcell', hlt⟩ := hminted.passed
      rw [hindex, hcell] at hcell'
      obtain rfl := Option.some.inj hcell'
      rw [hsameId, hid] at hlt
      exact absurd hlt (lt_irrefl _)
  | silent => rfl
  | consumeAnswered call found result => rfl

/-- An issue turns the taken flag into an issued token. -/
theorem AccountInv.minted (h : AccountInv trace w) (horigin : OriginInv trace w)
    (hnumber : NumberInv w) (hpc : w.threads[thread]? = some (.issueWon call expires))
    (hcell : w.issuers[call.issuer]? = some cell) (hissuer : token.issuerId = cell.issuer.issuerId)
    (hid : token.tokenId = cell.issuer.nextTokenId) (hactive : token.active = true) :
    AccountInv (trace ++ [(a, .issueAnswered call { status := .issued, token := some token })])
      (((w.setIssuer call.issuer cell').addToken token).setPc thread .idle) := by
  have hissued : ∀ key, issuedToken key (a, .issueAnswered call
      { status := .issued, token := some token }) = token.named key := fun _ => rfl
  refine ⟨fun address => ?_, fun key => ?_, fun key hkey => ?_, fun key => ?_⟩
  · have hset := tally_set (TokenPc.tookReceipt address) hpc .idle
    have h₁ := h.receipts address
    have hsame : issuedFlag address (a, .issueAnswered call
        { status := .issued, token := some token }) =
          (TokenPc.issueWon call expires).tookReceipt address := rfl
    have hidle : TokenPc.idle.tookReceipt address = 0 := rfl
    rw [tally_snoc, hsame]
    show tally _ (w.threads.set thread .idle) + _ = w.flagAt address
    omega
  · have hset := tally_set (TokenPc.tookToken key) hpc .idle
    have h₁ := h.tokens key
    have hidle : TokenPc.idle.tookToken key = 0 := rfl
    have hwon : (TokenPc.issueWon call expires).tookToken key = 0 := rfl
    rw [tally_snoc (issuedToken key), hissued]
    show tally _ (w.tokens ++ [token]) + tally _ (w.threads.set thread .idle) + _ ≤ _
    have hspent : spentToken key (a, .issueAnswered call
        { status := .issued, token := some token }) = 0 := rfl
    rw [tally_snoc, tally_snoc, activeAs_of_active hactive, hspent]
    omega
  · have h₁ := h.objects key hkey
    rw [tally_snoc (issuedToken key), hissued]
    show tally _ (w.tokens ++ [token]) ≤ _
    rw [tally_snoc]
    omega
  · rw [tally_snoc, hissued, named]
    by_cases hkey : token.key = key
    · subst hkey
      rw [issuedToken_fresh horigin hnumber hcell hissuer hid, if_pos rfl]
    · rw [if_neg hkey]
      exact h.once key

/-- What a call has read of its token is the token's name still. -/
theorem OriginInv.key_of_judged (h : OriginInv trace w) {call : ConsumeCall}
    (hpc : TokenPc.consumeJudged call read ∈ w.threads ∨ TokenPc.consumeWon call read ∈ w.threads)
    (htoken : w.tokens[call.slot]? = some token) : { token with active := true } = read := by
  have hsound : ∃ token, w.tokens[call.slot]? = some token ∧
      { token with active := true } = read := by
    rcases hpc with hpc | hpc
    · exact (h.pcs _ hpc).2.2
    · exact (h.pcs _ hpc).2.2
  obtain ⟨other, hother, hread⟩ := hsound
  cases htoken.symm.trans hother
  exact hread

theorem accountInv_step (h : AccountInv trace w) (horigin : OriginInv trace w)
    (hnumber : NumberInv w) (step : TokenStep w a w' o) : AccountInv (trace ++ [(a, o)]) w' := by
  cases step with
  | spawn =>
    refine ⟨fun address => ?_, fun key => ?_, fun key hkey => ?_, fun key => ?_⟩
    · rw [tally_append, tally_append]
      exact h.receipts address
    · rw [tally_append, tally_append, tally_append]
      exact h.tokens key
    · rw [tally_append]
      exact h.objects key hkey
    · rw [tally_append]
      exact h.once key
  | newReceipt request number flag sequence =>
    refine h.same rfl (fun address => ?_) rfl
    -- the new flag is down
    have hiff : (w.ledger.consumed ++ [false])[address]? = some true ↔
        w.ledger.consumed[address]? = some true := by
      constructor
      · intro hup
        rcases getElem?_snoc_cases hup with hold | ⟨-, hdown⟩
        · exact hold
        · cases hdown
      · exact fun hup => getElem?_snoc_of hup false
    show (if (w.ledger.consumed ++ [false])[address]? = some true then 1 else 0) = _
    rw [TokenWorld.flagAt, if_congr hiff rfl rfl]
  | calledIssue _ at_pc | calledConsume at_pc | locked at_pc | rejected _ at_pc | judged at_pc =>
    exact h.quiet at_pc rfl rfl rfl (fun _ => rfl) (fun _ => rfl) (fun _ => rfl) (fun _ => rfl)
      fun _ => rfl
  | took at_pc found checked flag fresh => exact h.took at_pc flag fresh
  | minted at_pc found => exact h.minted horigin hnumber at_pc found rfl rfl rfl
  | refused status at_pc found untaken =>
    refine h.quiet at_pc rfl rfl rfl (fun key => ?_) (fun _ => rfl) (fun _ => rfl) (fun _ => rfl)
      fun _ => rfl
    rcases untaken with ⟨-, rfl⟩ | ⟨-, rfl⟩
    · exact spentToken_of_not_took rfl
    · exact spentToken_of_not_took rfl
  | lost at_pc =>
    exact h.quiet at_pc rfl rfl rfl (fun _ => spentToken_of_not_took rfl) (fun _ => rfl)
      (fun _ => rfl) (fun _ => rfl) fun _ => rfl
  | @won thread call read token at_pc found active =>
    have hread := horigin.key_of_judged (.inl (List.mem_of_getElem? at_pc)) found
    exact h.won at_pc found active (by rw [← hread]; rfl)
  | answered at_pc found => exact h.answered at_pc
  | @constructed source token found unused =>
    have hmoved : ∀ f : AdmissionToken → ℕ, f .invalidated = 0 →
        tally f (w.tokens.set source .invalidated ++ [token]) ≤ tally f w.tokens := by
      intro f hgone
      have hset := tally_set f found .invalidated
      rw [tally_snoc]
      omega
    exact h.moveTokens (fun _ => hmoved _ (activeAs_of_inactive rfl))
      fun _ hkey => hmoved _ (named_invalidated hkey)
  | @assigned target source token old overwritten found distinct unused =>
    have hmoved : ∀ f : AdmissionToken → ℕ, f .invalidated = 0 →
        tally f ((w.tokens.set target token).set source .invalidated) ≤ tally f w.tokens := by
      intro f hgone
      have hset := tally_set_set f distinct overwritten found token .invalidated
      omega
    exact h.moveTokens (fun _ => hmoved _ (activeAs_of_inactive rfl))
      fun _ hkey => hmoved _ (named_invalidated hkey)
  | _ => exact h.same rfl (fun _ => rfl) rfl

end AccountSteps

/-! ## Every interleaving -/

/-- What holds of a process after any run. -/
structure TokenInv (trace : TokenTrace) (w : TokenWorld) : Prop where
  number : NumberInv w
  mutex : MutexInv w
  origin : OriginInv trace w
  account : AccountInv trace w

theorem tokenInv_init : TokenInv [] {} where
  number := numberInv_init
  mutex := fun _ => rfl
  origin := ⟨by simp, by simp, by rintro issue token ⟨a, result, hmem, -⟩; cases hmem⟩
  account := ⟨fun _ => rfl, fun _ => le_rfl, fun _ _ => le_rfl, fun _ => Nat.zero_le _⟩

theorem tokenInv_step (h : TokenInv trace w) (step : TokenStep w a w' o) :
    TokenInv (trace ++ [(a, o)]) w' where
  number := numberInv_step h.number step
  mutex := mutexInv_step h.mutex step
  origin := originInv_step h.origin h.number h.mutex step
  account := accountInv_step h.account h.origin h.number step

theorem tokenInv_run (run : Run TokenWorld.exec {} trace w) : TokenInv trace w :=
  run.history tokenInv_init fun _ _ _ _ _ h step => tokenInv_step h (tokenStep_of_exec step)

end PrismInfer.Governor
