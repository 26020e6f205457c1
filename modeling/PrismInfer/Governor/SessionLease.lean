import PrismInfer.Governor.SessionProvenance

/-!
# The adapter lease of a session

A session keeps the lease of its adapter from its acquisition on. The registry of
the process is what makes an adapter unacquirable, and an id leaves it only when an
active lease object with that id is released. `RegistryInv` is the accounting of the
active lease objects before the session; `Reserved` says that the session's id is in
the registry and no other object can take it out. Of the session's own steps only a
cleanup that ends in `Cleaned` drops an active lease (`lease_released_only_by_cleanup`).
-/

namespace PrismInfer.Governor

open PrismInfer.Lib

/-! ## The registry before the session -/

/-- How many active lease objects of the process have the id. -/
def AdmissionProcess.holders (p : AdmissionProcess) (id : String) : ℕ :=
  tally (fun lease => (lease.active && lease.leaseId == id).toNat) p.leases

/-- An id has at most one active lease object, and only while it is registered. -/
def RegistryInv (p : AdmissionProcess) : Prop :=
  ∀ id, p.holders id ≤ (decide (id ∈ p.registry)).toNat

theorem holders_snoc (leases : List ExclusiveGpuLease) (high : Int32) (low : UInt32) (handle : ℕ)
    (id : String) : tally (fun lease => (lease.active && lease.leaseId == id).toNat)
        (leases ++ [⟨high, low, makeLeaseId high low, some handle⟩]) =
      tally (fun lease => (lease.active && lease.leaseId == id).toNat) leases +
        (makeLeaseId high low == id).toNat := by
  rw [tally_append, tally_cons, tally_nil, Nat.add_zero]
  rfl

variable {p p' : AdmissionProcess} {lease : ExclusiveGpuLease} {action : ProcessAction}
  {status : Option ExclusiveGpuLeaseStatus} {trace : SessionTrace} {w : SessionWorld}
  {id : String} {impl : SessionImpl}
  {slot : ℕ}

/-- Releasing a lease takes its id out, and with it its only holder. -/
theorem registryInv_release (h : RegistryInv p) (hlease : p.leases[slot]? = some lease) :
    RegistryInv { p with
      registry := (lease.release p.registry).2
      leases := p.leases.set slot (lease.release p.registry).1 } := by
  intro id
  have hset := tally_set (fun lease => (lease.active && lease.leaseId == id).toNat) hlease
    (lease.release p.registry).1
  have hid := h id
  unfold AdmissionProcess.holders at hid ⊢
  unfold ExclusiveGpuLease.release at hset ⊢
  by_cases hactive : lease.active = true
  · rw [if_pos hactive] at hset ⊢
    have hgone : ExclusiveGpuLease.active { lease with nativeHandle := none } = false := rfl
    rw [hgone, hactive, Bool.true_and, Bool.false_and, Bool.toNat_false] at hset
    dsimp only at hset ⊢
    by_cases hsame : lease.leaseId = id
    · -- the id's only holder
      rw [beq_iff_eq.2 hsame, Bool.toNat_true] at hset
      have hone := Bool.toNat_le (decide (id ∈ p.registry))
      omega
    · have hkept : (id ∈ p.registry.filter (· ≠ lease.leaseId)) = (id ∈ p.registry) := by
        simp [Ne.symm hsame]
      rw [beq_eq_false_iff_ne.2 hsame, Bool.toNat_false] at hset
      simp only [hkept]
      omega
  · rw [if_neg hactive] at hset ⊢
    dsimp only at hset ⊢
    omega

theorem registryInv_acquire (h : RegistryInv p) (high : Int32) (low : UInt32) (answer : OsAnswer) :
    let acquired := acquireExclusiveGpuLease p.registry high low answer
    RegistryInv { p with
      registry := acquired.2
      leases := p.leases ++ acquired.1.lease.toList } := by
  intro acquired id
  have hacquired : acquired = acquireExclusiveGpuLease p.registry high low answer := rfl
  clear_value acquired
  have hid := h id
  rcases acquireExclusiveGpuLease_cases p.registry high low answer with
    ⟨handle, habsent, hgranted⟩ | ⟨-, hlease, hregistry⟩
  · rw [hgranted] at hacquired
    rw [hacquired]
    unfold AdmissionProcess.holders at hid ⊢
    dsimp only [Option.toList_some]
    rw [holders_snoc]
    by_cases hsame : makeLeaseId high low = id
    · -- a new id has no holder yet
      rw [← hsame] at hid ⊢
      rw [decide_eq_false habsent, Bool.toNat_false] at hid
      rw [decide_eq_true (List.mem_append_right _ (List.mem_singleton_self _)), beq_self_eq_true]
      omega
    · have hkept : (id ∈ p.registry ++ [makeLeaseId high low]) = (id ∈ p.registry) := by
        simp [Ne.symm hsame]
      rw [beq_eq_false_iff_ne.2 hsame, Bool.toNat_false]
      simp only [hkept]
      omega
  · rw [← hacquired] at hlease hregistry
    unfold AdmissionProcess.holders at hid ⊢
    rw [hlease, hregistry, Option.toList_none, List.append_nil]
    exact hid

theorem registryInv_quarantine (h : RegistryInv p) (hlease : p.leases[slot]? = some lease) :
    RegistryInv { p with leases := p.leases.set slot lease.quarantineForProcessLifetime } := by
  intro id
  have hset := tally_set (fun lease => (lease.active && lease.leaseId == id).toNat) hlease
    lease.quarantineForProcessLifetime
  have hgone : lease.quarantineForProcessLifetime.active = false := rfl
  rw [hgone, Bool.false_and, Bool.toNat_false] at hset
  have hid := h id
  unfold AdmissionProcess.holders at hid ⊢
  dsimp only at hid ⊢
  omega

/-- The steps that touch a lease or the registry; all others leave both. -/
theorem process_leases_cases (h : p.step action = some (p', status)) :
    (p'.registry = p.registry ∧ p'.leases = p.leases) ∨
    (∃ high low answer,
      p' = { p with
        registry := (acquireExclusiveGpuLease p.registry high low answer).2
        leases := p.leases ++
          (acquireExclusiveGpuLease p.registry high low answer).1.lease.toList }) ∨
    (∃ (slot : ℕ) (lease : ExclusiveGpuLease), p.leases[slot]? = some lease ∧
      p' = { p with
        registry := (lease.release p.registry).2
        leases := p.leases.set slot (lease.release p.registry).1 }) ∨
    ∃ (slot : ℕ) (lease : ExclusiveGpuLease), p.leases[slot]? = some lease ∧
      p' = { p with leases := p.leases.set slot lease.quarantineForProcessLifetime } := by
  cases action with
  | newIssuer =>
    cases h
    exact .inl ⟨rfl, rfl⟩
  | stageB request =>
    simp only [AdmissionProcess.step, Option.some.injEq, Prod.mk.injEq] at h
    rw [← h.1]
    exact .inl ⟨rfl, rfl⟩
  | issue | moveConstructToken =>
    simp only [AdmissionProcess.step] at h
    split at h
    · cases h
    · cases h
      exact .inl ⟨rfl, rfl⟩
  | consume i slot cell worker now =>
    simp only [AdmissionProcess.step] at h
    split at h
    · cases h
      exact .inl ⟨rfl, rfl⟩
    · cases h
  | moveAssignToken target source =>
    simp only [AdmissionProcess.step] at h
    split at h
    · split at h
      · cases h
        exact .inl ⟨rfl, rfl⟩
      · cases h
        exact .inl ⟨rfl, rfl⟩
    · cases h
  | acquireLease high low answer =>
    cases h
    exact .inr (.inl ⟨high, low, answer, rfl⟩)
  | releaseLease slot =>
    simp only [AdmissionProcess.step] at h
    split at h
    · cases h
    · rename_i lease hlease
      cases h
      exact .inr (.inr (.inl ⟨slot, lease, hlease, rfl⟩))
  | quarantineLease slot =>
    simp only [AdmissionProcess.step] at h
    split at h
    · cases h
    · rename_i lease hlease
      cases h
      exact .inr (.inr (.inr ⟨slot, lease, hlease, rfl⟩))

theorem RegistryInv.step (h : RegistryInv p) (step : p.step action = some (p', status)) :
    RegistryInv p' := by
  rcases process_leases_cases step with
    ⟨hregistry, hleases⟩ | ⟨high, low, answer, rfl⟩ | ⟨slot, lease, hlease, rfl⟩ |
      ⟨slot, lease, hlease, rfl⟩
  · intro id
    rw [AdmissionProcess.holders, hregistry, hleases]
    exact h id
  · exact registryInv_acquire h high low answer
  · exact registryInv_release h hlease
  · exact registryInv_quarantine h hlease

/-- Until the session is acquired, only the rest of the process has leases. -/
theorem registryInv_run (run : Run SessionWorld.exec {} trace w) :
    w.handles = 0 → RegistryInv w.process := by
  induction run with
  | nil => exact fun _ _ => Nat.zero_le _
  | snoc run hexec ih =>
    cases worldStep_of_exec hexec with
    | process step => exact fun hzero => (ih hzero).step step
    | refused | detached | abandoned => exact ih
    | acquired | moved => exact fun hzero => (by cases hzero)
    | operated session step =>
      intro hzero
      rw [(unanswered_of_fresh run hzero).1] at session
      cases session
    | destroyed session alive => exact fun hzero => absurd hzero alive

/-! ## The session's id -/

/-- The id is registered, and no lease object of the rest of the process can take it
out. -/
structure Reserved (id : String) (p : AdmissionProcess) : Prop where
  registered : id ∈ p.registry
  apart : ∀ lease ∈ p.leases, lease.active = true → lease.leaseId ≠ id

theorem Reserved.acquire (h : Reserved id p) (high : Int32) (low : UInt32) (answer : OsAnswer) :
    Reserved id { p with
      registry := (acquireExclusiveGpuLease p.registry high low answer).2
      leases := p.leases ++
        (acquireExclusiveGpuLease p.registry high low answer).1.lease.toList } := by
  rcases acquireExclusiveGpuLease_cases p.registry high low answer with
    ⟨handle, habsent, hgranted⟩ | ⟨-, hlease, hregistry⟩
  · rw [hgranted]
    refine ⟨List.mem_append_left _ h.registered, ?_⟩
    intro lease hmem hactive
    rcases List.mem_append.1 hmem with hold | hnew
    · exact h.apart lease hold hactive
    · -- a registered id is not granted again
      cases List.mem_singleton.1 hnew
      rintro rfl
      exact habsent h.registered
  · rw [hlease, hregistry, Option.toList_none, List.append_nil]
    exact h

theorem Reserved.release (h : Reserved id p) (hlease : p.leases[slot]? = some lease) :
    Reserved id { p with
      registry := (lease.release p.registry).2
      leases := p.leases.set slot (lease.release p.registry).1 } := by
  unfold ExclusiveGpuLease.release
  by_cases hactive : lease.active = true
  · rw [if_pos hactive]
    have hother := h.apart lease (List.mem_of_getElem? hlease) hactive
    refine ⟨List.mem_filter.2 ⟨h.registered, by simpa using Ne.symm hother⟩, ?_⟩
    intro other hmem hactive'
    obtain ⟨i, hi⟩ := List.mem_iff_getElem?.1 hmem
    rcases getElem?_set_cases hi with ⟨-, rfl⟩ | hold
    · cases hactive'
    · exact h.apart other (List.mem_of_getElem? hold) hactive'
  · rw [if_neg hactive]
    refine ⟨h.registered, ?_⟩
    rw [← set_of_getElem? hlease]
    exact h.apart

theorem Reserved.step (h : Reserved id p) (step : p.step action = some (p', status)) :
    Reserved id p' := by
  rcases process_leases_cases step with
    ⟨hregistry, hleases⟩ | ⟨high, low, answer, rfl⟩ | ⟨slot, lease, hlease, rfl⟩ |
      ⟨slot, lease, hlease, rfl⟩
  · exact ⟨hregistry ▸ h.registered, hleases ▸ h.apart⟩
  · exact h.acquire high low answer
  · exact h.release hlease
  · refine ⟨h.registered, ?_⟩
    intro other hmem hactive
    obtain ⟨i, hi⟩ := List.mem_iff_getElem?.1 hmem
    rcases getElem?_set_cases hi with ⟨-, rfl⟩ | hold
    · cases hactive
    · exact h.apart other (List.mem_of_getElem? hold) hactive

/-- The id of a new lease is reserved: no active lease object has an unregistered id. -/
theorem reserved_of_acquired (h : RegistryInv p) (habsent : id ∉ p.registry) (sequence : UInt64) :
    Reserved id { p with issuerSequence := sequence, registry := p.registry ++ [id] } := by
  refine ⟨List.mem_append_right _ (List.mem_singleton_self _), ?_⟩
  rintro lease hmem hactive rfl
  have hle := le_tally (fun other => (other.active && other.leaseId == lease.leaseId).toNat)
    (show lease ∈ p.leases from hmem)
  have hnone := h lease.leaseId
  rw [decide_eq_false habsent, Bool.toNat_false, AdmissionProcess.holders] at hnone
  rw [hactive, beq_self_eq_true, Bool.true_and, Bool.toNat_true] at hle
  omega

/-- Of a session's operations, only a cleanup to `Cleaned` touches the registry, and
none touches a lease of the rest of the process. -/
theorem SessionStep.leases {impl' : SessionImpl} {operation : SessionOperation}
    {answer : SessionAnswer} (step : SessionStep p impl operation p' impl' answer) :
    p'.leases = p.leases ∧ (p'.registry = p.registry ∨
      (∃ evidence now, operation = .cleanupOwned evidence now) ∧ answer = .cleanup .cleaned) := by
  cases step with
  | cleaned terms => exact ⟨rfl, .inr ⟨⟨_, _, rfl⟩, rfl⟩⟩
  | _ => exact ⟨rfl, .inl rfl⟩

/-- A session in `Cleaned` has no lease any more, so its destruction releases none. -/
theorem noLease_of_cleaned (run : Run SessionWorld.exec {} trace w)
    (hsession : w.session = some impl) (hcleaned : impl.state = .cleaned) : impl.lease = none := by
  refine session_history (P := fun _ impl => impl.state = .cleaned → impl.lease = none) run ?_ ?_ ?_
    impl hsession hcleaned
  · intro _ cell high low handle issuerId _ hstate
    cases hstate
  · exact fun _ _ _ _ _ h => h
  · intro _ p impl operation p' impl' answer handle h step
    cases step with
    | cleaned | uncleaned => exact fun _ => rfl
    | cancelling at_state to_state =>
      rcases to_state with rfl | rfl | rfl | rfl
      · exact fun hstate => (by cases hstate)
      · exact fun hstate => (by cases hstate)
      · exact fun hstate => (by cases hstate)
      · exact h
    | ended | kept | stored | taken => exact h
    | _ => exact fun hstate => (by cases hstate)

/-! ## The end of a lease -/

/-- The entry is the cleanup that ends in `Cleaned`. -/
def IsCleaning (entry : SessionAction × SessionOutcome) : Prop :=
  ∃ handle evidence now, entry =
    (.call handle (.cleanupOwned evidence now), .answered (.cleanup .cleaned))

/-- No acquisition of the adapter can succeed in the process. -/
def Unacquirable (p : AdmissionProcess) (high : Int32) (low : UInt32) : Prop :=
  ∀ answer, (acquireExclusiveGpuLease p.registry high low answer).1.status ≠ .acquired ∧
    ∀ cell, (acquireGpuAdmissionSession p cell high low answer).1 ≠ .acquired

variable {low : UInt32} {high : Int32}

theorem unacquirable_of_registered (h : makeLeaseId high low ∈ p.registry) :
    Unacquirable p high low := by
  intro answer
  have hrefused : (acquireExclusiveGpuLease p.registry high low answer).1.status ≠ .acquired := by
    rcases acquireExclusiveGpuLease_cases p.registry high low answer with
      ⟨handle, habsent, -⟩ | ⟨hstatus, -, -⟩
    · exact absurd h habsent
    · exact hstatus
  refine ⟨hrefused, ?_⟩
  intro cell
  unfold acquireGpuAdmissionSession
  by_cases hvalid : (!admissionCellIdentityValid cell) = true
  · rw [if_pos hvalid]
    exact fun hstatus => (by cases hstatus)
  · rw [if_neg hvalid]
    dsimp only
    rw [if_pos (.inl hrefused)]
    exact fun hstatus => (by cases hstatus)

/-- The terms of a cleanup that ends in `Cleaned`. -/
theorem cleanupTerms_of_cleaned {registry : List String} {evidence : SupervisorCleanupEvidence}
    {now : UInt64} (h : (impl.cleanupOwned registry evidence now).1 = .cleaned) :
    CleanupTerms impl evidence now := by
  unfold SessionImpl.cleanupOwned at h
  split at h
  · cases h
  · dsimp only at h
    split at h
    · rename_i hcleaned
      rw [Bool.and_eq_true] at hcleaned
      exact cleanupTerms_of_deadlineMet hcleaned.1 hcleaned.2
    · cases h

/-- The cleanup was begun at the time. -/
def BegunAt (trace : SessionTrace) (time : UInt64) : Prop :=
  ∃ handle, (.call handle (.beginCleanup time), .answered (.done true)) ∈ trace

theorem BegunAt.snoc {time : UInt64} (h : BegunAt trace time)
    (entry : SessionAction × SessionOutcome) : BegunAt (trace ++ [entry]) time := by
  obtain ⟨handle, hmem⟩ := h
  exact ⟨handle, List.mem_append_left _ hmem⟩

theorem begunAt_of_cleanupStarted (run : Run SessionWorld.exec {} trace w)
    (hsession : w.session = some impl) (hstate : impl.state = .cleanupStarted) :
    BegunAt trace impl.cleanupStartedMonotonicMilliseconds := by
  refine session_history (P := fun trace impl => impl.state = .cleanupStarted →
    BegunAt trace impl.cleanupStartedMonotonicMilliseconds) run ?_ ?_ ?_ impl hsession hstate
  · intro _ cell high low handle issuerId _ hstate
    cases hstate
  · exact fun _ _ _ _ _ h hstate => (h hstate).snoc _
  · intro trace p impl operation p' impl' answer handle h step
    cases step with
    | began nonzero at_state =>
      exact fun _ => ⟨handle, List.mem_append_right _ (List.mem_singleton_self _)⟩
    | cancelling at_state to_state =>
      rcases to_state with rfl | rfl | rfl | rfl
      · exact fun hstate => (by cases hstate)
      · exact fun hstate => (by cases hstate)
      · exact fun hstate => (by cases hstate)
      · exact fun hstate => (h hstate).snoc _
    | ended | kept | stored | taken => exact fun hstate => (h hstate).snoc _
    | _ => exact fun hstate => (by cases hstate)

/-- What a call that answers `Cleaned` found. -/
theorem cleanupTerms_of_exec {w' : SessionWorld} {handle : ℕ} {evidence : SupervisorCleanupEvidence}
    {now : UInt64}
    (h : w.exec (.call handle (.cleanupOwned evidence now)) =
      some (w', .answered (.cleanup .cleaned))) :
    ∃ impl, w.session = some impl ∧ CleanupTerms impl evidence now := by
  obtain ⟨-, p, impl, impl', hsession, hrun, -⟩ := run_of_exec h
  simp only [SessionImpl.run, Option.some.injEq, Prod.mk.injEq, SessionAnswer.cleanup.injEq] at hrun
  exact ⟨impl, hsession, cleanupTerms_of_cleaned hrun.2.2⟩

/-- From the acquisition on, the id stays reserved until the session is cleaned. -/
theorem reserved_until_cleaned {before after : SessionTrace} {t : SessionWorld}
    (hbefore : Run SessionWorld.exec {} before t) (run : Run SessionWorld.exec t after w)
    (halive : t.handles ≠ 0) (h : Reserved id t.process)
    (huncleaned : ∀ entry ∈ after, ¬IsCleaning entry) : Reserved id w.process := by
  have hinv : w.handles ≠ 0 ∧ Reserved id w.process := by
    induction run with
    | nil => exact ⟨halive, h⟩
    | @snoc trace v v' a o hrun hexec ih =>
      obtain ⟨halive, hreserved⟩ := ih fun entry hmem =>
        huncleaned entry (List.mem_append_left _ hmem)
      have hlast := huncleaned (a, o) (List.mem_append_right _ (List.mem_singleton_self _))
      cases worldStep_of_exec hexec with
      | process step => exact ⟨halive, hreserved.step step⟩
      | refused | detached | abandoned => exact ⟨halive, hreserved⟩
      | acquired fresh absent => exact absurd fresh halive
      | operated session step =>
        obtain ⟨hleases, hregistry | ⟨⟨evidence, now, rfl⟩, rfl⟩⟩ := step.leases
        · exact ⟨halive, hregistry ▸ hreserved.registered, hleases ▸ hreserved.apart⟩
        · exact absurd ⟨_, evidence, now, rfl⟩ hlast
      | moved owner alive => exact ⟨Nat.succ_ne_zero _, hreserved⟩
      | @destroyed handle impl session alive =>
        -- the destructor quarantines, or there is nothing left to release
        have hkept : impl.destroyed v.process.registry = v.process.registry := by
          unfold SessionImpl.destroyed
          by_cases hcleaned : impl.state = .cleaned
          · rw [if_neg (not_not.2 hcleaned), SessionImpl.dropLease,
              noLease_of_cleaned (hbefore.append hrun) session hcleaned]
          · rw [if_pos hcleaned, dropLease_quarantineLease]
        refine ⟨halive, ?_, hreserved.apart⟩
        show id ∈ impl.destroyed v.process.registry
        rw [hkept]
        exact hreserved.registered
  exact hinv.2

theorem handles_of_acquired {w' : SessionWorld} {cell : AdmissionCellIdentity} {answer : OsAnswer}
    {o : SessionOutcome} (h : w.exec (.acquire cell high low answer) = some (w', o)) :
    w.handles = 0 := by
  simp only [SessionWorld.exec] at h
  split at h
  · cases h
  · rename_i hfresh
    exact not_not.1 hfresh

/-- An adapter is unacquirable from the acquisition of a session on, until the session
is cleaned. -/
theorem unacquirable_until_cleaned {before after : SessionTrace} {t t' : SessionWorld}
    {cell : AdmissionCellIdentity} {answer : OsAnswer} (hbefore : Run SessionWorld.exec {} before t)
    (hexec : t.exec (.acquire cell high low answer) = some (t', .sessionReturned .acquired))
    (hafter : Run SessionWorld.exec t' after w) (huncleaned : ∀ entry ∈ after, ¬IsCleaning entry) :
    Unacquirable w.process high low := by
  have hacquired := hbefore.snoc hexec
  cases worldStep_of_exec hexec with
  | refused _ hrefused => exact absurd rfl hrefused
  | acquired fresh absent =>
    exact unacquirable_of_registered (reserved_until_cleaned hacquired hafter Nat.one_ne_zero
      (reserved_of_acquired (registryInv_run hbefore fresh) absent _) huncleaned).registered

/-- **The lease of a session, in every run.** From the acquisition of a session on, its
adapter is unacquirable in the process unless a `cleanup_owned` has answered `Cleaned`,
and that happens only in `CleanupStarted`, on complete evidence, in time after the
`begin_cleanup` and after a recorded cancellation. -/
theorem lease_released_only_by_cleanup {before after : SessionTrace} {w : SessionWorld}
    {cell : AdmissionCellIdentity} {high : Int32} {low : UInt32} {answer : OsAnswer}
    (run : Run SessionWorld.exec {}
      (before ++ (.acquire cell high low answer, .sessionReturned .acquired) :: after) w) :
    ((∀ entry ∈ after, ¬IsCleaning entry) → Unacquirable w.process high low) ∧
    ∀ during handle evidence now rest,
      after = during ++
        (.call handle (.cleanupOwned evidence now), .answered (.cleanup .cleaned)) :: rest →
      ∃ w₁ impl, Run SessionWorld.exec {}
          (before ++ (.acquire cell high low answer, .sessionReturned .acquired) :: during) w₁ ∧
        w₁.session = some impl ∧ CleanupTerms impl evidence now ∧
        BegunAt during impl.cleanupStartedMonotonicMilliseconds := by
  obtain ⟨t, t', hbefore, hexec, hafter⟩ := Run.split_at run
  constructor
  · exact unacquirable_until_cleaned hbefore hexec hafter
  · rintro during handle evidence now rest rfl
    obtain ⟨w₁, w₂, hduring, hcleanup, -⟩ := Run.split_at hafter
    obtain ⟨impl, hsession, hterms⟩ := cleanupTerms_of_exec hcleanup
    have hrun := (hbefore.snoc hexec).append hduring
    refine ⟨w₁, impl, by simpa using hrun, hsession, hterms, ?_⟩
    obtain ⟨begun, hmem⟩ := begunAt_of_cleanupStarted hrun hsession hterms.at_state
    rcases List.mem_append.1 hmem with hearly | hduring
    · -- the session has answered nothing before its acquisition
      have hquiet := (unanswered_of_fresh hbefore (handles_of_acquired hexec)).2.snoc
        (.acquire cell high low answer) (o := .sessionReturned .acquired)
        fun _ ho => (by cases ho)
      exact absurd rfl (hquiet _ hearly _)
    · exact ⟨begun, hduring⟩

/-- A run that starts with the acquisition of the fixture's session, by evaluation. -/
theorem Fixture.exists_of_acquired (actions : List SessionAction)
    (check : List (SessionAction × SessionOutcome) × SessionWorld → Bool)
    (h : (SessionWorld.exec {} (.acquire cell 7 11 (.granted 1))).any (fun first =>
      first.2 == .sessionReturned .acquired &&
        (runActions SessionWorld.exec first.1 actions).any check) = true) :
    ∃ after w, runActions SessionWorld.exec {} (.acquire cell 7 11 (.granted 1) :: actions) =
        some ((.acquire cell 7 11 (.granted 1), .sessionReturned .acquired) :: after, w) ∧
      check (after, w) = true := by
  rw [Option.any_eq_true] at h
  obtain ⟨⟨w₁, outcome⟩, hacquire, hrest⟩ := h
  rw [Bool.and_eq_true, beq_iff_eq, Option.any_eq_true] at hrest
  obtain ⟨rfl, ⟨after, w⟩, hactions, hcheck⟩ := hrest
  refine ⟨after, w, ?_, hcheck⟩
  rw [runActions, hacquire]
  dsimp only
  rw [hactions]

/-- A complete cleanup. -/
def Fixture.cleanupEvidence : SupervisorCleanupEvidence :=
  let digest := String.ofList (List.replicate 64 'a')
  { workerExitObserved := true
    jobTreeEmpty := true
    jobAccountingReconciled := true
    deviceResourcesReconciled := true
    artifactHandlesClosed := true
    temporaryFilesReconciled := true
    terminalReason := "worker_complete"
    lastGoodSampleSha256 := digest
    evidenceBundleSha256 := digest }

/-- The worker of `admittedSession` runs, exits and is cleaned up in time. -/
def Fixture.cleanedSession : List SessionAction :=
  admittedSession.tail ++
    [.call 0 (.evaluateWatchdog (watchdogSampleFor (14 * kGiB))),
      .call 0 (.endOfRun ⟨true, true, true, true, true⟩), .call 0 (.beginCleanup 10500),
      .call 0 (.cleanupOwned cleanupEvidence 10600)]

theorem lease_released_only_by_cleanup_on_fixture :
    ∃ after w,
      Run SessionWorld.exec {}
        ([] ++ (.acquire Fixture.cell 7 11 (.granted 1), .sessionReturned .acquired) :: after) w ∧
      (acquireExclusiveGpuLease w.process.registry 7 11 (.granted 1)).1.status = .acquired ∧
      ∃ entry ∈ after, IsCleaning entry := by
  obtain ⟨after, w, hactions, hfree⟩ := Fixture.exists_of_acquired Fixture.cleanedSession
    (fun result =>
      (acquireExclusiveGpuLease result.2.process.registry 7 11 (.granted 1)).1.status == .acquired)
    (by decide)
  rw [beq_iff_eq] at hfree
  have run := Run.of_runActions hactions
  refine ⟨after, w, run, hfree, ?_⟩
  -- the adapter can be had again, so the run has a cleanup in it
  by_contra hnone
  simp only [not_exists, not_and] at hnone
  exact ((@lease_released_only_by_cleanup [] _ _ _ _ _ _ run).1 hnone (.granted 1)).1 hfree

end PrismInfer.Governor
