import PrismInfer.Governor.ExclusiveGpuLease
import PrismInfer.Lib.Tally

/-!
# Leases under concurrency

The lease operations as a transition system of threads (exclusive_gpu_lease.cpp).
`g_registry_mutex` protects the registry of ids, but a release closes the
operating-system object before it takes the mutex and clears its handle after it
has given it back, and a move assignment releases one lease before it takes over
another; every point between two such accesses is a state of its own.

While an operation runs on a lease object, the object is with the thread and its slot is
empty.

The invariant (`LeaseInv`) is an accounting identity: for every id, the active
objects, the acquires between insertion and return, the releases that have not
erased yet and the past quarantines together are one if the id is in the
registry and none if it is not (`LeaseInv.claims`). Exclusion, the permanence of
a quarantine and the meaning of the registry (`lease_exclusion`) are read off it.
-/

namespace PrismInfer.Governor

open PrismInfer.Lib

/-! ## The machine -/

/-- Where a release stands (exclusive_gpu_lease.cpp:110–130). -/
inductive ReleasePhase
  | closing
  | closed
  | locked
  | erased
  deriving DecidableEq

/-- A release in progress: the object with its slot and, when it is the first
half of a move assignment, the source object with its slot. -/
structure Releasing where
  lease : ExclusiveGpuLease
  slot : ℕ
  source : Option (ℕ × ExclusiveGpuLease)
  deriving DecidableEq

/-- The program counter of a thread. -/
inductive LeasePc
  | idle
  | acquireStart (high : Int32) (low : UInt32)
  | acquireLocked (high : Int32) (low : UInt32)
  | acquireAbsent (high : Int32) (low : UInt32)
  | acquireInserted (high : Int32) (low : UInt32)
  | acquireRefused (high : Int32) (low : UInt32) (status : ExclusiveGpuLeaseStatus)
  | acquireGranted (high : Int32) (low : UInt32) (handle : ℕ)
  | releasing (phase : ReleasePhase) (operation : Releasing)
  deriving DecidableEq

/-- The state of the process: the registry and its mutex, the operating-system
objects it holds open, its lease objects and its threads. -/
structure LeaseWorld where
  registryMutex : Option ℕ := none
  registry : List String := []
  osObjects : List (ℕ × String) := []
  leases : List (Option ExclusiveGpuLease) := []
  threads : List LeasePc := []

/-- The calls of the interface. -/
inductive LeaseCall
  | acquire (high : Int32) (low : UInt32)
  | release (slot : ℕ)
  | quarantine (slot : ℕ)
  | moveConstruct (source : ℕ)
  | moveAssign (target source : ℕ)

/-- One step: a new thread, a call by an idle thread, or the next access of a
running one (with the answer of the operating system, should it ask for one). -/
inductive LeaseAction
  | spawn
  | call (thread : ℕ) (call : LeaseCall)
  | advance (thread : ℕ) (answer : OsAnswer)

/-- What a step shows: an acquire has returned, an active lease is quarantined,
or nothing. -/
inductive LeaseOutcome
  | silent
  | acquireReturned (high : Int32) (low : UInt32) (status : ExclusiveGpuLeaseStatus)
  | quarantined (high : Int32) (low : UInt32)
  deriving DecidableEq

namespace LeaseWorld

/-- Move a thread to another program counter. -/
def setPc (w : LeaseWorld) (thread : ℕ) (pc : LeasePc) : LeaseWorld :=
  { w with threads := w.threads.set thread pc }

/-- Write a slot: an object, or nothing while a thread has the object. -/
def setLease (w : LeaseWorld) (slot : ℕ) (lease : Option ExclusiveGpuLease) : LeaseWorld :=
  { w with leases := w.leases.set slot lease }

/-- A new object. -/
def addLease (w : LeaseWorld) (lease : ExclusiveGpuLease) : LeaseWorld :=
  { w with leases := w.leases ++ [some lease] }

/-- The entry of an acquire (exclusive_gpu_lease.cpp:135–140). -/
def callAcquire (w : LeaseWorld) (thread : ℕ) (high : Int32) (low : UInt32) :
    Option (LeaseWorld × LeaseOutcome) :=
  if high = 0 ∧ low = 0 then
    some (w, .acquireReturned high low .invalidAdapterIdentity)
  else some (w.setPc thread (.acquireStart high low), .silent)

/-- The entry of `release` on an object, also by its destructor. -/
def callRelease (w : LeaseWorld) (thread slot : ℕ) : Option (LeaseWorld × LeaseOutcome) :=
  match w.leases[slot]? with
  | some (some lease) =>
    if lease.active then
      some ((w.setLease slot none).setPc thread (.releasing .closing ⟨lease, slot, none⟩),
        .silent)
    else some (w, .silent)
  | _ => none

/-- `quarantine_for_process_lifetime` on an object. -/
def callQuarantine (w : LeaseWorld) (slot : ℕ) : Option (LeaseWorld × LeaseOutcome) :=
  match w.leases[slot]? with
  | some (some lease) =>
    some (w.setLease slot (some lease.quarantineForProcessLifetime),
      if lease.active then .quarantined lease.adapterLuidHigh lease.adapterLuidLow
      else .silent)
  | _ => none

/-- Move construction: a new object takes over the source. -/
def callMoveConstruct (w : LeaseWorld) (source : ℕ) : Option (LeaseWorld × LeaseOutcome) :=
  match w.leases[source]? with
  | some (some lease) =>
    some ((w.setLease source (some ExclusiveGpuLease.movedFrom)).addLease lease, .silent)
  | _ => none

/-- The transfer that ends a move assignment (exclusive_gpu_lease.cpp:76–82). -/
def transfer (w : LeaseWorld) (target source : ℕ) (lease : ExclusiveGpuLease) : LeaseWorld :=
  (w.setLease target (some lease)).setLease source (some ExclusiveGpuLease.movedFrom)

/-- Move assignment: nothing on self-assignment; otherwise the target releases
what it holds before it takes over the source. -/
def callMoveAssign (w : LeaseWorld) (thread target source : ℕ) :
    Option (LeaseWorld × LeaseOutcome) :=
  if target = source then some (w, .silent)
  else match w.leases[target]?, w.leases[source]? with
  | some (some held), some (some lease) =>
    if held.active then
      some (((w.setLease target none).setLease source none).setPc thread
        (.releasing .closing ⟨held, target, some (source, lease)⟩), .silent)
    else some (w.transfer target source lease, .silent)
  | _, _ => none

/-- A call by an idle thread. -/
def call (w : LeaseWorld) (thread : ℕ) : LeaseCall → Option (LeaseWorld × LeaseOutcome)
  | .acquire high low => w.callAcquire thread high low
  | .release slot => w.callRelease thread slot
  | .quarantine slot => w.callQuarantine slot
  | .moveConstruct source => w.callMoveConstruct source
  | .moveAssign target source => w.callMoveAssign thread target source

/-- Take `g_registry_mutex`, or wait. -/
def lockRegistry (w : LeaseWorld) (thread : ℕ) (pc : LeasePc) :
    Option (LeaseWorld × LeaseOutcome) :=
  if w.registryMutex = none then
    some ({ w with registryMutex := some thread }.setPc thread pc, .silent)
  else none

/-- The operating-system part of an acquire (exclusive_gpu_lease.cpp:168–261). The
named object is exclusive: it is granted only while nobody has it, with a handle
that is not in use. -/
def askOs (w : LeaseWorld) (thread : ℕ) (high : Int32) (low : UInt32) :
    OsAnswer → Option (LeaseWorld × LeaseOutcome)
  | .granted handle =>
    if w.osObjects.any (fun object => object.1 == handle || object.2 == makeLeaseId high low)
    then none
    else some ({ w with osObjects := w.osObjects ++ [(handle, makeLeaseId high low)] }.setPc
      thread (.acquireGranted high low handle), .silent)
  | .heldByAnotherProcess _ =>
    some (w.setPc thread (.acquireRefused high low .heldByAnotherProcess), .silent)
  | .systemError _ =>
    some (w.setPc thread (.acquireRefused high low .systemError), .silent)

/-- `g_active_lease_ids.erase`. -/
def eraseId (w : LeaseWorld) (id : String) : LeaseWorld :=
  { w with registry := w.registry.filter (· ≠ id) }

/-- `close` of the descriptor, or the end of the thread that owns the mutex. -/
def closeHandle (w : LeaseWorld) (handle : Option ℕ) : LeaseWorld :=
  { w with osObjects := w.osObjects.filter (fun object => some object.1 ≠ handle) }

/-- The last write of a release, `native_handle_ = nullptr`; a move assignment
then takes over its source. -/
def finishRelease (w : LeaseWorld) (thread : ℕ) (operation : Releasing) : LeaseWorld :=
  match operation.source with
  | none =>
    (w.setLease operation.slot (some { operation.lease with nativeHandle := none })).setPc
      thread .idle
  | some (source, lease) => (w.transfer operation.slot source lease).setPc thread .idle

/-- The next access of a running thread. -/
def advance (w : LeaseWorld) (thread : ℕ) (answer : OsAnswer) :
    LeasePc → Option (LeaseWorld × LeaseOutcome)
  | .idle => none
  | .acquireStart high low => w.lockRegistry thread (.acquireLocked high low)
  | .acquireLocked high low =>
    if makeLeaseId high low ∈ w.registry then
      some ({ w with registryMutex := none }.setPc thread .idle,
        .acquireReturned high low .alreadyHeldInProcess)
    else some (w.setPc thread (.acquireAbsent high low), .silent)
  | .acquireAbsent high low =>
    some ({ w with registry := w.registry ++ [makeLeaseId high low] }.setPc thread
      (.acquireInserted high low), .silent)
  | .acquireInserted high low => w.askOs thread high low answer
  | .acquireRefused high low status =>
    some ({ w.eraseId (makeLeaseId high low) with registryMutex := none }.setPc thread .idle,
      .acquireReturned high low status)
  | .acquireGranted high low handle =>
    some (({ w with registryMutex := none }.addLease
        ⟨high, low, makeLeaseId high low, some handle⟩).setPc thread .idle,
      .acquireReturned high low .acquired)
  | .releasing .closing operation =>
    some ((w.closeHandle operation.lease.nativeHandle).setPc thread
      (.releasing .closed operation), .silent)
  | .releasing .closed operation => w.lockRegistry thread (.releasing .locked operation)
  | .releasing .locked operation =>
    some ({ w.eraseId operation.lease.leaseId with registryMutex := none }.setPc thread
      (.releasing .erased operation), .silent)
  | .releasing .erased operation => some (w.finishRelease thread operation, .silent)

/-- One step of the process. -/
def exec (w : LeaseWorld) : LeaseAction → Option (LeaseWorld × LeaseOutcome)
  | .spawn => some ({ w with threads := w.threads ++ [.idle] }, .silent)
  | .call thread call => if w.threads[thread]? = some .idle then w.call thread call else none
  | .advance thread answer =>
    match w.threads[thread]? with
    | some pc => w.advance thread answer pc
    | none => none

end LeaseWorld

open LeaseWorld

/-! ## The accounting of ids -/

/-- An active object carries the id of its LUID pair. -/
def ExclusiveGpuLease.Named (lease : ExclusiveGpuLease) : Prop :=
  lease.active = true → lease.leaseId = makeLeaseId lease.adapterLuidHigh lease.adapterLuidLow

/-- An active object claims its id. -/
def leaseClaims (id : String) (lease : ExclusiveGpuLease) : ℕ :=
  if lease.active = true ∧ lease.leaseId = id then 1 else 0

def slotClaims (id : String) : Option ExclusiveGpuLease → ℕ
  | none => 0
  | some lease => leaseClaims id lease

/-- A thread claims an id between the insertion and the return of an acquire,
until a release has erased it, and for the source of a move assignment. -/
def pcClaims (id : String) : LeasePc → ℕ
  | .acquireInserted high low => if makeLeaseId high low = id then 1 else 0
  | .acquireRefused high low _ => if makeLeaseId high low = id then 1 else 0
  | .acquireGranted high low _ => if makeLeaseId high low = id then 1 else 0
  | .releasing phase operation =>
    (if phase = .erased then 0 else leaseClaims id operation.lease) +
      slotClaims id (operation.source.map Prod.snd)
  | _ => 0

/-- A past quarantine claims its id for ever. -/
def quarantineClaims (id : String) : LeaseAction × LeaseOutcome → ℕ
  | (_, .quarantined high low) => if makeLeaseId high low = id then 1 else 0
  | _ => 0

/-- The program counters inside a critical section of `g_registry_mutex`. -/
def LeasePc.holdsRegistry : LeasePc → Bool
  | .acquireLocked _ _ => true
  | .acquireAbsent _ _ => true
  | .acquireInserted _ _ => true
  | .acquireRefused _ _ _ => true
  | .acquireGranted _ _ _ => true
  | .releasing .locked _ => true
  | _ => false

/-- What a thread knows about the objects it has taken. -/
def LeasePc.Sound : LeasePc → Prop
  | .releasing _ operation => operation.lease.active = true ∧ operation.lease.Named ∧
      ∀ source ∈ operation.source, source.2.Named
  | _ => True

variable (registry : List String)

/-- What a thread that found its id absent may rely on. -/
def LeasePc.AbsentFrom : LeasePc → Prop
  | .acquireAbsent high low => makeLeaseId high low ∉ registry
  | _ => True

/-- The slots whose objects a thread has taken. -/
def LeasePc.taken : LeasePc → List ℕ
  | .releasing _ operation => operation.slot :: (operation.source.map Prod.fst).toList
  | _ => []

/-- One for an empty slot. -/
def emptyAt (leases : List (Option ExclusiveGpuLease)) (slot : ℕ) : ℕ :=
  if leases[slot]? = some none then 1 else 0

variable {leases : List (Option ExclusiveGpuLease)} {trace : List (LeaseAction × LeaseOutcome)}
  {thread : ℕ} {pc : LeasePc} {high : Int32} {low : UInt32} {answer : OsAnswer}

/-- The slots that writing a cell leaves empty. -/
def hole (slot : ℕ) : Option ExclusiveGpuLease → List ℕ
  | none => [slot]
  | some _ => []

theorem emptyAt_set {i : ℕ} {old : Option ExclusiveGpuLease} (h : leases[i]? = some old)
    (new : Option ExclusiveGpuLease) (slot : ℕ) :
    emptyAt (leases.set i new) slot + (hole i old).count slot =
      emptyAt leases slot + (hole i new).count slot := by
  by_cases hslot : slot = i
  · subst hslot
    rw [emptyAt, emptyAt, List.getElem?_set_self', h]
    cases old <;> cases new <;> simp [hole]
  · rw [emptyAt, emptyAt, List.getElem?_set_ne (Ne.symm hslot)]
    cases old <;> cases new <;> simp [hole, Ne.symm hslot]

theorem emptyAt_set_set {i j : ℕ} {x y : Option ExclusiveGpuLease} (hij : i ≠ j)
    (hi : leases[i]? = some x) (hj : leases[j]? = some y) (x' y' : Option ExclusiveGpuLease)
    (slot : ℕ) : emptyAt ((leases.set i x').set j y') slot + (hole i x ++ hole j y).count slot =
      emptyAt leases slot + (hole i x' ++ hole j y').count slot := by
  have hj' : (leases.set i x')[j]? = some y := by
    rw [List.getElem?_set_ne hij]
    exact hj
  have hfirst := emptyAt_set hi x' slot
  have hsecond := emptyAt_set hj' y' slot
  rw [List.count_append, List.count_append]
  omega

theorem emptyAt_append (leases : List (Option ExclusiveGpuLease)) (lease : ExclusiveGpuLease)
    (slot : ℕ) : emptyAt (leases ++ [some lease]) slot = emptyAt leases slot := by
  have : (leases ++ [some lease])[slot]? = some none ↔ leases[slot]? = some none := by
    rw [List.getElem?_append]
    split
    · rfl
    · rename_i hlt
      rw [List.getElem?_eq_none (l := leases) (by omega)]
      cases hsub : slot - leases.length <;> simp
  simp only [emptyAt, this]

/-- The registry's count of an id. -/
def registered (id : String) : ℕ :=
  if id ∈ registry then 1 else 0

theorem registered_le_one (id : String) : registered registry id ≤ 1 := by
  rw [registered]
  split <;> omega

/-- The invariant of the lease machine. -/
structure LeaseInv (trace : List (LeaseAction × LeaseOutcome)) (w : LeaseWorld) : Prop where
  /-- Every id in the registry has exactly one claim, every other id none. -/
  claims : ∀ id, tally (slotClaims id) w.leases + tally (pcClaims id) w.threads +
    tally (quarantineClaims id) trace = registered w.registry id
  named : ∀ lease, some lease ∈ w.leases → lease.Named
  sound : ∀ pc ∈ w.threads, pc.Sound
  mutex : ∀ thread pc, w.threads[thread]? = some pc → pc.holdsRegistry = true →
    w.registryMutex = some thread
  absent : ∀ pc ∈ w.threads, pc.AbsentFrom w.registry
  /-- Every empty slot is with exactly one thread. -/
  taken : ∀ slot, tally (fun pc => pc.taken.count slot) w.threads = emptyAt w.leases slot

theorem leaseInv_init : LeaseInv [] {} := by
  refine { claims := ?_, named := ?_, sound := ?_, mutex := ?_, absent := ?_, taken := ?_ } <;>
    simp [registered, emptyAt]

variable {w' : LeaseWorld} {pc' : LeasePc} {o : LeaseOutcome} {a : LeaseAction} {w : LeaseWorld}

/-- One step of a thread keeps the invariant, provided that it balances the
claims and that it changes the registry only while it has the mutex. -/
theorem LeaseInv.thread_step (h : LeaseInv trace w) (hpc : w.threads[thread]? = some pc)
    (hthreads : w'.threads = w.threads.set thread pc')
    (hclaims : ∀ id, tally (slotClaims id) w'.leases + pcClaims id pc' +
      quarantineClaims id (a, o) + registered w.registry id =
        tally (slotClaims id) w.leases + pcClaims id pc + registered w'.registry id)
    (hnamed : ∀ lease, some lease ∈ w'.leases → some lease ∈ w.leases ∨ lease.Named)
    (hsound : pc'.Sound) (hmutex : pc'.holdsRegistry = true → w'.registryMutex = some thread)
    (hothers : ∀ other, other ≠ thread → w.registryMutex = some other →
      w'.registryMutex = some other)
    (habsent : pc'.AbsentFrom w'.registry)
    (hregistry : w'.registry = w.registry ∨ pc.holdsRegistry = true)
    (htaken : ∀ slot, pc'.taken.count slot + emptyAt w.leases slot =
      pc.taken.count slot + emptyAt w'.leases slot) :
    LeaseInv (trace ++ [(a, o)]) w' := by
  refine { claims := ?_, named := ?_, sound := ?_, mutex := ?_, absent := ?_, taken := ?_ }
  · intro id
    have hold := h.claims id
    have hset := tally_set (pcClaims id) hpc pc'
    have hbalance := hclaims id
    rw [hthreads, tally_snoc]
    omega
  · exact fun lease hmem => (hnamed lease hmem).elim (h.named lease) id
  · rw [hthreads]
    exact forall_mem_set h.sound hsound
  · intro other pc'' hget hholds
    rw [hthreads] at hget
    by_cases hother : other = thread
    · subst hother
      rw [List.getElem?_set_self' , hpc] at hget
      cases hget
      exact hmutex hholds
    · rw [List.getElem?_set_ne (Ne.symm hother)] at hget
      exact hothers other hother (h.mutex other pc'' hget hholds)
  · intro pc'' hmem
    rw [hthreads] at hmem
    obtain ⟨other, hget⟩ := List.getElem?_of_mem hmem
    by_cases hother : other = thread
    · subst hother
      rw [List.getElem?_set_self', hpc] at hget
      cases hget
      exact habsent
    · rw [List.getElem?_set_ne (Ne.symm hother)] at hget
      rcases hregistry with hsame | hholds
      · rw [hsame]
        exact h.absent pc'' (List.mem_of_getElem? hget)
      · -- the moving thread has the mutex, so no other thread is inside
        have hmine := h.mutex thread pc hpc hholds
        cases pc'' with
        | acquireAbsent high low =>
          have htheirs := h.mutex other _ hget rfl
          rw [hmine, Option.some.injEq] at htheirs
          exact absurd htheirs.symm hother
        | _ => trivial
  · intro slot
    have hold := h.taken slot
    have hset := tally_set (fun pc : LeasePc => pc.taken.count slot) hpc pc'
    have hslot := htaken slot
    rw [hthreads]
    omega

variable {slot : ℕ}

/-- A taken slot is empty. -/
theorem LeaseInv.slot_empty (h : LeaseInv trace w) (hpc : w.threads[thread]? = some pc)
    (hslot : slot ∈ pc.taken) : w.leases[slot]? = some none := by
  have hle := le_tally (fun pc : LeasePc => pc.taken.count slot) (List.mem_of_getElem? hpc)
  have hpos := List.count_pos_iff.2 hslot
  have := h.taken slot
  rw [emptyAt] at this
  by_contra hne
  rw [if_neg hne] at this
  omega

/-! ## Every step keeps the accounting -/

section Steps

variable {w : LeaseWorld} {a : LeaseAction} {o : LeaseOutcome}

theorem named_movedFrom : ExclusiveGpuLease.movedFrom.Named := by
  intro h
  cases h

theorem leaseClaims_inactive {lease : ExclusiveGpuLease} (h : lease.active = false)
    (id : String) : leaseClaims id lease = 0 := by
  rw [leaseClaims, h]
  simp

theorem leaseClaims_movedFrom (id : String) : leaseClaims id .movedFrom = 0 :=
  leaseClaims_inactive rfl id

/-- What a transfer leaves in its two slots. -/
theorem named_transfer {moved : ExclusiveGpuLease} (h : moved.Named) (lease : ExclusiveGpuLease) :
    some lease = some moved ∨ some lease = some .movedFrom → lease.Named := by
  rintro (hmoved | hfrom)
  · exact Option.some.inj hmoved ▸ h
  · exact Option.some.inj hfrom ▸ named_movedFrom

/-- A step that only moves the thread (and perhaps the mutex or the operating
system) keeps the invariant. -/
theorem LeaseInv.pc_step (h : LeaseInv trace w) (hpc : w.threads[thread]? = some pc)
    (hthreads : w'.threads = w.threads.set thread pc') (hleases : w'.leases = w.leases)
    (hregistry : w'.registry = w.registry) (hsound : pc'.Sound)
    (hmutex : pc'.holdsRegistry = true → w'.registryMutex = some thread)
    (hothers : ∀ other, other ≠ thread → w.registryMutex = some other →
      w'.registryMutex = some other)
    (habsent : pc'.AbsentFrom w.registry) (hclaims : ∀ id, pcClaims id pc' = pcClaims id pc)
    (htaken : pc'.taken = pc.taken) (hquarantine : ∀ id, quarantineClaims id (a, o) = 0) :
    LeaseInv (trace ++ [(a, o)]) w' := by
  refine h.thread_step hpc hthreads ?_ ?_ hsound hmutex hothers ?_ (.inl hregistry) ?_
  · intro id
    rw [hleases, hregistry, hclaims id, hquarantine id, Nat.add_zero]
  · intro lease hmem
    exact .inl (hleases ▸ hmem)
  · rw [hregistry]
    exact habsent
  · intro slot
    rw [htaken, hleases]

/-- A step that writes one slot. -/
theorem LeaseInv.slot_step (h : LeaseInv trace w) {old new : Option ExclusiveGpuLease}
    (hpc : w.threads[thread]? = some pc) (hslot : w.leases[slot]? = some old)
    (hthreads : w'.threads = w.threads.set thread pc') (hleases : w'.leases = w.leases.set slot new)
    (hregistry : w'.registry = w.registry) (hmutex : w'.registryMutex = w.registryMutex)
    (hclaims : ∀ id, slotClaims id new + pcClaims id pc' + quarantineClaims id (a, o) =
      slotClaims id old + pcClaims id pc)
    (hnamed : ∀ lease ∈ new, lease.Named) (hsound : pc'.Sound)
    (houtside : pc'.holdsRegistry = false) (habsent : pc'.AbsentFrom w'.registry)
    (htaken : pc'.taken ++ hole slot old = pc.taken ++ hole slot new) :
    LeaseInv (trace ++ [(a, o)]) w' := by
  refine h.thread_step hpc hthreads ?_ ?_ hsound (by simp [houtside])
    (fun _ _ hother => hmutex.trans hother) habsent (.inl hregistry) ?_
  · intro id
    have hset := tally_set (slotClaims id) hslot new
    have hbalance := hclaims id
    rw [hleases, hregistry]
    omega
  · intro lease hmem
    rw [hleases] at hmem
    exact (List.mem_or_eq_of_mem_set hmem).imp_right fun hnew => hnamed lease hnew.symm
  · intro slot'
    have hset := emptyAt_set hslot new slot'
    have hcount := congrArg (List.count slot') htaken
    rw [List.count_append, List.count_append] at hcount
    rw [hleases]
    omega

/-- The objects after two writes are old ones or the written ones. -/
theorem mem_set_set {i j : ℕ} {x y z : Option ExclusiveGpuLease}
    (h : z ∈ (leases.set i x).set j y) : z ∈ leases ∨ z = x ∨ z = y := by
  rcases List.mem_or_eq_of_mem_set h with hfirst | rfl
  · rcases List.mem_or_eq_of_mem_set hfirst with hold | rfl
    · exact .inl hold
    · exact .inr (.inl rfl)
  · exact .inr (.inr rfl)

section

variable (h : LeaseInv trace w)
include h

/-- A step that writes two slots. -/
theorem LeaseInv.slots_step {i j : ℕ} {x y x' y' : Option ExclusiveGpuLease}
    (hpc : w.threads[thread]? = some pc) (hij : i ≠ j) (hi : w.leases[i]? = some x)
    (hj : w.leases[j]? = some y) (hthreads : w'.threads = w.threads.set thread pc')
    (hleases : w'.leases = (w.leases.set i x').set j y') (hregistry : w'.registry = w.registry)
    (hmutex : w'.registryMutex = w.registryMutex)
    (hclaims : ∀ id, slotClaims id x' + slotClaims id y' + pcClaims id pc' +
      quarantineClaims id (a, o) = slotClaims id x + slotClaims id y + pcClaims id pc)
    (hnamed : ∀ lease, some lease = x' ∨ some lease = y' → lease.Named) (hsound : pc'.Sound)
    (houtside : pc'.holdsRegistry = false) (habsent : pc'.AbsentFrom w'.registry)
    (htaken : pc'.taken ++ (hole i x ++ hole j y) = pc.taken ++ (hole i x' ++ hole j y')) :
    LeaseInv (trace ++ [(a, o)]) w' := by
  refine h.thread_step hpc hthreads ?_ ?_ hsound (by simp [houtside])
    (fun _ _ hother => hmutex.trans hother) habsent (.inl hregistry) ?_
  · intro id
    have hset := tally_set_set (slotClaims id) hij hi hj x' y'
    have hbalance := hclaims id
    rw [hleases, hregistry]
    omega
  · intro lease hmem
    rw [hleases] at hmem
    exact (mem_set_set hmem).imp_right (hnamed lease)
  · intro slot
    have hset := emptyAt_set_set hij hi hj x' y' slot
    have hcount := congrArg (List.count slot) htaken
    simp only [List.count_append] at hset hcount
    rw [hleases]
    omega

/-- Whoever has the mutex may give it back: no other thread has it. -/
theorem LeaseInv.unlock_others (hpc : w.threads[thread]? = some pc)
    (hholds : pc.holdsRegistry = true) {mutex : Option ℕ} (other : ℕ) (hother : other ≠ thread)
    (hmutex : w.registryMutex = some other) : mutex = some other := by
  rw [h.mutex thread pc hpc hholds, Option.some.injEq] at hmutex
  exact absurd hmutex.symm hother

theorem leaseInv_callAcquire (hpc : w.threads[thread]? = some .idle)
    (hexec : w.callAcquire thread high low = some (w', o)) : LeaseInv (trace ++ [(a, o)]) w' := by
  unfold callAcquire at hexec
  split at hexec
  · cases hexec
    exact h.pc_step hpc (set_of_getElem? hpc) rfl rfl trivial nofun (fun _ _ h => h) trivial
      (fun _ => rfl) rfl fun _ => rfl
  · cases hexec
    exact h.pc_step hpc rfl rfl rfl trivial nofun (fun _ _ h => h) trivial (fun _ => rfl) rfl
      fun _ => rfl

/-- A release takes its object out of the slot; the claim goes with it. -/
theorem leaseInv_callRelease (hpc : w.threads[thread]? = some .idle)
    (hexec : w.callRelease thread slot = some (w', o)) : LeaseInv (trace ++ [(a, o)]) w' := by
  unfold callRelease at hexec
  split at hexec
  · rename_i lease hslot
    split at hexec
    · rename_i hactive
      cases hexec
      have hnamed := h.named lease (List.mem_of_getElem? hslot)
      exact h.slot_step hpc hslot rfl rfl rfl rfl (fun id => Nat.zero_add _) nofun
        ⟨hactive, hnamed, nofun⟩ rfl trivial rfl
    · cases hexec
      exact h.pc_step hpc (set_of_getElem? hpc) rfl rfl trivial nofun (fun _ _ h => h) trivial
        (fun _ => rfl) rfl fun _ => rfl
  · cases hexec

/-- A quarantine turns the claim of the object into a claim of the trace. -/
theorem leaseInv_callQuarantine (hpc : w.threads[thread]? = some .idle)
    (hexec : w.callQuarantine slot = some (w', o)) : LeaseInv (trace ++ [(a, o)]) w' := by
  unfold callQuarantine at hexec
  split at hexec
  · rename_i lease hslot
    cases hexec
    have hnamed := h.named lease (List.mem_of_getElem? hslot)
    refine h.slot_step hpc hslot (set_of_getElem? hpc) rfl rfl rfl ?_ ?_ trivial rfl trivial rfl
    · intro id
      have hzero : leaseClaims id lease.quarantineForProcessLifetime = 0 :=
        leaseClaims_inactive rfl id
      rw [slotClaims, slotClaims, hzero]
      by_cases hactive : lease.active = true
      · rw [if_pos hactive, quarantineClaims, leaseClaims, ← hnamed hactive]
        simp [hactive, pcClaims]
      · rw [if_neg hactive, leaseClaims_inactive (by simpa using hactive)]
        rfl
    · rintro _ ⟨⟩
      exact nofun
  · cases hexec

/-- A move construction moves the claim to the new object. -/
theorem leaseInv_callMoveConstruct (hpc : w.threads[thread]? = some .idle) {source : ℕ}
    (hexec : w.callMoveConstruct source = some (w', o)) : LeaseInv (trace ++ [(a, o)]) w' := by
  unfold callMoveConstruct at hexec
  split at hexec
  · rename_i lease hslot
    cases hexec
    refine h.thread_step hpc (set_of_getElem? hpc) ?_ ?_ trivial nofun
      (fun _ _ hmutex => hmutex) trivial (.inl rfl) ?_
    · intro id
      have hset := tally_set (slotClaims id) hslot (some ExclusiveGpuLease.movedFrom)
      have hzero : leaseClaims id ExclusiveGpuLease.movedFrom = 0 := leaseClaims_inactive rfl id
      simp only [slotClaims, hzero] at hset
      simp only [addLease, setLease, tally_snoc, slotClaims,
        quarantineClaims]
      omega
    · intro other hmem
      rcases List.mem_append.1 hmem with hset | hnew
      · rcases List.mem_or_eq_of_mem_set hset with hold | hmoved
        · exact .inl hold
        · obtain rfl := Option.some.inj hmoved
          exact .inr named_movedFrom
      · cases List.mem_singleton.1 hnew
        exact .inl (List.mem_of_getElem? hslot)
    · intro slot'
      have hset := emptyAt_set hslot (some ExclusiveGpuLease.movedFrom) slot'
      simp only [addLease, setLease, emptyAt_append]
      exact congrArg (0 + ·) hset.symm
  · cases hexec

/-- A move assignment either takes both objects, or only moves the source's claim. -/
theorem leaseInv_callMoveAssign (hpc : w.threads[thread]? = some .idle) {target source : ℕ}
    (hexec : w.callMoveAssign thread target source = some (w', o)) :
    LeaseInv (trace ++ [(a, o)]) w' := by
  unfold callMoveAssign at hexec
  split at hexec
  · cases hexec
    exact h.pc_step hpc (set_of_getElem? hpc) rfl rfl trivial nofun (fun _ _ h => h) trivial
      (fun _ => rfl) rfl fun _ => rfl
  rename_i hne
  split at hexec
  · rename_i held lease htarget hsource
    have hnamedHeld := h.named held (List.mem_of_getElem? htarget)
    have hnamed := h.named lease (List.mem_of_getElem? hsource)
    split at hexec
    · rename_i hactive
      cases hexec
      refine h.slots_step hpc hne htarget hsource rfl rfl rfl rfl (fun id => ?_) nofun
        ⟨hactive, hnamedHeld, ?_⟩ rfl trivial rfl
      · simp only [slotClaims, pcClaims, quarantineClaims, Option.map_some, reduceCtorEq, if_false]
        omega
      · rintro _ ⟨⟩
        exact hnamed
    · rename_i hinactive
      cases hexec
      refine h.slots_step hpc hne htarget hsource (set_of_getElem? hpc) rfl rfl rfl (fun id => ?_)
        (named_transfer hnamed) trivial rfl trivial rfl
      have hheld : leaseClaims id held = 0 := leaseClaims_inactive (by simpa using hinactive) id
      simp only [slotClaims, leaseClaims_movedFrom, hheld, quarantineClaims]
      omega
  · cases hexec

end

theorem registered_filter (id erased : String) :
    registered (registry.filter (· ≠ erased)) id =
      if id = erased then 0 else registered registry id := by
  by_cases hid : id = erased
  · subst hid
    simp [registered]
  · simp [registered, hid]

theorem registered_insert {registry : List String} {inserted : String} (h : inserted ∉ registry)
    (id : String) : registered (registry ++ [inserted]) id =
      registered registry id + if inserted = id then 1 else 0 := by
  by_cases hid : inserted = id
  · subst hid
    simp [registered, h]
  · simp [registered, hid, Ne.symm hid]

section

variable (h : LeaseInv trace w)
include h

/-- A thread's claim shows that the id is registered, so erasing it takes that back. -/
theorem LeaseInv.registered_erased (hpc : w.threads[thread]? = some pc) {erased : String} {rest : ℕ}
    (id : String) (hclaim : pcClaims id pc = rest + if erased = id then 1 else 0) :
    registered w.registry id =
      registered (w.registry.filter (· ≠ erased)) id + if erased = id then 1 else 0 := by
  have hle := le_tally (pcClaims id) (List.mem_of_getElem? hpc)
  have hall := h.claims id
  have hone := registered_le_one w.registry id
  rw [registered_filter]
  by_cases hid : erased = id
  · rw [if_pos hid] at hclaim ⊢
    rw [if_pos hid.symm]
    omega
  · rw [if_neg hid, if_neg (Ne.symm hid), Nat.add_zero]

/-- Taking the mutex: it was free, so no other thread had it. -/
theorem leaseInv_lockRegistry (hpc : w.threads[thread]? = some pc)
    (hexec : w.lockRegistry thread pc' = some (w', o))
    (hclaims : ∀ id, pcClaims id pc' = pcClaims id pc) (htaken : pc'.taken = pc.taken)
    (hsound : pc'.Sound) (habsent : pc'.AbsentFrom w.registry) :
    LeaseInv (trace ++ [(a, o)]) w' := by
  unfold lockRegistry at hexec
  split at hexec
  · rename_i hfree
    cases hexec
    refine h.pc_step hpc rfl rfl rfl hsound (fun _ => rfl) ?_ habsent hclaims htaken
      fun _ => rfl
    intro other _ hmutex
    rw [hfree] at hmutex
    cases hmutex
  · cases hexec

/-- Any answer of the operating system leaves the claim with the thread. -/
theorem leaseInv_askOs (hpc : w.threads[thread]? = some (.acquireInserted high low))
    (hexec : w.askOs thread high low answer = some (w', o)) : LeaseInv (trace ++ [(a, o)]) w' := by
  have hmutex := h.mutex thread _ hpc rfl
  cases answer with
  | granted handle =>
    rw [askOs] at hexec
    split at hexec
    · cases hexec
    · cases hexec
      exact h.pc_step hpc rfl rfl rfl trivial (fun _ => hmutex) (fun _ _ h => h) trivial
        (fun _ => rfl) rfl fun _ => rfl
  | heldByAnotherProcess code | systemError code =>
    cases hexec
    exact h.pc_step hpc rfl rfl rfl trivial (fun _ => hmutex) (fun _ _ h => h) trivial
      (fun _ => rfl) rfl fun _ => rfl

/-- The steps of an acquire. -/
theorem leaseInv_acquireLocked (hpc : w.threads[thread]? = some (.acquireLocked high low))
    (hexec : w.advance thread answer (.acquireLocked high low) = some (w', o)) :
    LeaseInv (trace ++ [(a, o)]) w' := by
  rw [advance] at hexec
  split at hexec
  · cases hexec
    exact h.pc_step hpc rfl rfl rfl trivial nofun (h.unlock_others hpc rfl) trivial
      (fun _ => rfl) rfl fun _ => rfl
  · rename_i habsent
    cases hexec
    exact h.pc_step hpc rfl rfl rfl trivial (fun _ => h.mutex thread _ hpc rfl)
      (fun _ _ h => h) habsent (fun _ => rfl) rfl fun _ => rfl

theorem leaseInv_acquireAbsent (hpc : w.threads[thread]? = some (.acquireAbsent high low))
    (hexec : w.advance thread answer (.acquireAbsent high low) = some (w', o)) :
    LeaseInv (trace ++ [(a, o)]) w' := by
  have habsent : makeLeaseId high low ∉ w.registry := h.absent _ (List.mem_of_getElem? hpc)
  cases hexec
  refine h.thread_step hpc rfl ?_ (fun _ hmem => .inl hmem) trivial
    (fun _ => h.mutex thread _ hpc rfl) (fun _ _ hother => hother) trivial (.inr rfl)
    (fun _ => rfl)
  intro id
  simp only [setPc, pcClaims, quarantineClaims, registered_insert habsent]
  omega

theorem leaseInv_acquireRefused {status : ExclusiveGpuLeaseStatus}
    (hpc : w.threads[thread]? = some (.acquireRefused high low status))
    (hexec : w.advance thread answer (.acquireRefused high low status) = some (w', o)) :
    LeaseInv (trace ++ [(a, o)]) w' := by
  cases hexec
  refine h.thread_step hpc rfl ?_ (fun _ hmem => .inl hmem) trivial
    nofun (h.unlock_others hpc rfl) trivial (.inr rfl) (fun _ => rfl)
  intro id
  have herased := @LeaseInv.registered_erased _ _ _ _ h hpc _ 0 id (Nat.zero_add _).symm
  simp only [setPc, eraseId, pcClaims, quarantineClaims]
  omega

theorem leaseInv_acquireGranted {handle : ℕ}
    (hpc : w.threads[thread]? = some (.acquireGranted high low handle))
    (hexec : w.advance thread answer (.acquireGranted high low handle) = some (w', o)) :
    LeaseInv (trace ++ [(a, o)]) w' := by
  cases hexec
  refine h.thread_step hpc rfl ?_ ?_ trivial nofun
    (h.unlock_others hpc rfl) trivial (.inl rfl) ?_
  · intro id
    simp only [setPc, addLease, tally_snoc, slotClaims, leaseClaims,
      ExclusiveGpuLease.active, Option.isSome_some, true_and, pcClaims, quarantineClaims]
    omega
  · intro lease hmem
    rcases List.mem_append.1 hmem with hold | hnew
    · exact .inl hold
    · cases List.mem_singleton.1 hnew
      exact .inr (fun _ => rfl)
  · intro slot
    simp only [setPc, addLease, emptyAt_append]
    rfl

/-- The erase of a release: its object's claim shows that the id is registered. -/
theorem leaseInv_releaseLocked {operation : Releasing}
    (hpc : w.threads[thread]? = some (.releasing .locked operation))
    (hexec : w.advance thread answer (.releasing .locked operation) = some (w', o)) :
    LeaseInv (trace ++ [(a, o)]) w' := by
  have hsound := h.sound _ (List.mem_of_getElem? hpc)
  cases hexec
  refine h.thread_step hpc rfl ?_ (fun _ hmem => .inl hmem) hsound
    nofun (h.unlock_others hpc rfl) trivial (.inr rfl) (fun _ => rfl)
  intro id
  have hone : pcClaims id (.releasing .locked operation) =
      slotClaims id (operation.source.map Prod.snd) +
        if operation.lease.leaseId = id then 1 else 0 := by
    simp [pcClaims, leaseClaims, hsound.1, Nat.add_comm]
  have herased := h.registered_erased hpc id hone
  rw [hone]
  simp only [setPc, eraseId, pcClaims, quarantineClaims, if_true]
  omega

/-- The end of a release puts the objects back into their slots. -/
theorem leaseInv_finishRelease {operation : Releasing}
    (hpc : w.threads[thread]? = some (.releasing .erased operation)) :
    LeaseInv (trace ++ [(a, .silent)]) (w.finishRelease thread operation) := by
  obtain ⟨lease, slot, source⟩ := operation
  have hsound := h.sound _ (List.mem_of_getElem? hpc)
  have hslot : w.leases[slot]? = some none := h.slot_empty hpc (List.mem_cons_self)
  cases source with
  | none =>
    refine h.slot_step hpc hslot rfl rfl rfl rfl (fun id => ?_) ?_ trivial rfl trivial rfl
    · exact @leaseClaims_inactive { lease with nativeHandle := none } rfl id
    · rintro _ ⟨⟩
      exact nofun
  | some source =>
    obtain ⟨source, moved⟩ := source
    have hsource : w.leases[source]? = some none :=
      h.slot_empty hpc (List.mem_cons_of_mem _ List.mem_cons_self)
    have hne : slot ≠ source := by
      rintro rfl
      -- one empty slot cannot be taken twice
      have hle := le_tally (fun pc : LeasePc => pc.taken.count slot) (List.mem_of_getElem? hpc)
      have htaken := h.taken slot
      simp [LeasePc.taken, emptyAt, hslot] at hle htaken
      omega
    have hnamed : moved.Named := hsound.2.2 _ rfl
    refine h.slots_step hpc hne hslot hsource rfl rfl rfl rfl (fun id => ?_)
      (named_transfer hnamed) trivial rfl trivial rfl
    simp only [slotClaims, leaseClaims_movedFrom, pcClaims, quarantineClaims, Option.map_some,
      if_true]
    omega

/-- Every access of a running thread keeps the invariant. -/
theorem leaseInv_advance (hpc : w.threads[thread]? = some pc)
    (hexec : w.advance thread answer pc = some (w', o)) : LeaseInv (trace ++ [(a, o)]) w' := by
  have hsound := h.sound _ (List.mem_of_getElem? hpc)
  cases pc with
  | idle => cases hexec
  | acquireStart high low =>
    rw [advance] at hexec
    exact leaseInv_lockRegistry h hpc hexec (fun _ => rfl) rfl trivial trivial
  | acquireLocked high low => exact leaseInv_acquireLocked h hpc hexec
  | acquireAbsent high low => exact leaseInv_acquireAbsent h hpc hexec
  | acquireInserted high low => exact leaseInv_askOs h hpc hexec
  | acquireRefused high low status => exact leaseInv_acquireRefused h hpc hexec
  | acquireGranted high low handle => exact leaseInv_acquireGranted h hpc hexec
  | releasing phase operation =>
    cases phase with
    | closing =>
      cases hexec
      exact h.pc_step hpc rfl rfl rfl hsound nofun (fun _ _ h => h) trivial
        (fun _ => rfl) rfl fun _ => rfl
    | closed =>
      rw [advance] at hexec
      exact leaseInv_lockRegistry h hpc hexec (fun _ => rfl) rfl hsound trivial
    | locked => exact leaseInv_releaseLocked h hpc hexec
    | erased =>
      cases hexec
      exact leaseInv_finishRelease h hpc

theorem leaseInv_call (hpc : w.threads[thread]? = some .idle) {call : LeaseCall}
    (hexec : w.call thread call = some (w', o)) : LeaseInv (trace ++ [(a, o)]) w' := by
  cases call with
  | acquire high low => exact leaseInv_callAcquire h hpc hexec
  | release slot => exact leaseInv_callRelease h hpc hexec
  | quarantine slot => exact leaseInv_callQuarantine h hpc hexec
  | moveConstruct source => exact leaseInv_callMoveConstruct h hpc hexec
  | moveAssign target source => exact leaseInv_callMoveAssign h hpc hexec

theorem leaseInv_spawn :
    LeaseInv (trace ++ [(a, .silent)]) { w with threads := w.threads ++ [.idle] } := by
  refine { claims := ?_, named := h.named, sound := ?_, mutex := ?_, absent := ?_, taken := ?_ }
  · intro id
    simpa [pcClaims, quarantineClaims] using h.claims id
  · exact forall_mem_snoc h.sound trivial
  · intro other pc hget hholds
    rcases getElem?_snoc_cases hget with hold | ⟨-, rfl⟩
    · exact h.mutex other pc hold hholds
    · cases hholds
  · exact forall_mem_snoc h.absent trivial
  · intro slot
    simpa [LeasePc.taken] using h.taken slot

/-- Every step of the process keeps the invariant. -/
theorem leaseInv_exec (hexec : w.exec a = some (w', o)) : LeaseInv (trace ++ [(a, o)]) w' := by
  cases a with
  | spawn =>
    cases hexec
    exact leaseInv_spawn h
  | call thread call =>
    rw [exec] at hexec
    split at hexec
    · rename_i hidle
      exact leaseInv_call h hidle hexec
    · cases hexec
  | advance thread answer =>
    rw [exec] at hexec
    split at hexec
    · rename_i pc hpc
      exact leaseInv_advance h hpc hexec
    · cases hexec

end

end Steps

/-- The invariant holds after every run. -/
theorem leaseInv_run (h : Run LeaseWorld.exec {} trace w) : LeaseInv trace w :=
  h.history leaseInv_init fun _ _ _ _ _ hinv hexec => leaseInv_exec hinv hexec

/-! ## Exclusion -/

/-- One for an active object of the LUID pair. -/
def leaseHolds (high : Int32) (low : UInt32) (lease : ExclusiveGpuLease) : ℕ :=
  if lease.active = true ∧ lease.adapterLuidHigh = high ∧ lease.adapterLuidLow = low then 1
  else 0

def slotHolds (high : Int32) (low : UInt32) : Option ExclusiveGpuLease → ℕ
  | none => 0
  | some lease => leaseHolds high low lease

/-- The source of a move assignment is held while the target is being released. -/
def pcHolds (high : Int32) (low : UInt32) : LeasePc → ℕ
  | .releasing _ operation => slotHolds high low (operation.source.map Prod.snd)
  | _ => 0

/-- The leases of a LUID pair that are held: acquired and returned, and no release
or quarantine call on them has begun. -/
def LeaseWorld.heldCount (w : LeaseWorld) (high : Int32) (low : UInt32) : ℕ :=
  tally (slotHolds high low) w.leases + tally (pcHolds high low) w.threads

/-- The entries of a trace that quarantined an active lease of the pair. -/
def Quarantined (trace : List (LeaseAction × LeaseOutcome)) (high : Int32) (low : UInt32) :
    Prop :=
  ∃ entry ∈ trace, entry.2 = .quarantined high low

/-- Holding a pair and claiming its id are the same, since ids name pairs. -/
theorem leaseHolds_eq_leaseClaims {lease : ExclusiveGpuLease} (h : lease.Named) (high : Int32)
    (low : UInt32) : leaseHolds high low lease = leaseClaims (makeLeaseId high low) lease := by
  by_cases hactive : lease.active = true
  · have hiff : (lease.adapterLuidHigh = high ∧ lease.adapterLuidLow = low) ↔
        lease.leaseId = makeLeaseId high low := by
      rw [h hactive]
      constructor
      · rintro ⟨rfl, rfl⟩
        rfl
      · exact makeLeaseId_injective
    simp only [leaseHolds, leaseClaims, hactive, true_and, hiff]
  · simp [leaseHolds, leaseClaims, hactive]

section Exclusion

variable {w : LeaseWorld}

theorem LeaseInv.slotHolds_eq (h : LeaseInv trace w) (high : Int32) (low : UInt32) :
    tally (slotHolds high low) w.leases = tally (slotClaims (makeLeaseId high low)) w.leases := by
  refine tally_congr fun slot hslot => ?_
  cases slot with
  | none => rfl
  | some lease => exact leaseHolds_eq_leaseClaims (h.named lease hslot) high low

theorem LeaseInv.pcHolds_le (h : LeaseInv trace w) (high : Int32) (low : UInt32) :
    tally (pcHolds high low) w.threads ≤ tally (pcClaims (makeLeaseId high low)) w.threads := by
  refine tally_mono fun pc hpc => ?_
  cases pc with
  | releasing phase operation =>
    have hsound := h.sound _ hpc
    obtain ⟨lease, slot, source⟩ := operation
    cases source with
    | none => exact Nat.zero_le _
    | some source =>
      have heq := leaseHolds_eq_leaseClaims (hsound.2.2 source rfl) high low
      simp only [pcHolds, pcClaims, Option.map_some, slotHolds, slotClaims, heq]
      omega
  | _ => exact Nat.zero_le _

theorem LeaseInv.heldCount_le_one (h : LeaseInv trace w) (high : Int32) (low : UInt32) :
    w.heldCount high low ≤ 1 := by
  have hclaims := h.claims (makeLeaseId high low)
  have hslots := h.slotHolds_eq high low
  have hpcs := h.pcHolds_le high low
  have hle := registered_le_one w.registry (makeLeaseId high low)
  rw [heldCount]
  omega

theorem quarantineClaims_pos_iff {id : String} {entry : LeaseAction × LeaseOutcome} :
    0 < quarantineClaims id entry ↔
      ∃ high low, entry.2 = .quarantined high low ∧ makeLeaseId high low = id := by
  obtain ⟨a, o⟩ := entry
  cases o with
  | quarantined high low =>
    rw [quarantineClaims]
    constructor
    · intro hpos
      split at hpos
      · rename_i hid
        exact ⟨high, low, rfl, hid⟩
      · exact absurd hpos (Nat.lt_irrefl 0)
    · rintro ⟨high', low', heq, hid⟩
      cases heq
      rw [if_pos hid]
      exact Nat.one_pos
  | silent | acquireReturned => simp [quarantineClaims]

/-- A quarantined pair has a claim that no step takes back. -/
theorem quarantineClaims_of_quarantined (h : Quarantined trace high low) :
    0 < tally (quarantineClaims (makeLeaseId high low)) trace := by
  obtain ⟨entry, hmem, hentry⟩ := h
  have hpos := quarantineClaims_pos_iff.2 ⟨high, low, hentry, rfl⟩
  exact lt_of_lt_of_le hpos (le_tally _ hmem)

/-- No call acquires at once. -/
theorem call_not_acquired {call : LeaseCall} :
    w.call thread call ≠ some (w', .acquireReturned high low .acquired) := by
  intro hexec
  cases call with
  | acquire high' low' =>
    rw [call, callAcquire] at hexec
    split at hexec <;> cases hexec
  | release slot =>
    rw [call, callRelease] at hexec
    split at hexec
    · split at hexec <;> cases hexec
    · cases hexec
  | quarantine slot =>
    rw [call, callQuarantine] at hexec
    split at hexec
    · rw [Option.some.injEq, Prod.mk.injEq] at hexec
      obtain ⟨-, houtcome⟩ := hexec
      split at houtcome <;> cases houtcome
    · cases hexec
  | moveConstruct source =>
    rw [call, callMoveConstruct] at hexec
    split at hexec <;> cases hexec
  | moveAssign target source =>
    rw [call, callMoveAssign] at hexec
    split at hexec
    · cases hexec
    · split at hexec
      · split at hexec <;> cases hexec
      · cases hexec

theorem lockRegistry_silent (h : w.lockRegistry thread pc = some (w', o)) : o = .silent := by
  rw [lockRegistry] at h
  split at h <;> cases h
  rfl

theorem askOs_silent (h : w.askOs thread high low answer = some (w', o)) : o = .silent := by
  cases answer with
  | granted handle =>
    rw [askOs] at h
    split at h <;> cases h
    rfl
  | heldByAnotherProcess code | systemError code =>
    cases h
    rfl

/-- An acquire that returns still has its claim just before. -/
theorem advance_acquired_claims
    (hexec : w.advance thread answer pc = some (w', .acquireReturned high low .acquired)) :
    0 < pcClaims (makeLeaseId high low) pc := by
  cases pc with
  | idle | acquireAbsent => cases hexec
  | acquireStart high' low' => cases lockRegistry_silent hexec
  | acquireLocked high' low' =>
    rw [advance] at hexec
    split at hexec <;> cases hexec
  | acquireInserted high' low' => cases askOs_silent hexec
  | acquireRefused high' low' _ | acquireGranted high' low' _ =>
    cases hexec
    simp [pcClaims]
  | releasing phase operation =>
    cases phase with
    | closing | locked | erased => cases hexec
    | closed => cases lockRegistry_silent hexec

theorem claim_of_acquired (hexec : w.exec a = some (w', .acquireReturned high low .acquired)) :
    0 < tally (pcClaims (makeLeaseId high low)) w.threads := by
  cases a with
  | spawn => cases hexec
  | call thread call =>
    rw [exec] at hexec
    split at hexec
    · exact absurd hexec call_not_acquired
    · cases hexec
  | advance thread answer =>
    rw [exec] at hexec
    split at hexec
    · rename_i pc hpc
      exact lt_of_lt_of_le (advance_acquired_claims hexec)
        (le_tally _ (List.mem_of_getElem? hpc))
    · cases hexec

/-- A quarantined pair is never acquired again. -/
theorem LeaseInv.not_acquired_of_quarantined (h : LeaseInv trace w)
    (hquarantined : Quarantined trace high low) :
    w.exec a ≠ some (w', .acquireReturned high low .acquired) := by
  intro hexec
  have hclaim := claim_of_acquired hexec
  have hpast := quarantineClaims_of_quarantined hquarantined
  have hall := h.claims (makeLeaseId high low)
  have hle := registered_le_one w.registry (makeLeaseId high low)
  omega

/-- With no operation in progress the registry lists the held and the quarantined
pairs. -/
theorem LeaseInv.registry_iff (h : LeaseInv trace w) (hidle : ∀ pc ∈ w.threads, pc = .idle)
    (id : String) : id ∈ w.registry ↔ ∃ high low, makeLeaseId high low = id ∧
      (0 < w.heldCount high low ∨ Quarantined trace high low) := by
  have hnone : tally (pcClaims id) w.threads = 0 := by
    refine tally_eq_zero fun pc hpc => ?_
    rw [hidle pc hpc]
    rfl
  have hall := h.claims id
  constructor
  · intro hmem
    rw [registered, if_pos hmem] at hall
    by_cases hslots : 0 < tally (slotClaims id) w.leases
    · -- an active object has the id; it is held
      obtain ⟨slot, hslot, hpos⟩ := exists_of_tally_pos hslots
      cases slot with
      | none => cases hpos
      | some lease =>
        have hclaim : lease.active = true ∧ lease.leaseId = id := by
          by_contra hne
          rw [slotClaims, leaseClaims, if_neg hne] at hpos
          cases hpos
        have hid := (h.named lease hslot hclaim.1).symm.trans hclaim.2
        refine ⟨_, _, hid, .inl ?_⟩
        have := h.slotHolds_eq lease.adapterLuidHigh lease.adapterLuidLow
        rw [hid] at this
        rw [heldCount]
        omega
    · have hpast : 0 < tally (quarantineClaims id) trace := by omega
      obtain ⟨entry, hentry, hpos⟩ := exists_of_tally_pos hpast
      obtain ⟨high, low, houtcome, hid⟩ := quarantineClaims_pos_iff.1 hpos
      exact ⟨high, low, hid, .inr ⟨entry, hentry, houtcome⟩⟩
  · rintro ⟨high, low, rfl, hheld | hquarantined⟩
    · have hslots := h.slotHolds_eq high low
      have hpcs := h.pcHolds_le high low
      rw [heldCount] at hheld
      by_contra hmem
      rw [registered, if_neg hmem] at hall
      omega
    · have hpast := quarantineClaims_of_quarantined hquarantined
      by_contra hmem
      rw [registered, if_neg hmem] at hall
      omega

end Exclusion

/-- **Leases exclude each other.** After every interleaving: at most one lease of
a LUID pair is held; a quarantined pair is never acquired again; when no
operation is in progress, the registry has exactly the ids of the held and the
quarantined pairs; and distinct pairs have distinct ids. -/
theorem lease_exclusion {trace : List (LeaseAction × LeaseOutcome)} {w : LeaseWorld}
    (h : Run LeaseWorld.exec {} trace w) :
    (∀ high low, w.heldCount high low ≤ 1) ∧
    (∀ high low, Quarantined trace high low → ∀ later w', Run LeaseWorld.exec w later w' →
      ∀ entry ∈ later, entry.2 ≠ .acquireReturned high low .acquired) ∧
    ((∀ pc ∈ w.threads, pc = .idle) → ∀ id, id ∈ w.registry ↔
      ∃ high low, makeLeaseId high low = id ∧
        (0 < w.heldCount high low ∨ Quarantined trace high low)) ∧
    (∀ high low high' low', (high, low) ≠ (high', low') →
      makeLeaseId high low ≠ makeLeaseId high' low') := by
  have hinv := leaseInv_run h
  refine ⟨hinv.heldCount_le_one, ?_, fun hidle id => hinv.registry_iff hidle id, ?_⟩
  · rintro high low ⟨past, hpast, hquarantined⟩ later w' hlater ⟨a, o⟩ hentry houtcome
    obtain rfl : o = .acquireReturned high low .acquired := houtcome
    -- cut the later run at the entry: its step starts from a state with the invariant
    obtain ⟨before, after, rfl⟩ := List.append_of_mem hentry
    obtain ⟨w₁, w₂, hbefore, hstep, -⟩ := hlater.split_at
    have hinv₁ := leaseInv_run (h.append hbefore)
    exact hinv₁.not_acquired_of_quarantined
      ⟨past, List.mem_append_left _ hpast, hquarantined⟩ hstep
  · intro high low high' low' hne heq
    obtain ⟨rfl, rfl⟩ := makeLeaseId_injective heq
    exact hne rfl

/-- A run in which the first thread acquires an adapter and quarantines it, and
the second then fails to acquire it. -/
def Fixture.leaseActions : List LeaseAction :=
  [.spawn, .spawn, .call 0 (.acquire 7 11), .advance 0 (.granted 3), .advance 0 (.granted 3),
    .advance 0 (.granted 3), .advance 0 (.granted 3), .call 1 (.acquire 7 11),
    .advance 0 (.granted 3), .call 0 (.quarantine 0), .advance 1 (.granted 4),
    .advance 1 (.granted 4)]

theorem lease_exclusion_on_fixture : ∃ trace w, Run LeaseWorld.exec {} trace w ∧
    Quarantined trace 7 11 ∧ (∀ pc ∈ w.threads, pc = .idle) ∧ w.heldCount 7 11 ≤ 1 ∧
    (∀ later w', Run LeaseWorld.exec w later w' →
      ∀ entry ∈ later, entry.2 ≠ .acquireReturned 7 11 .acquired) := by
  obtain ⟨trace, w, run, hcheck⟩ := Run.exists_of_runActions Fixture.leaseActions
    (fun result => result.1.any (fun entry => entry.2 = .quarantined 7 11) &&
      result.2.threads.all (fun pc => pc = .idle))
    (show (runActions LeaseWorld.exec {} Fixture.leaseActions).any _ = true by decide)
  rw [Bool.and_eq_true, List.any_eq_true, List.all_eq_true] at hcheck
  simp only [decide_eq_true_eq] at hcheck
  exact ⟨trace, w, run, hcheck.1, hcheck.2, (lease_exclusion run).1 7 11,
    (lease_exclusion run).2.1 7 11 hcheck.1⟩

end PrismInfer.Governor
