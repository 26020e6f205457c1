import PrismInfer.Lib.Run

/-!
# The exclusive adapter lease (exclusive_gpu_lease.cpp)

One lease per adapter LUID: a process-wide registry of lease ids guards against a
second holder in the process, and an operating-system object (a named mutex, or
an abstract socket name) against one in another process. The lease object owns
the native handle of that object; an object without a handle is inactive.

This module has the lease object and its id. `makeLeaseId_injective` says that
distinct LUID pairs have distinct ids, so the registry of ids is a registry of
adapters.
-/

namespace PrismInfer.Governor

/-- `ExclusiveGpuLeaseStatus`. -/
inductive ExclusiveGpuLeaseStatus
  | acquired
  | invalidAdapterIdentity
  | alreadyHeldInProcess
  | heldByAnotherProcess
  | systemError
  deriving DecidableEq

/-! ## The lease id -/

/-- One digit of `%x`. -/
def hexDigit (digit : ℕ) : Char :=
  if digit < 10 then Char.ofNat (48 + digit) else Char.ofNat (87 + digit)

/-- `%08x`. -/
def hex8 (value : UInt32) : List Char :=
  [hexDigit (value.toNat / 16 ^ 7 % 16), hexDigit (value.toNat / 16 ^ 6 % 16),
    hexDigit (value.toNat / 16 ^ 5 % 16), hexDigit (value.toNat / 16 ^ 4 % 16),
    hexDigit (value.toNat / 16 ^ 3 % 16), hexDigit (value.toNat / 16 ^ 2 % 16),
    hexDigit (value.toNat / 16 % 16), hexDigit (value.toNat % 16)]

/-- The constant part of a lease id. -/
def leaseIdStem : List Char := "prisminfer-gpu-".toList

/-- `make_lease_id`: `prisminfer-gpu-%08x-%08x` of the two LUID halves. -/
def makeLeaseId (high : Int32) (low : UInt32) : String :=
  String.ofList (leaseIdStem ++ hex8 high.toUInt32 ++ '-' :: hex8 low)

example : makeLeaseId 7 11 = "prisminfer-gpu-00000007-0000000b" := by decide

theorem hexDigit_injective {a b : ℕ} (ha : a < 16) (hb : b < 16)
    (h : hexDigit a = hexDigit b) : a = b := by
  have : ∀ a b : Fin 16, hexDigit a = hexDigit b → a = b := by decide
  exact congrArg Fin.val (this ⟨a, ha⟩ ⟨b, hb⟩ h)

theorem hex8_length (value : UInt32) : (hex8 value).length = 8 := rfl

theorem hex8_injective {a b : UInt32} (h : hex8 a = hex8 b) : a = b := by
  have hdigit : ∀ m n : ℕ, hexDigit (m % 16) = hexDigit (n % 16) → m % 16 = n % 16 :=
    fun m n => hexDigit_injective (Nat.mod_lt _ (by decide)) (Nat.mod_lt _ (by decide))
  simp only [hex8, List.cons.injEq, and_true] at h
  obtain ⟨h₇, h₆, h₅, h₄, h₃, h₂, h₁, h₀⟩ := h
  have h₇ := hdigit _ _ h₇
  have h₆ := hdigit _ _ h₆
  have h₅ := hdigit _ _ h₅
  have h₄ := hdigit _ _ h₄
  have h₃ := hdigit _ _ h₃
  have h₂ := hdigit _ _ h₂
  have h₁ := hdigit _ _ h₁
  have h₀ := hdigit _ _ h₀
  have ha := a.toNat_lt
  have hb := b.toNat_lt
  rw [← UInt32.toNat_inj]
  -- eight equal base-16 digits of two numbers below 2^32
  omega

/-- Two parts of equal length between a common front and a separator are read
back off the whole. -/
theorem append_separator_inj {front a a' b b' : List Char} {c : Char}
    (hlength : a.length = a'.length) (h : front ++ a ++ c :: b = front ++ a' ++ c :: b') :
    a = a' ∧ b = b' := by
  rw [List.append_assoc, List.append_assoc, List.append_cancel_left_eq] at h
  obtain ⟨ha, hb⟩ := List.append_inj h hlength
  exact ⟨ha, (List.cons.inj hb).2⟩

/-- Distinct LUID pairs have distinct lease ids. -/
theorem makeLeaseId_injective {high high' : Int32} {low low' : UInt32}
    (h : makeLeaseId high low = makeLeaseId high' low') : high = high' ∧ low = low' := by
  have hlist := congrArg String.toList h
  rw [makeLeaseId, makeLeaseId, String.toList_ofList, String.toList_ofList] at hlist
  have hlength : (hex8 high.toUInt32).length = (hex8 high'.toUInt32).length := by
    rw [hex8_length, hex8_length]
  obtain ⟨hhigh, hlow⟩ := append_separator_inj hlength hlist
  refine ⟨?_, hex8_injective hlow⟩
  have := congrArg UInt32.toInt32 (hex8_injective hhigh)
  rwa [Int32.toInt32_toUInt32, Int32.toInt32_toUInt32] at this

/-! ## The lease object -/

/-- `ExclusiveGpuLease`. The native handle is the address of the Windows lease
state, or the socket descriptor plus one; `none` is the null pointer. -/
structure ExclusiveGpuLease where
  adapterLuidHigh : Int32 := 0
  adapterLuidLow : UInt32 := 0
  leaseId : String := ""
  nativeHandle : Option ℕ := none
  deriving DecidableEq

variable (lease : ExclusiveGpuLease)

/-- `ExclusiveGpuLease::active`. -/
def ExclusiveGpuLease.active : Bool :=
  lease.nativeHandle.isSome

/-- `ExclusiveGpuLease::quarantine_for_process_lifetime`: the object forgets its
handle; the operating-system object and the registry entry stay. -/
def ExclusiveGpuLease.quarantineForProcessLifetime : ExclusiveGpuLease :=
  { lease with nativeHandle := none }

/-- What a move leaves behind (exclusive_gpu_lease.cpp:76–82): the source's LUID
is zero, its handle null, its id moved out. -/
def ExclusiveGpuLease.movedFrom : ExclusiveGpuLease := {}

/-- What the operating system answers when an acquire asks for the named object. -/
inductive OsAnswer
  | granted (handle : ℕ)
  | heldByAnotherProcess (code : UInt32)
  | systemError (code : UInt32)

/-! ## Acquire and release without interference -/

/-- `ExclusiveGpuLeaseAcquireResult`. -/
structure ExclusiveGpuLeaseAcquireResult where
  status : ExclusiveGpuLeaseStatus := .systemError
  lease : Option ExclusiveGpuLease := none
  systemError : UInt32 := 0

/-- `acquire_exclusive_gpu_lease` (exclusive_gpu_lease.cpp:133–270) between two
states of the registry. A refusal by the operating system takes the id out again. -/
def acquireExclusiveGpuLease (registry : List String) (high : Int32) (low : UInt32)
    (answer : OsAnswer) : ExclusiveGpuLeaseAcquireResult × List String :=
  if high = 0 ∧ low = 0 then ({ status := .invalidAdapterIdentity }, registry)
  else if makeLeaseId high low ∈ registry then ({ status := .alreadyHeldInProcess }, registry)
  else match answer with
  | .granted handle =>
    ({ status := .acquired, lease := some ⟨high, low, makeLeaseId high low, some handle⟩ },
      registry ++ [makeLeaseId high low])
  | .heldByAnotherProcess code =>
    ({ status := .heldByAnotherProcess, systemError := code }, registry)
  | .systemError code => ({ status := .systemError, systemError := code }, registry)

/-- `ExclusiveGpuLease::release` (exclusive_gpu_lease.cpp:110–131), also by the
destructor: the registry after it. -/
def ExclusiveGpuLease.release (registry : List String) : ExclusiveGpuLease × List String :=
  if lease.active then
    ({ lease with nativeHandle := none }, registry.filter (· ≠ lease.leaseId))
  else (lease, registry)

end PrismInfer.Governor
