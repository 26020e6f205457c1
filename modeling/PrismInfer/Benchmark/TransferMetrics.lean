import PrismInfer.Governor.CheckedArithmetic
import PrismInfer.Lib.Fallible
import PrismInfer.Lib.Tally

/-!
# Transfer totals (transfer_metrics.cpp)

`reconcile_transfer_sample` derives the observed byte totals of a sample from its events. One
loop checks each event, looks for an id seen before and adds the bytes to the totals of its
direction, and leaves at the first event that fails; which error that is depends on the order
of the events. Success is a property of the events as a collection (`Reconcilable`), and with
it every total (`ExactTotals`).
-/

namespace PrismInfer.Benchmark

open Lib Governor

/-! ## The code -/

/-- The two directions of a transfer, as the loop tells them apart. -/
inductive Direction
  | h2d
  | d2h
  deriving DecidableEq

/-- `TransferEvent`; its `retry` and `fallback` flags are never read. The member `partial` is
`partialTransfer`. -/
structure TransferEvent where
  (transferEventId planEntryId direction sourceAllocationId destinationAllocationId hostMemoryKind
    streamId copyEngine logicalObjectId : String := "")
  (submittedBytes completedBytes submitMonotonicNanoseconds startMonotonicNanoseconds
    finishMonotonicNanoseconds exposedWaitNanoseconds overlapNanoseconds : UInt64 := 0)
  partialTransfer : Bool := false

/-- The fields of `TransferSample` that the reconciliation reads or writes. -/
structure TransferSample where
  (observedH2dSubmittedBytes observedH2dCompletedBytes observedD2hSubmittedBytes
    observedD2hCompletedBytes observedPinnedHostPeakBytes observedStagingPeakBytes : UInt64 := 0)
  instrumentationMode : String := "ordinary"
  events : List TransferEvent := []

/-- `TransferValidationResult`. -/
structure TransferValidationResult where
  ok : Bool := true
  failureReason : String := ""

/-- A character of a bounded id. -/
def idCharacter (character : Char) : Bool :=
  ('a' ≤ character && character ≤ 'z') || ('A' ≤ character && character ≤ 'Z') ||
  ('0' ≤ character && character ≤ '9') || character == '-' || character == '_' ||
  character == '.' || character == ':' || character == '/'

/-- `bounded_id`. -/
def boundedId (value : String) : Bool :=
  value != "" && value.utf8ByteSize ≤ 128 && value.toList.all idCharacter

/-- `valid_event` (transfer_metrics.cpp:31–53). The duration is taken before the order of the
two times is checked and may wrap; the order is a condition of its own. -/
def validEvent (event : TransferEvent) : Bool :=
  let direction := event.direction == "h2d" || event.direction == "d2h"
  let hostKind := event.hostMemoryKind == "pageable" || event.hostMemoryKind == "pinned"
  let duration := event.finishMonotonicNanoseconds - event.startMonotonicNanoseconds
  boundedId event.transferEventId && boundedId event.planEntryId && direction &&
  boundedId event.sourceAllocationId && boundedId event.destinationAllocationId && hostKind &&
  boundedId event.streamId && boundedId event.copyEngine && boundedId event.logicalObjectId &&
  event.submittedBytes > 0 && event.completedBytes ≤ event.submittedBytes &&
  event.submitMonotonicNanoseconds > 0 &&
  event.submitMonotonicNanoseconds ≤ event.startMonotonicNanoseconds &&
  event.startMonotonicNanoseconds ≤ event.finishMonotonicNanoseconds &&
  event.exposedWaitNanoseconds ≤ duration && event.overlapNanoseconds ≤ duration &&
  event.partialTransfer == decide (event.completedBytes < event.submittedBytes)

/-- The totals an event is added to. -/
def TransferEvent.toward (event : TransferEvent) : Direction :=
  if event.direction == "h2d" then .h2d else .d2h

/-- The local variables of the loop: the totals of each direction and the ids seen. -/
structure TransferTotals where
  submitted : Direction → UInt64 := fun _ => 0
  completed : Direction → UInt64 := fun _ => 0
  eventIds : List String := []

/-- One turn of the loop (transfer_metrics.cpp:74–91); `checked_add` has the body of
`checked_add_u64`. -/
def TransferTotals.add (totals : TransferTotals) (event : TransferEvent) :
    Except String TransferTotals :=
  if !validEvent event then .error "transfer_event_invalid"
  else if event.transferEventId ∈ totals.eventIds then .error "transfer_event_id_duplicate"
  else
    match checkedAddU64 (totals.submitted event.toward) event.submittedBytes with
    | none => .error "transfer_submitted_bytes_overflow"
    | some submitted =>
      match checkedAddU64 (totals.completed event.toward) event.completedBytes with
      | none => .error "transfer_completed_bytes_overflow"
      | some completed =>
        .ok
          { submitted := Function.update totals.submitted event.toward submitted
            completed := Function.update totals.completed event.toward completed
            eventIds := event.transferEventId :: totals.eventIds }

/-- The sample with all observed values set to zero. -/
def TransferSample.zeroed (sample : TransferSample) : TransferSample :=
  { instrumentationMode := sample.instrumentationMode, events := sample.events }

/-- `reconcile_transfer_sample` (transfer_metrics.cpp:57–98), for a sample that is there. -/
def reconcileTransferSample (sample : TransferSample) :
    TransferSample × TransferValidationResult :=
  if sample.instrumentationMode ≠ "ordinary" ∧ sample.instrumentationMode ≠ "profiler" then
    (sample.zeroed, ⟨false, "transfer_instrumentation_mode_invalid"⟩)
  else
    match sample.events.foldlM TransferTotals.add {} with
    | .error reason => (sample.zeroed, ⟨false, reason⟩)
    | .ok totals =>
      ({ sample.zeroed with
          observedH2dSubmittedBytes := totals.submitted .h2d
          observedH2dCompletedBytes := totals.completed .h2d
          observedD2hSubmittedBytes := totals.submitted .d2h
          observedD2hCompletedBytes := totals.completed .d2h }, ⟨true, ""⟩)

/-! ## One turn of the loop -/

/-- The bytes an event submits in the direction of that name. -/
def TransferEvent.submittedIn (direction : String) (event : TransferEvent) : ℕ :=
  if event.direction = direction then event.submittedBytes.toNat else 0

/-- The bytes an event completes in the direction of that name. -/
def TransferEvent.completedIn (direction : String) (event : TransferEvent) : ℕ :=
  if event.direction = direction then event.completedBytes.toNat else 0

open TransferEvent (submittedIn completedIn)

/-- The name of a direction in an event. -/
def Direction.text : Direction → String
  | .h2d => "h2d"
  | .d2h => "d2h"

/-- The loop has two directions and an `else`; a valid event names one of the two. -/
theorem toward_eq_iff {event : TransferEvent} (h : validEvent event = true)
    (direction : Direction) : event.toward = direction ↔ event.direction = direction.text := by
  simp only [validEvent, Bool.and_eq_true, Bool.or_eq_true, beq_iff_eq, and_assoc] at h
  obtain ⟨-, -, hdirection | hdirection, -⟩ := h <;> cases direction <;>
    simp [TransferEvent.toward, Direction.text, hdirection]

theorem completed_le_submitted {event : TransferEvent} (h : validEvent event = true) :
    event.completedBytes.toNat ≤ event.submittedBytes.toNat := by
  simp only [validEvent, Bool.and_eq_true, decide_eq_true_eq, and_assoc] at h
  obtain ⟨-, -, -, -, -, -, -, -, -, -, hle, -⟩ := h
  exact UInt64.le_iff_toNat_le.1 hle

theorem completedIn_le_submittedIn {event : TransferEvent} (h : validEvent event = true)
    (direction : String) : event.completedIn direction ≤ event.submittedIn direction := by
  unfold completedIn submittedIn
  split
  · exact completed_le_submitted h
  · exact le_rfl

/-- A total after a checked addition, in both directions at once. -/
theorem update_eq_iff {totals totals' : Direction → UInt64} {toward : Direction} {bytes : UInt64} :
    (∃ next, checkedAddU64 (totals toward) bytes = some next ∧
      Function.update totals toward next = totals') ↔
      ∀ direction, (totals' direction).toNat =
        (totals direction).toNat + if toward = direction then bytes.toNat else 0 := by
  constructor
  · rintro ⟨next, hnext, rfl⟩ direction
    rw [checkedAddU64_eq_some] at hnext
    by_cases h : toward = direction
    · subst h
      simpa using hnext
    · rw [Function.update_of_ne (Ne.symm h), if_neg h, Nat.add_zero]
  · intro h
    refine ⟨totals' toward, ?_, ?_⟩
    · rw [checkedAddU64_eq_some, h toward, if_pos rfl]
    · funext direction
      by_cases hd : toward = direction
      · subst hd
        rw [Function.update_self]
      · have hsame := h direction
        rw [if_neg hd, Nat.add_zero, UInt64.toNat_inj] at hsame
        rw [Function.update_of_ne (Ne.symm hd), hsame]

variable {totals totals' : TransferTotals} {event : TransferEvent} {events : List TransferEvent}

theorem TransferTotals.add_eq_ok : totals.add event = .ok totals' ↔
      validEvent event = true ∧ event.transferEventId ∉ totals.eventIds ∧
      totals'.eventIds = event.transferEventId :: totals.eventIds ∧
      (∀ direction, (totals'.submitted direction).toNat =
        (totals.submitted direction).toNat + event.submittedIn direction.text) ∧
      ∀ direction, (totals'.completed direction).toNat =
        (totals.completed direction).toNat + event.completedIn direction.text := by
  unfold TransferTotals.add
  by_cases hvalid : validEvent event = true
  swap
  · simp [hvalid]
  simp only [submittedIn, completedIn, ← toward_eq_iff hvalid,
    ← update_eq_iff]
  by_cases hseen : event.transferEventId ∈ totals.eventIds
  · simp [hvalid, hseen]
  cases hsubmitted : checkedAddU64 (totals.submitted event.toward) event.submittedBytes with
  | none => simp [hvalid, hseen]
  | some submitted =>
    cases hcompleted : checkedAddU64 (totals.completed event.toward) event.completedBytes with
    | none => simp [hvalid, hseen]
    | some completed =>
      obtain ⟨submitted', completed', eventIds'⟩ := totals'
      simp only [hvalid, hseen, Bool.not_true, Bool.false_eq_true, if_false, Except.ok.injEq,
        TransferTotals.mk.injEq, Option.some.injEq, exists_eq_left', not_false_eq_true, true_and]
      constructor
      · rintro ⟨rfl, rfl, rfl⟩
        exact ⟨rfl, rfl, rfl⟩
      · rintro ⟨rfl, rfl, rfl⟩
        exact ⟨rfl, rfl, rfl⟩

/-! ## The whole loop -/

/-- What the loop does to its totals when it comes through all events. -/
structure TransferTotals.Added (totals : TransferTotals) (events : List TransferEvent)
    (totals' : TransferTotals) : Prop where
  valid : ∀ event ∈ events, validEvent event = true
  distinct : (events.map (·.transferEventId)).Nodup
  unseen : ∀ event ∈ events, event.transferEventId ∉ totals.eventIds
  ids : totals'.eventIds = (events.map (·.transferEventId)).reverse ++ totals.eventIds
  submitted : ∀ direction, (totals'.submitted direction).toNat =
    (totals.submitted direction).toNat + tally (submittedIn direction.text) events
  completed : ∀ direction, (totals'.completed direction).toNat =
    (totals.completed direction).toNat + tally (completedIn direction.text) events

/-- The totals after one event, whatever the rest of the loop adds, fit in 64 bits if those
after the whole loop do. -/
theorem exists_between {before after : Direction → UInt64} {first rest : Direction → ℕ}
    (h : ∀ direction, (after direction).toNat =
      (before direction).toNat + (first direction + rest direction)) :
    ∃ between : Direction → UInt64,
      (∀ direction, (between direction).toNat = (before direction).toNat + first direction) ∧
      ∀ direction, (after direction).toNat = (between direction).toNat + rest direction := by
  have hbetween (direction : Direction) :
      (UInt64.ofNat ((before direction).toNat + first direction)).toNat =
        (before direction).toNat + first direction := by
    refine UInt64.toNat_ofNat_of_lt' ?_
    have hafter := (after direction).toNat_lt
    rw [h direction] at hafter
    show _ < 2 ^ 64
    omega
  refine ⟨fun direction => UInt64.ofNat ((before direction).toNat + first direction),
    hbetween, ?_⟩
  intro direction
  rw [hbetween, h, Nat.add_assoc]

theorem foldlM_add_eq_ok :
    events.foldlM TransferTotals.add totals = .ok totals' ↔ totals.Added events totals' := by
  induction events generalizing totals with
  | nil =>
    constructor
    · intro h
      cases h
      exact ⟨nofun, List.nodup_nil, nofun, rfl, fun _ => rfl, fun _ => rfl⟩
    · intro h
      obtain ⟨submitted, completed, eventIds⟩ := totals
      obtain ⟨submitted', completed', eventIds'⟩ := totals'
      obtain rfl : eventIds' = eventIds := h.ids
      obtain rfl : submitted' = submitted := funext fun d => UInt64.toNat_inj.1 (h.submitted d)
      obtain rfl : completed' = completed := funext fun d => UInt64.toNat_inj.1 (h.completed d)
      rfl
  | cons event events ih =>
    rw [List.foldlM_cons, bind_eq_ok]
    simp only [TransferTotals.add_eq_ok, ih]
    constructor
    · rintro ⟨between, ⟨hvalid, hunseen, hids, hsubmitted, hcompleted⟩, h⟩
      have hapart : ∀ other ∈ events, other.transferEventId ≠ event.transferEventId ∧
          other.transferEventId ∉ totals.eventIds := by
        intro other hother
        have := h.unseen other hother
        rwa [hids, List.mem_cons, not_or] at this
      refine ⟨List.forall_mem_cons.2 ⟨hvalid, h.valid⟩, ?_,
        List.forall_mem_cons.2 ⟨hunseen, fun other hother => (hapart other hother).2⟩, ?_, ?_, ?_⟩
      · refine List.nodup_cons.2 ⟨?_, h.distinct⟩
        intro hmem
        obtain ⟨other, hother, heq⟩ := List.mem_map.1 hmem
        exact (hapart other hother).1 heq
      · rw [h.ids, hids]
        simp
      · intro direction
        rw [h.submitted, hsubmitted, tally_cons, Nat.add_assoc]
      · intro direction
        rw [h.completed, hcompleted, tally_cons, Nat.add_assoc]
    · intro h
      -- the totals after the first event are below those at the end, so they fit as well
      obtain ⟨hvalid, hrest⟩ := List.forall_mem_cons.1 h.valid
      obtain ⟨hunseen, hunseenRest⟩ := List.forall_mem_cons.1 h.unseen
      obtain ⟨hfirst, hdistinct⟩ := List.nodup_cons.1 h.distinct
      obtain ⟨submitted, hsubmitted, hsubmittedRest⟩ :=
        exists_between fun direction => (h.submitted direction).trans (by rw [tally_cons])
      obtain ⟨completed, hcompleted, hcompletedRest⟩ :=
        exists_between fun direction => (h.completed direction).trans (by rw [tally_cons])
      refine ⟨⟨submitted, completed, event.transferEventId :: totals.eventIds⟩,
        ⟨hvalid, hunseen, rfl, hsubmitted, hcompleted⟩,
        hrest, hdistinct, ?_, ?_, hsubmittedRest, hcompletedRest⟩
      · intro other hother hmem
        rcases List.mem_cons.1 hmem with heq | hmem
        · exact hfirst (List.mem_map.2 ⟨other, hother, heq⟩)
        · exact hunseenRest other hother hmem
      · rw [h.ids]
        simp

/-! ## Reconciliation -/

/-- When a sample can be reconciled: a condition on the events as a collection. -/
structure Reconcilable (sample : TransferSample) : Prop where
  mode : sample.instrumentationMode = "ordinary" ∨ sample.instrumentationMode = "profiler"
  valid : ∀ event ∈ sample.events, validEvent event = true
  distinct : (sample.events.map (·.transferEventId)).Nodup
  fits : ∀ direction ∈ ["h2d", "d2h"],
    tally (submittedIn direction) sample.events < 2 ^ 64

/-- The exact totals of a sample's events. -/
structure ExactTotals (sample after : TransferSample) : Prop where
  h2dSubmitted : after.observedH2dSubmittedBytes.toNat =
    tally (submittedIn "h2d") sample.events
  h2dCompleted : after.observedH2dCompletedBytes.toNat =
    tally (completedIn "h2d") sample.events
  d2hSubmitted : after.observedD2hSubmittedBytes.toNat =
    tally (submittedIn "d2h") sample.events
  d2hCompleted : after.observedD2hCompletedBytes.toNat =
    tally (completedIn "d2h") sample.events

/-- The six observed values of a sample. -/
def TransferSample.observed (sample : TransferSample) : List UInt64 :=
  [sample.observedH2dSubmittedBytes, sample.observedH2dCompletedBytes,
    sample.observedD2hSubmittedBytes, sample.observedD2hCompletedBytes,
    sample.observedPinnedHostPeakBytes, sample.observedStagingPeakBytes]

section Reconciled

variable {sample sample' : TransferSample}

theorem tally_completed_le (h : ∀ event ∈ events, validEvent event = true) (direction : String) :
    tally (completedIn direction) events ≤
      tally (submittedIn direction) events :=
  tally_mono fun event hevent => completedIn_le_submittedIn (h event hevent) direction

/-- The loop comes through exactly the reconcilable samples: the completed bytes fit where
the submitted ones do. -/
theorem exists_added_iff
    (hmode : sample.instrumentationMode = "ordinary" ∨ sample.instrumentationMode = "profiler") :
    (∃ totals, TransferTotals.Added {} sample.events totals) ↔ Reconcilable sample := by
  constructor
  · rintro ⟨totals, h⟩
    have hfits (direction : Direction) :
        tally (submittedIn direction.text) sample.events < 2 ^ 64 := by
      have hsum : _ = 0 + _ := h.submitted direction
      have hlt := (totals.submitted direction).toNat_lt
      omega
    refine ⟨hmode, h.valid, h.distinct, ?_⟩
    exact List.forall_mem_cons.2 ⟨hfits .h2d, List.forall_mem_singleton.2 (hfits .d2h)⟩
  · intro h
    have hfits (direction : Direction) :=
      h.fits direction.text (by cases direction <;> simp [Direction.text])
    have hsubmitted (direction : Direction) := UInt64.toNat_ofNat_of_lt' (hfits direction)
    have hcompleted (direction : Direction) := UInt64.toNat_ofNat_of_lt'
      ((tally_completed_le h.valid direction.text).trans_lt (hfits direction))
    refine ⟨
      { submitted := fun direction =>
          UInt64.ofNat (tally (submittedIn direction.text) sample.events)
        completed := fun direction =>
          UInt64.ofNat (tally (completedIn direction.text) sample.events)
        eventIds := _ }, h.valid, h.distinct, fun _ _ => List.not_mem_nil, rfl, ?_, ?_⟩
    · intro direction
      exact (hsubmitted direction).trans (Nat.zero_add _).symm
    · intro direction
      exact (hcompleted direction).trans (Nat.zero_add _).symm

/-- The two outcomes of a reconciliation. -/
theorem reconcile_cases (sample : TransferSample) :
    (Reconcilable sample ∧ (reconcileTransferSample sample).2.ok = true ∧
      ExactTotals sample (reconcileTransferSample sample).1 ∧
      (reconcileTransferSample sample).1.observed.drop 4 = [0, 0]) ∨
    (¬ Reconcilable sample ∧ (reconcileTransferSample sample).2.ok = false ∧
      (reconcileTransferSample sample).1.observed = [0, 0, 0, 0, 0, 0]) := by
  unfold reconcileTransferSample
  split
  next hmode =>
    refine .inr ⟨?_, rfl, rfl⟩
    intro h
    exact h.mode.elim hmode.1 hmode.2
  next hmode =>
    have hmode' : sample.instrumentationMode = "ordinary" ∨
        sample.instrumentationMode = "profiler" := by
      by_contra h
      exact hmode (not_or.1 h)
    cases hloop : sample.events.foldlM TransferTotals.add {} with
    | error reason =>
      refine .inr ⟨?_, rfl, rfl⟩
      rw [← exists_added_iff hmode']
      rintro ⟨totals, hadded⟩
      rw [foldlM_add_eq_ok.2 hadded] at hloop
      cases hloop
    | ok totals =>
      have hadded := foldlM_add_eq_ok.1 hloop
      refine .inl ⟨(exists_added_iff hmode').1 ⟨totals, hadded⟩, rfl, ?_, rfl⟩
      -- the totals start at zero
      exact ⟨(hadded.submitted .h2d).trans (Nat.zero_add _),
        (hadded.completed .h2d).trans (Nat.zero_add _),
        (hadded.submitted .d2h).trans (Nat.zero_add _),
        (hadded.completed .d2h).trans (Nat.zero_add _)⟩

/-- A permutation of the events is reconcilable when the events are. -/
theorem Reconcilable.perm (h : Reconcilable sample)
    (hmode : sample'.instrumentationMode = sample.instrumentationMode)
    (hperm : sample'.events.Perm sample.events) : Reconcilable sample' := by
  refine ⟨hmode ▸ h.mode, ?_, ?_, ?_⟩
  · intro event hevent
    exact h.valid event (hperm.mem_iff.1 hevent)
  · exact (hperm.map _).nodup_iff.2 h.distinct
  · intro direction hdirection
    rw [tally_perm _ hperm]
    exact h.fits direction hdirection

/-- Exact totals of permuted events are the same. -/
theorem ExactTotals.observed_eq {after after' : TransferSample} (h : ExactTotals sample after)
    (h' : ExactTotals sample' after') (hperm : sample'.events.Perm sample.events) :
    after'.observed.take 4 = after.observed.take 4 := by
  have hsubmitted := h'.h2dSubmitted
  have hcompleted := h'.h2dCompleted
  have hsubmitted' := h'.d2hSubmitted
  have hcompleted' := h'.d2hCompleted
  rw [tally_perm _ hperm, ← h.h2dSubmitted, UInt64.toNat_inj] at hsubmitted
  rw [tally_perm _ hperm, ← h.h2dCompleted, UInt64.toNat_inj] at hcompleted
  rw [tally_perm _ hperm, ← h.d2hSubmitted, UInt64.toNat_inj] at hsubmitted'
  rw [tally_perm _ hperm, ← h.d2hCompleted, UInt64.toNat_inj] at hcompleted'
  simp [TransferSample.observed, hsubmitted, hcompleted, hsubmitted', hcompleted']

end Reconciled

/-- **Reconciliation of a transfer sample.** It succeeds exactly for a reconcilable sample;
the observed totals are then the exact sums, completed bytes at most the submitted ones, and
zero otherwise; and neither success nor a total depends on the order of the events. -/
theorem reconcile_transfer_sample_exact (sample : TransferSample) :
    ((reconcileTransferSample sample).2.ok = true ↔ Reconcilable sample) ∧
    ((reconcileTransferSample sample).2.ok = true →
      ExactTotals sample (reconcileTransferSample sample).1 ∧
      (reconcileTransferSample sample).1.observedH2dCompletedBytes ≤
        (reconcileTransferSample sample).1.observedH2dSubmittedBytes ∧
      (reconcileTransferSample sample).1.observedD2hCompletedBytes ≤
        (reconcileTransferSample sample).1.observedD2hSubmittedBytes) ∧
    ((reconcileTransferSample sample).2.ok = false →
      (reconcileTransferSample sample).1.observed = [0, 0, 0, 0, 0, 0]) ∧
    ∀ events, events.Perm sample.events →
      (reconcileTransferSample { sample with events := events }).2.ok =
        (reconcileTransferSample sample).2.ok ∧
      (reconcileTransferSample { sample with events := events }).1.observed =
        (reconcileTransferSample sample).1.observed := by
  refine ⟨?_, ?_, ?_, ?_⟩
  · rcases reconcile_cases sample with ⟨h, hok, -⟩ | ⟨h, hok, -⟩
    · simp [h, hok]
    · simp [h, hok]
  · intro hsuccess
    rcases reconcile_cases sample with ⟨h, -, htotals, -⟩ | ⟨-, hok, -⟩
    · refine ⟨htotals, UInt64.le_iff_toNat_le.2 ?_, UInt64.le_iff_toNat_le.2 ?_⟩
      · rw [htotals.h2dCompleted, htotals.h2dSubmitted]
        exact tally_completed_le h.valid _
      · rw [htotals.d2hCompleted, htotals.d2hSubmitted]
        exact tally_completed_le h.valid _
    · rw [hok] at hsuccess
      cases hsuccess
  · intro hfailure
    rcases reconcile_cases sample with ⟨-, hok, -⟩ | ⟨-, -, hzero⟩
    · rw [hok] at hfailure
      cases hfailure
    · exact hzero
  · intro events hperm
    -- Reconcilability carries over in both directions, so the outcomes are of the same kind.
    rcases reconcile_cases sample with ⟨h, hok, htotals, hpeaks⟩ | ⟨h, hok, hzero⟩ <;>
      rcases reconcile_cases { sample with events := events } with
        ⟨h', hok', htotals', hpeaks'⟩ | ⟨h', hok', hzero'⟩
    · refine ⟨hok'.trans hok.symm, ?_⟩
      rw [← List.take_append_drop 4 (reconcileTransferSample sample).1.observed,
        ← htotals.observed_eq htotals' hperm, hpeaks, ← hpeaks', List.take_append_drop]
    · exact (h' (h.perm rfl hperm)).elim
    · exact (h (h'.perm rfl hperm.symm)).elim
    · exact ⟨hok'.trans hok.symm, hzero'.trans hzero.symm⟩

/-- Two transfers to the device and, between them, one from it that broke off. -/
def bothDirections : TransferSample :=
  let event : TransferEvent :=
    { transferEventId := "a", planEntryId := "p", direction := "h2d", sourceAllocationId := "s"
      destinationAllocationId := "t", hostMemoryKind := "pinned", streamId := "0"
      copyEngine := "0", logicalObjectId := "o", submittedBytes := 4096, completedBytes := 4096
      submitMonotonicNanoseconds := 1, startMonotonicNanoseconds := 2
      finishMonotonicNanoseconds := 3 }
  { events :=
      [event, { event with
        transferEventId := "b", direction := "d2h", submittedBytes := 512, completedBytes := 100
        partialTransfer := true }, { event with transferEventId := "c" }] }

theorem reconcile_bothDirections :
    (reconcileTransferSample bothDirections).2.ok = true ∧
      (reconcileTransferSample bothDirections).1.observedH2dSubmittedBytes.toNat = 8192 ∧
      (reconcileTransferSample bothDirections).1.observedH2dCompletedBytes.toNat = 8192 ∧
      (reconcileTransferSample bothDirections).1.observedD2hSubmittedBytes.toNat = 512 ∧
      (reconcileTransferSample bothDirections).1.observedD2hCompletedBytes.toNat = 100 := by
  obtain ⟨hok, htotals, -⟩ := reconcile_transfer_sample_exact bothDirections
  have hsuccess := hok.2 ⟨.inl rfl, by decide, by decide, by decide⟩
  obtain ⟨⟨hsubmitted, hcompleted, hsubmitted', hcompleted'⟩, -⟩ := htotals hsuccess
  exact ⟨hsuccess, hsubmitted, hcompleted, hsubmitted', hcompleted'⟩

end PrismInfer.Benchmark
