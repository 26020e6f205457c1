import PrismInfer.Lib.TextSearch

/-!
# The lifecycle of a telemetry file

`validate_phase0_lifecycle` searches every line of a telemetry file for the names of the
events, in a fixed order, and checks the list of events that it finds. A run emits the
events of the phases it went through. A run that fails closed before the semantics of the
cap are resolved is exempt from the events of the phases it never reached.

The exemption asks for a terminal event and does not ask which one. So a file with a
`completed` event and none of the phases before it is accepted as well
(`completed_phases_iff`).
-/

namespace PrismInfer.Telemetry

open PrismInfer.Lib

/-! ## Events -/

/-- The events of the validator, in the order in which it searches for them. -/
inductive LifecycleEvent
  | runStart | configValidated | telemetryProbe | modelSidecarValidated | backendSelected
  | dependencyPinsResolved | cudaContextProbe | capSemanticsResolved | hostPrepare
  | modelLoadPlan | backendInit | backendWarmup | kvCacheProfile | prefillStart | prefillEnd
  | kvCacheSample | decodeStart | decodeToken | decodeEnd | qualityGateResult | baselineSelected
  | transferPlan | transferSample | offloadSample | profitabilityResult | hybridPlanCreated
  | claimClassified | usabilityResult | repeatabilityResult | claimValidationResult
  | memorySample | capCertificationResult | completed | failedClosed | runEnd
  deriving DecidableEq, Repr

namespace LifecycleEvent

/-- The name in the telemetry file. -/
def name : LifecycleEvent → String
  | .runStart => "run_start"
  | .configValidated => "config_validated"
  | .telemetryProbe => "telemetry_probe"
  | .modelSidecarValidated => "model_sidecar_validated"
  | .backendSelected => "backend_selected"
  | .dependencyPinsResolved => "dependency_pins_resolved"
  | .cudaContextProbe => "cuda_context_probe"
  | .capSemanticsResolved => "cap_semantics_resolved"
  | .hostPrepare => "host_prepare"
  | .modelLoadPlan => "model_load_plan"
  | .backendInit => "backend_init"
  | .backendWarmup => "backend_warmup"
  | .kvCacheProfile => "kv_cache_profile"
  | .prefillStart => "prefill_start"
  | .prefillEnd => "prefill_end"
  | .kvCacheSample => "kv_cache_sample"
  | .decodeStart => "decode_start"
  | .decodeToken => "decode_token"
  | .decodeEnd => "decode_end"
  | .qualityGateResult => "quality_gate_result"
  | .baselineSelected => "baseline_selected"
  | .transferPlan => "transfer_plan"
  | .transferSample => "transfer_sample"
  | .offloadSample => "offload_sample"
  | .profitabilityResult => "profitability_result"
  | .hybridPlanCreated => "hybrid_plan_created"
  | .claimClassified => "claim_classified"
  | .usabilityResult => "usability_result"
  | .repeatabilityResult => "repeatability_result"
  | .claimValidationResult => "claim_validation_result"
  | .memorySample => "memory_sample"
  | .capCertificationResult => "cap_certification_result"
  | .completed => "completed"
  | .failedClosed => "failed_closed"
  | .runEnd => "run_end"

/-- All events, in the order of the search. -/
def order : List LifecycleEvent :=
  [.runStart, .configValidated, .telemetryProbe, .modelSidecarValidated, .backendSelected,
   .dependencyPinsResolved, .cudaContextProbe, .capSemanticsResolved, .hostPrepare,
   .modelLoadPlan, .backendInit, .backendWarmup, .kvCacheProfile, .prefillStart, .prefillEnd,
   .kvCacheSample, .decodeStart, .decodeToken, .decodeEnd, .qualityGateResult, .baselineSelected,
   .transferPlan, .transferSample, .offloadSample, .profitabilityResult, .hybridPlanCreated,
   .claimClassified, .usabilityResult, .repeatabilityResult, .claimValidationResult,
   .memorySample, .capCertificationResult, .completed, .failedClosed, .runEnd]

/-- The text of the member that the validator searches for, after its first quote. -/
def quoted (e : LifecycleEvent) : List Char :=
  ['e', 'v', 'e', 'n', 't', '"', ':', '"'] ++ e.name.toList

/-- The text that the validator searches for. -/
def pattern (e : LifecycleEvent) : List Char :=
  '"' :: (e.quoted ++ ['"'])

end LifecycleEvent

open LifecycleEvent

/-- `line_contains`. -/
def lineContains (line needle : List Char) : Bool :=
  decide (needle <:+: line)

/-- The event of a line: the first one that is found in it. -/
def lineEvent (line : List Char) : Option LifecycleEvent :=
  order.find? fun e => lineContains line e.pattern

/-- The events of a telemetry file. -/
def lifecycleEvents (text : List Char) : List LifecycleEvent :=
  (lines '\n' text).filterMap lineEvent

/-! ## The scan -/

/-- The events with a flag of their own. -/
def flagged : LifecycleEvent → Bool
  | .capSemanticsResolved | .hostPrepare | .backendSelected | .dependencyPinsResolved
  | .modelLoadPlan | .backendInit | .backendWarmup | .kvCacheProfile | .prefillStart
  | .kvCacheSample | .prefillEnd | .decodeStart | .decodeEnd | .qualityGateResult
  | .baselineSelected | .transferPlan | .transferSample | .profitabilityResult
  | .hybridPlanCreated | .claimClassified | .usabilityResult | .repeatabilityResult
  | .claimValidationResult | .memorySample => true
  | _ => false

/-- The flags of the loop over the events after the preamble. -/
structure Flags where
  /-- The flag `saw_…` of an event that has one. -/
  saw : LifecycleEvent → Bool := fun _ => false
  (sawTerminal sawMemoryAfterQuality sawQualityBeforeMemory sawPhase3BeforeMemory
    sawPhase4BeforeMemory : Bool := false)

/-- One event of the loop. -/
def Flags.step (f : Flags) (e : LifecycleEvent) : Flags where
  saw := if flagged e then Function.update f.saw e true else f.saw
  sawTerminal := if e = .completed ∨ e = .failedClosed then true else f.sawTerminal
  sawMemoryAfterQuality :=
    if e = .memorySample ∧ f.saw .qualityGateResult then true else f.sawMemoryAfterQuality
  -- the last such event decides
  sawQualityBeforeMemory :=
    if e = .qualityGateResult then !f.saw .memorySample else f.sawQualityBeforeMemory
  sawPhase3BeforeMemory :=
    if e = .profitabilityResult then !f.saw .memorySample else f.sawPhase3BeforeMemory
  sawPhase4BeforeMemory :=
    if e = .claimValidationResult then !f.saw .memorySample else f.sawPhase4BeforeMemory

def Flags.scan (events : List LifecycleEvent) : Flags :=
  events.foldl Flags.step {}

/-! ## The checks -/

/-- Skips an event that may stand next. -/
def skip (e : LifecycleEvent) (events : List LifecycleEvent) : List LifecycleEvent :=
  if events.head? = some e then events.tail else events

/-- The events that the loop runs over: those after the preamble. -/
def body (events : List LifecycleEvent) : List LifecycleEvent :=
  skip .cudaContextProbe (skip .modelSidecarValidated (skip .cudaContextProbe (events.drop 3)))

/-- `early_cuda_fail_closed` and `early_sidecar_fail_closed`, by the probe they look for. -/
def earlyFailClosed (probe : LifecycleEvent) (events : List LifecycleEvent) (f : Flags) : Bool :=
  f.sawTerminal && !f.saw .capSemanticsResolved && events.contains probe

def require (holds : Bool) (message : String) : Except String Unit :=
  if holds then .ok () else .error message

/-- The events that only an early failure may omit, in the order of the checks. -/
def phaseEvents : List LifecycleEvent :=
  [.capSemanticsResolved, .hostPrepare, .backendSelected, .dependencyPinsResolved,
   .modelLoadPlan, .backendInit, .backendWarmup]

def kvEvents : List LifecycleEvent :=
  [.prefillStart, .kvCacheSample, .prefillEnd, .decodeStart, .decodeEnd, .qualityGateResult]

def profitabilityEvents : List LifecycleEvent :=
  [.baselineSelected, .transferPlan, .transferSample, .profitabilityResult]

def claimEvents : List LifecycleEvent :=
  [.hybridPlanCreated, .claimClassified, .usabilityResult, .repeatabilityResult,
   .claimValidationResult]

/-- The checks of a phase that left events: all of them, and before the memory sample. -/
def checkPhase (applies complete : Bool) (missing : String) (ordered : Bool) (late : String) :
    Except String Unit :=
  if applies then do
    require complete missing
    require ordered late
  else .ok ()

/-- The checks on the list of events. -/
def validateEvents (events : List LifecycleEvent) : Except String Unit := do
  require (6 ≤ events.length) "too_few_lifecycle_events"
  require (events.head? = some .runStart) "first_event_not_run_start"
  require (events.getLast? = some .runEnd) "last_event_not_run_end"
  require ([.runStart, .configValidated, .telemetryProbe].isPrefixOf events)
    "required_prefix_missing"
  let f := Flags.scan (body events)
  require (f.saw .memorySample) "missing_memory_sample"
  phaseEvents.forM fun e =>
    require (f.saw e || earlyFailClosed .cudaContextProbe events f ||
      earlyFailClosed .modelSidecarValidated events f) ("missing_" ++ e.name)
  checkPhase (f.saw .kvCacheProfile)
    (kvEvents.all f.saw) "missing_phase2_kv_lifecycle_event"
    (f.sawQualityBeforeMemory && f.sawMemoryAfterQuality)
    "phase2_quality_must_precede_memory_sample"
  checkPhase (profitabilityEvents.any f.saw)
    (profitabilityEvents.all f.saw) "missing_phase3_profitability_lifecycle_event"
    f.sawPhase3BeforeMemory "phase3_profitability_must_precede_memory_sample"
  checkPhase (claimEvents.any f.saw)
    (claimEvents.all f.saw) "missing_phase4_claim_lifecycle_event"
    f.sawPhase4BeforeMemory "phase4_claim_validation_must_precede_memory_sample"
  require f.sawTerminal "missing_terminal_event"

/-- `validate_phase0_lifecycle`, on a path and the content of the file that can be read there. -/
def validatePhase0Lifecycle (path : String) (file : Option (List Char)) : Except String Unit :=
  match file with
  | none => .error ("failed_to_open_telemetry_path: " ++ path)
  | some text => validateEvents (lifecycleEvents text)

/-! ## Names -/

/-- A character of a name. -/
def isNameChar (c : Char) : Bool :=
  ('a' ≤ c && c ≤ 'z') || ('A' ≤ c && c ≤ 'Z') || ('0' ≤ c && c ≤ '9') || c == '_'

/-- Letters, digits and underscores only. -/
def IsName (text : List Char) : Prop :=
  text.all isNameChar = true

variable {text : List Char}

instance : Decidable (IsName text) :=
  inferInstanceAs (Decidable (text.all isNameChar = true))

theorem IsName.not_mem (h : IsName text) {c : Char} (hc : isNameChar c = false) : c ∉ text := by
  intro hmem
  have := List.all_eq_true.1 h c hmem
  rw [hc] at this
  cases this

theorem IsName.count_quote (h : IsName text) : text.count '"' = 0 :=
  List.count_eq_zero.2 (h.not_mem (by decide))

theorem LifecycleEvent.isName_name (e : LifecycleEvent) : IsName e.name.toList := by
  cases e <;> decide

theorem LifecycleEvent.find_name (e : LifecycleEvent) :
    order.find? (fun other => other.name = e.name) = some e := by
  cases e <;> decide

theorem LifecycleEvent.name_injective : Function.Injective LifecycleEvent.name := by
  intro e e' h
  have hfound := e.find_name
  rw [h, e'.find_name] at hfound
  exact (Option.some.inj hfound).symm

/-! ## Finding events -/

theorem LifecycleEvent.quoted_injective : Function.Injective LifecycleEvent.quoted := by
  intro e e' h
  exact name_injective (String.toList_injective (List.append_cancel_left h))

theorem LifecycleEvent.count_quoted (e : LifecycleEvent) : e.quoted.count '"' = 2 := by
  rw [quoted, List.count_append, e.isName_name.count_quote]
  rfl

/-- A character that is in no pattern: neither in a name nor punctuation of a member. -/
theorem LifecycleEvent.not_mem_pattern {c : Char} (hname : isNameChar c = false)
    (hquote : c ≠ '"') (hcolon : c ≠ ':') (e : LifecycleEvent) : c ∉ e.pattern := by
  have hword : IsName ['e', 'v', 'e', 'n', 't'] := rfl
  have hevent := hword.not_mem hname
  simp only [List.mem_cons, not_or] at hevent
  simp [pattern, quoted, hquote, hcolon, hevent, e.isName_name.not_mem hname]

theorem LifecycleEvent.pattern_not_nil (e : LifecycleEvent) : ¬e.pattern <:+: [] := by
  rw [List.infix_nil]
  exact List.cons_ne_nil _ _

variable {e : LifecycleEvent}

/-- The event of a line with one event in it. -/
theorem lineEvent_of_unique {line : List Char}
    (h : ∀ other : LifecycleEvent, other.pattern <:+: line ↔ other = e) :
    lineEvent line = some e := by
  have hsearch : lineEvent line = order.find? fun other => decide (other = e) := by
    simp only [lineEvent, lineContains, h]
  rw [hsearch]
  cases e <;> rfl

/-- A line with an event and nothing else. -/
def eventLine (e : LifecycleEvent) : List Char :=
  '\x7b' :: (e.pattern ++ ['\x7d'])

theorem pattern_infix_eventLine (e other : LifecycleEvent) :
    other.pattern <:+: eventLine e ↔ other = e := by
  constructor
  · intro h
    rcases infix_of_append_cons (other.not_mem_pattern (by decide) (by decide) (by decide))
      (x := []) h with h | h
    · exact absurd h other.pattern_not_nil
    rcases infix_of_append_cons (other.not_mem_pattern (by decide) (by decide) (by decide)) h
      with h | h
    · exact quoted_injective (eq_of_infix_of_count h (by rw [e.count_quoted, other.count_quoted]))
    · exact absurd h other.pattern_not_nil
  · rintro rfl
    exact ⟨['\x7b'], ['\x7d'], rfl⟩

theorem newline_not_mem_eventLine (e : LifecycleEvent) : '\n' ∉ eventLine e := by
  have := e.not_mem_pattern (c := '\n') (by decide) (by decide) (by decide)
  simp [eventLine, this]

variable (events : List LifecycleEvent)

/-- A file with one event in each line. -/
theorem lifecycleEvents_eventLines :
    lifecycleEvents ((events.map eventLine).flatMap fun line => line ++ ['\n']) = events := by
  have hlines : ∀ line ∈ events.map eventLine, '\n' ∉ line := by
    intro line hmem
    obtain ⟨e, -, rfl⟩ := List.mem_map.1 hmem
    exact newline_not_mem_eventLine e
  rw [lifecycleEvents, lines_written hlines, List.filterMap_map]
  have hevent : lineEvent ∘ eventLine = some :=
    funext fun e => lineEvent_of_unique fun other => pattern_infix_eventLine e other
  rw [hevent, List.filterMap_some]

/-! ## What the checks say -/

/-- The flags of the scan say which events there are. -/
theorem saw_foldl (f : Flags) (he : flagged e = true) :
    (events.foldl Flags.step f).saw e = true ↔ f.saw e = true ∨ e ∈ events := by
  induction events generalizing f with
  | nil => simp
  | cons head events ih =>
    rw [List.foldl_cons, ih, List.mem_cons]
    by_cases heq : e = head
    · subst heq
      simp [Flags.step, he]
    · simp only [heq, false_or]
      refine or_congr_left ?_
      by_cases hhead : flagged head = true <;> simp [Flags.step, hhead, Function.update_of_ne heq]

theorem saw_scan (he : flagged e = true) : (Flags.scan events).saw e = true ↔ e ∈ events := by
  rw [Flags.scan, saw_foldl events _ he]
  simp

variable {events : List LifecycleEvent}

theorem mem_of_mem_skip {e skipped : LifecycleEvent} (h : e ∈ skip skipped events) :
    e ∈ events := by
  rw [skip] at h
  split at h
  · exact List.mem_of_mem_tail h
  · exact h

theorem mem_of_mem_body (h : e ∈ body events) : e ∈ events :=
  List.mem_of_mem_drop (mem_of_mem_skip (mem_of_mem_skip (mem_of_mem_skip h)))

theorem bind_unit_eq_ok {check : Except String Unit} {next : Unit → Except String Unit} :
    (check >>= next) = .ok () ↔ check = .ok () ∧ next () = .ok () := by
  cases check <;> simp [bind, Except.bind]

theorem require_eq_ok {holds : Bool} {message : String} :
    require holds message = .ok () ↔ holds = true := by
  cases holds <;> simp [require]

theorem forM_require_eq_ok {holds : LifecycleEvent → Bool} {message : LifecycleEvent → String} :
    (events.forM fun e => require (holds e) (message e)) = .ok () ↔
      ∀ e ∈ events, holds e = true := by
  induction events with
  | nil => simp [pure, Except.pure]
  | cons e events ih =>
    show (require (holds e) (message e) >>= fun _ =>
      events.forM fun e => require (holds e) (message e)) = .ok () ↔ _
    rw [bind_unit_eq_ok, require_eq_ok, ih, List.forall_mem_cons]

theorem checkPhase_eq_ok {applies complete ordered : Bool} {missing late : String} :
    checkPhase applies complete missing ordered late = .ok () ↔
      (applies = true → complete = true ∧ ordered = true) := by
  cases applies <;> simp [checkPhase, bind_unit_eq_ok, require_eq_ok]

/-- What the checks ask of the events and of the flags of the scan. -/
structure WellFormed (events : List LifecycleEvent) (f : Flags) : Prop where
  size : 6 ≤ events.length
  first : events.head? = some .runStart
  last : events.getLast? = some .runEnd
  preamble : [.runStart, .configValidated, .telemetryProbe] <+: events
  memory : f.saw .memorySample = true
  phases : ∀ e ∈ phaseEvents, (f.saw e || earlyFailClosed .cudaContextProbe events f ||
    earlyFailClosed .modelSidecarValidated events f) = true
  kv : f.saw .kvCacheProfile = true → kvEvents.all f.saw = true ∧
    (f.sawQualityBeforeMemory && f.sawMemoryAfterQuality) = true
  profitability : profitabilityEvents.any f.saw = true →
    profitabilityEvents.all f.saw = true ∧ f.sawPhase3BeforeMemory = true
  claim : claimEvents.any f.saw = true →
    claimEvents.all f.saw = true ∧ f.sawPhase4BeforeMemory = true
  terminal : f.sawTerminal = true

theorem validateEvents_eq_ok_iff :
    validateEvents events = .ok () ↔ WellFormed events (Flags.scan (body events)) := by
  simp only [validateEvents, bind_unit_eq_ok, require_eq_ok, forM_require_eq_ok,
    checkPhase_eq_ok, decide_eq_true_eq, List.isPrefixOf_iff_prefix]
  constructor
  · rintro ⟨size, first, last, preamble, memory, phases, kv, profitability, claim, terminal⟩
    exact ⟨size, first, last, preamble, memory, phases, kv, profitability, claim, terminal⟩
  · rintro ⟨size, first, last, preamble, memory, phases, kv, profitability, claim, terminal⟩
    exact ⟨size, first, last, preamble, memory, phases, kv, profitability, claim, terminal⟩

/-! ## Events that the checks pass over -/

theorem skip_append (h : events ≠ []) (more : List LifecycleEvent) :
    skip e (events ++ more) = skip e events ++ more := by
  cases events with
  | nil => exact absurd rfl h
  | cons head events =>
    show (if some head = some e then events ++ more else head :: (events ++ more)) =
      (if some head = some e then events else head :: events) ++ more
    split
    · rfl
    · rfl

theorem length_le_length_skip (e : LifecycleEvent) (events : List LifecycleEvent) :
    events.length ≤ (skip e events).length + 1 := by
  rw [skip]
  split
  · rw [List.length_tail]
    omega
  · omega

theorem body_append (h : 6 ≤ events.length) (more : List LifecycleEvent) :
    body (events ++ more) = body events ++ more := by
  have hne : ∀ list : List LifecycleEvent, 0 < list.length → list ≠ [] :=
    fun list => List.length_pos_iff.1
  have hdrop : (events.drop 3).length = events.length - 3 := List.length_drop
  have hfirst := length_le_length_skip .cudaContextProbe (events.drop 3)
  have hsecond := length_le_length_skip .modelSidecarValidated
    (skip .cudaContextProbe (events.drop 3))
  rw [body, List.drop_append_of_le_length (by omega), skip_append (hne _ (by omega)),
    skip_append (hne _ (by omega)), skip_append (hne _ (by omega))]
  rfl

/-- An event that sets no flag and is no probe makes no difference between other events. -/
theorem validateEvents_insert (hstep : ∀ f : Flags, f.step e = f) (hcuda : e ≠ .cudaContextProbe)
    (hsidecar : e ≠ .modelSidecarValidated) {before after : List LifecycleEvent}
    (hbefore : 6 ≤ before.length) (hafter : after ≠ []) :
    validateEvents (before ++ e :: after) = validateEvents (before ++ after) := by
  have hscan : Flags.scan (body (before ++ e :: after)) =
      Flags.scan (body (before ++ after)) := by
    rw [body_append hbefore, body_append hbefore, Flags.scan, Flags.scan, List.foldl_append,
      List.foldl_append, List.foldl_cons, hstep]
  have hlength : (6 ≤ (before ++ e :: after).length) = (6 ≤ (before ++ after).length) := by
    simp only [List.length_append, eq_iff_iff]
    omega
  have hhead : (before ++ e :: after).head? = (before ++ after).head? := by
    cases before with
    | nil => simp at hbefore
    | cons first before => rfl
  have hlast : (before ++ e :: after).getLast? = (before ++ after).getLast? := by
    rw [List.getLast?_append_of_ne_nil _ hafter,
      List.getLast?_append_of_ne_nil _ (List.cons_ne_nil _ _), List.getLast?_cons_of_ne_nil hafter]
  have hpreamble : [.runStart, .configValidated, .telemetryProbe].isPrefixOf
      (before ++ e :: after) =
      [.runStart, .configValidated, .telemetryProbe].isPrefixOf (before ++ after) := by
    obtain _ | ⟨first, _ | ⟨second, _ | ⟨third, before⟩⟩⟩ := before
    · simp at hbefore
    · simp at hbefore
    · simp at hbefore
    · rfl
  have hprobe : ∀ probe ≠ e, (before ++ e :: after).contains probe =
      (before ++ after).contains probe := by
    intro probe hne
    simp [hne]
  simp only [validateEvents, hscan, hlength, hhead, hlast, hpreamble, earlyFailClosed,
    hprobe _ hcuda.symm, hprobe _ hsidecar.symm]

/-! ## Completed runs -/

/-- The exemption of an early failure applies, whatever the run ended with: a probe was made
and the semantics of the cap were not resolved. -/
def Exempt (events : List LifecycleEvent) : Prop :=
  (.cudaContextProbe ∈ events ∨ .modelSidecarValidated ∈ events) ∧
    .capSemanticsResolved ∉ events

instance (events : List LifecycleEvent) : Decidable (Exempt events) :=
  inferInstanceAs (Decidable (_ ∧ _))

theorem mem_skip_of_ne {e skipped : LifecycleEvent} (hne : e ≠ skipped) (h : e ∈ events) :
    e ∈ skip skipped events := by
  rw [skip]
  split
  · rename_i hhead
    cases events with
    | nil => cases h
    | cons head events =>
      obtain rfl := Option.some.inj hhead
      exact (List.mem_cons.1 h).resolve_left hne
  · exact h

/-- The preamble holds none of the events of a phase. -/
theorem capSemantics_mem_body (h : .capSemanticsResolved ∈ events)
    (hpreamble : [.runStart, .configValidated, .telemetryProbe] <+: events) :
    .capSemanticsResolved ∈ body events := by
  obtain ⟨rest, rfl⟩ := hpreamble
  have hrest : .capSemanticsResolved ∈ rest := by simpa using h
  exact mem_skip_of_ne (by decide) (mem_skip_of_ne (by decide) (mem_skip_of_ne (by decide) hrest))

theorem exempt_of_early {probe : LifecycleEvent}
    (hprobe : probe = .cudaContextProbe ∨ probe = .modelSidecarValidated)
    (h : WellFormed events (Flags.scan (body events)))
    (hearly : earlyFailClosed probe events (Flags.scan (body events)) = true) : Exempt events := by
  simp only [earlyFailClosed, Bool.and_eq_true, Bool.not_eq_true', List.contains_iff_mem]
    at hearly
  refine ⟨?_, fun hcap => ?_⟩
  · rcases hprobe with rfl | rfl
    · exact .inl hearly.2
    · exact .inr hearly.2
  · have hsaw := (saw_scan _ rfl).2 (capSemantics_mem_body hcap h.preamble)
    rw [hearly.1.2] at hsaw
    cases hsaw

/-- The events of every phase, or the exemption. -/
theorem phases_of_wellFormed (h : WellFormed events (Flags.scan (body events)))
    (hexempt : ¬Exempt events) (he : e ∈ phaseEvents) : e ∈ events := by
  have hphase := h.phases e he
  simp only [Bool.or_eq_true] at hphase
  rcases hphase with (hsaw | hearly) | hearly
  · have hflagged : ∀ e ∈ phaseEvents, flagged e = true := by decide
    exact mem_of_mem_body ((saw_scan _ (hflagged e he)).1 hsaw)
  · exact absurd (exempt_of_early (.inl rfl) h hearly) hexempt
  · exact absurd (exempt_of_early (.inr rfl) h hearly) hexempt

/-- **A completed run in an accepted file went through every phase exactly if the file is not
exempt.** -/
theorem completed_phases_iff {path : String} {text : List Char}
    (haccepted : validatePhase0Lifecycle path (some text) = .ok ()) :
    (.completed ∈ lifecycleEvents text →
        ∀ e ∈ phaseEvents ++ [.memorySample], e ∈ lifecycleEvents text) ↔
      (.completed ∈ lifecycleEvents text → ¬Exempt (lifecycleEvents text)) := by
  have hformed := validateEvents_eq_ok_iff.1 haccepted
  refine imp_congr_right fun _ => ⟨fun hall hexempt => ?_, fun hexempt e he => ?_⟩
  · exact hexempt.2 (hall _ (by decide))
  · rcases List.mem_append.1 he with he | he
    · exact phases_of_wellFormed hformed hexempt he
    · obtain rfl := List.mem_singleton.1 he
      exact mem_of_mem_body ((saw_scan _ rfl).1 hformed.memory)

/-! ## A completed run without its phases -/

namespace Fixture

/-- The file with these events, one in each line. -/
def telemetryFile (events : List LifecycleEvent) : List Char :=
  (events.map eventLine).flatMap fun line => line ++ ['\n']

/-- A CUDA probe, a memory sample, and the run is completed. -/
def probeOnly : List LifecycleEvent :=
  [.runStart, .configValidated, .telemetryProbe, .cudaContextProbe, .memorySample, .completed,
   .runEnd]

/-- A run on the CPU through every phase. -/
def everyPhase : List LifecycleEvent :=
  [.runStart, .configValidated, .telemetryProbe, .backendSelected, .dependencyPinsResolved,
   .capSemanticsResolved, .hostPrepare, .modelLoadPlan, .backendInit, .backendWarmup,
   .memorySample, .capCertificationResult, .completed, .runEnd]

end Fixture

open Fixture

/-- A file is accepted with a completed event and none of the phases. -/
theorem completed_without_phases :
    validatePhase0Lifecycle "telemetry.jsonl" (some (telemetryFile probeOnly)) = .ok () ∧
      .completed ∈ lifecycleEvents (telemetryFile probeOnly) ∧
      ∀ e ∈ phaseEvents, e ∉ lifecycleEvents (telemetryFile probeOnly) := by
  rw [validatePhase0Lifecycle, telemetryFile, lifecycleEvents_eventLines]
  decide

theorem completed_phases_iff_on_cpu_run :
    (.completed ∈ lifecycleEvents (telemetryFile everyPhase) →
        ∀ e ∈ phaseEvents ++ [.memorySample], e ∈ lifecycleEvents (telemetryFile everyPhase)) ↔
      (.completed ∈ lifecycleEvents (telemetryFile everyPhase) →
        ¬Exempt (lifecycleEvents (telemetryFile everyPhase))) := by
  refine @completed_phases_iff "telemetry.jsonl" _ ?_
  rw [validatePhase0Lifecycle, telemetryFile, lifecycleEvents_eventLines]
  decide

end PrismInfer.Telemetry
