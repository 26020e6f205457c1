import Mathlib.Tactic

/-!
# Runs of an executable transition system

A transition system is a partial function `exec : σ → α → Option (σ × β)`: in a
state, an action is either refused or leads to a next state with an outcome. A
`Run` from a state is any finite sequence of accepted actions; its trace lists
each action with its outcome. Interleavings of several threads are runs whose
actions name the thread that moves.

`Run.invariant` and `Run.history` are the induction rules.
-/

namespace PrismInfer.Lib

universe u v w

variable {σ : Type u} {α : Type v} {β : Type w}

/-- `Run exec s trace t`: the actions of `trace`, taken from `s`, are all
accepted, have the outcomes of `trace`, and end in `t`. -/
inductive Run (exec : σ → α → Option (σ × β)) (s : σ) : List (α × β) → σ → Prop
  | nil : Run exec s [] s
  | snoc {trace : List (α × β)} {t t' : σ} {a : α} {b : β} (run : Run exec s trace t)
      (step : exec t a = some (t', b)) : Run exec s (trace ++ [(a, b)]) t'

namespace Run

variable {exec : σ → α → Option (σ × β)} {s t : σ} {trace : List (α × β)} {b : β} {a : α}

theorem single (step : exec s a = some (t, b)) : Run exec s [(a, b)] t :=
  Run.snoc Run.nil step

variable {trace' : List (α × β)}

theorem append {r : σ} (h : Run exec s trace t) (h' : Run exec t trace' r) :
    Run exec s (trace ++ trace') r := by
  induction h' with
  | nil =>
    rw [List.append_nil]
    exact h
  | snoc _ step ih =>
    rw [← List.append_assoc]
    exact Run.snoc ih step

/-- Any cut of a trace is a state the run went through. -/
theorem split {r : σ} (h : Run exec s (trace ++ trace') r) :
    ∃ t, Run exec s trace t ∧ Run exec t trace' r := by
  generalize hfull : trace ++ trace' = full at h
  induction h generalizing trace' with
  | nil =>
    obtain ⟨rfl, rfl⟩ := List.append_eq_nil_iff.1 hfull
    exact ⟨s, Run.nil, Run.nil⟩
  | @snoc full' u u' a b run step ih =>
    rcases List.eq_nil_or_concat trace' with rfl | ⟨init, last, rfl⟩
    · rw [List.append_nil] at hfull
      subst hfull
      exact ⟨u', Run.snoc run step, Run.nil⟩
    · -- the last step of the run is the last of the second part
      rw [List.concat_eq_append, ← List.append_assoc] at hfull
      obtain ⟨hinit, hlast⟩ := List.append_inj' hfull rfl
      obtain rfl : last = (a, b) := List.singleton_inj.1 hlast
      obtain ⟨t, h₁, h₂⟩ := ih hinit
      refine ⟨t, h₁, ?_⟩
      rw [List.concat_eq_append]
      exact Run.snoc h₂ step

/-- The run up to an entry of the trace, the step of the entry, and the rest. -/
theorem split_at {r : σ} (h : Run exec s (trace ++ (a, b) :: trace') r) :
    ∃ t t', Run exec s trace t ∧ exec t a = some (t', b) ∧ Run exec t' trace' r := by
  obtain ⟨t, h₁, h₂⟩ := split h
  obtain ⟨t', h₃, h₄⟩ := split (show Run exec t ([(a, b)] ++ trace') r from h₂)
  refine ⟨t, t', h₁, ?_, h₄⟩
  generalize hone : [(a, b)] = one at h₃
  cases h₃ with
  | nil => cases hone
  | @snoc init u _ _ _ run step =>
    obtain ⟨hinit, hlast⟩ := List.append_inj' (show [] ++ [(a, b)] = _ from hone) rfl
    subst hinit
    cases hlast
    generalize hnil : ([] : List (α × β)) = empty at run
    cases run with
    | nil => exact step
    | snoc => simp at hnil

/-- What every step preserves holds at the end of every run. -/
theorem invariant {P : σ → Prop} (h : Run exec s trace t) (h₀ : P s)
    (hstep : ∀ t a t' b, P t → exec t a = some (t', b) → P t') : P t := by
  induction h with
  | nil => exact h₀
  | snoc _ step ih => exact hstep _ _ _ _ ih step

/-- A property of the trace so far and the state, kept by every step. -/
theorem history {P : List (α × β) → σ → Prop} (h : Run exec s trace t) (h₀ : P [] s)
    (hstep : ∀ trace t a t' b, P trace t → exec t a = some (t', b) → P (trace ++ [(a, b)]) t') :
    P trace t := by
  induction h with
  | nil => exact h₀
  | snoc _ step ih => exact hstep _ _ _ _ _ ih step

/-- A trace has one end. -/
theorem unique {t' : σ} (h : Run exec s trace t) (h' : Run exec s trace t') : t = t' := by
  induction h generalizing t' with
  | nil =>
    generalize hempty : ([] : List (α × β)) = empty at h'
    cases h' with
    | nil => rfl
    | snoc => simp at hempty
  | @snoc trace u u' a b run step ih =>
    generalize hfull : trace ++ [(a, b)] = full at h'
    cases h' with
    | nil => simp at hfull
    | @snoc trace' v v' a' b' run' step' =>
      obtain ⟨hinit, hlast⟩ := List.append_inj' hfull rfl
      subst hinit
      cases hlast
      obtain rfl := ih run'
      rw [step] at step'
      cases step'
      rfl

/-- The states of a run: those its trace led to before, between and after its steps. -/
def Visits (exec : σ → α → Option (σ × β)) (s : σ) (trace : List (α × β)) (u : σ) : Prop :=
  ∃ before after, trace = before ++ after ∧ Run exec s before u

theorem visits_nil {u : σ} : Visits exec s [] u ↔ u = s := by
  constructor
  · rintro ⟨before, after, hnil, hrun⟩
    obtain ⟨rfl, -⟩ := List.append_eq_nil_iff.1 hnil.symm
    exact hrun.unique nil
  · rintro rfl
    exact ⟨[], [], rfl, nil⟩

theorem visits_snoc (h : Run exec s trace t) {t' u : σ} (step : exec t a = some (t', b)) :
    Visits exec s (trace ++ [(a, b)]) u ↔ Visits exec s trace u ∨ u = t' := by
  constructor
  · rintro ⟨before, after, hfull, hrun⟩
    rcases List.eq_nil_or_concat after with rfl | ⟨init, last, rfl⟩
    · rw [List.append_nil] at hfull
      subst hfull
      exact .inr (hrun.unique (h.snoc step))
    · rw [List.concat_eq_append, ← List.append_assoc] at hfull
      exact .inl ⟨before, init, (List.append_inj' hfull rfl).1, hrun⟩
  · rintro (⟨before, after, rfl, hrun⟩ | rfl)
    · exact ⟨before, after ++ [(a, b)], List.append_assoc .., hrun⟩
    · exact ⟨_, [], (List.append_nil _).symm, h.snoc step⟩

/-- Every step of the trace meets the condition, which may look at the trace and the
state before the step and at the action. -/
def EveryStep (exec : σ → α → Option (σ × β)) (s : σ) (P : List (α × β) → σ → α → Prop)
    (trace : List (α × β)) : Prop :=
  ∀ before a b after t, trace = before ++ (a, b) :: after → Run exec s before t → P before t a

theorem everyStep_nil (P : List (α × β) → σ → α → Prop) : EveryStep exec s P [] := by
  intro before a b after t hnil
  simp at hnil

variable {P : List (α × β) → σ → α → Prop}

theorem EveryStep.left (h : EveryStep exec s P (trace ++ trace')) : EveryStep exec s P trace := by
  intro before a b after t htrace hrun
  exact h before a b (after ++ trace') t (by rw [htrace]; simp) hrun

theorem everyStep_snoc (h : Run exec s trace t) :
    EveryStep exec s P (trace ++ [(a, b)]) ↔ EveryStep exec s P trace ∧ P trace t a := by
  constructor
  · intro hevery
    exact ⟨hevery.left, hevery trace a b [] t rfl h⟩
  · rintro ⟨hevery, hlast⟩ before a' b' after u hfull hrun
    rcases List.eq_nil_or_concat after with rfl | ⟨init, last, rfl⟩
    · -- the last step
      obtain ⟨hinit, hentry⟩ := List.append_inj' hfull rfl
      subst hinit
      cases hentry
      obtain rfl := hrun.unique h
      exact hlast
    · rw [List.concat_eq_append, ← List.cons_append, ← List.append_assoc] at hfull
      obtain ⟨hinit, -⟩ := List.append_inj' hfull rfl
      exact hevery before a' b' init u hinit hrun

end Run

/-- The trace and the final state of a list of actions, unless one is refused. -/
def runActions (exec : σ → α → Option (σ × β)) (s : σ) : List α → Option (List (α × β) × σ)
  | [] => some ([], s)
  | a :: as =>
    match exec s a with
    | none => none
    | some (s', b) =>
      match runActions exec s' as with
      | none => none
      | some (trace, t) => some ((a, b) :: trace, t)

variable {exec : σ → α → Option (σ × β)} {trace : List (α × β)} {as : List α}

/-- Evaluating a list of actions gives a run. -/
theorem Run.of_runActions {s t : σ} (h : runActions exec s as = some (trace, t)) :
    Run exec s trace t := by
  induction as generalizing s trace with
  | nil =>
    simp only [runActions, Option.some.injEq, Prod.mk.injEq] at h
    obtain ⟨rfl, rfl⟩ := h
    exact Run.nil
  | cons a as ih =>
    rw [runActions] at h
    split at h
    · cases h
    · rename_i s' b hexec
      split at h
      · cases h
      · rename_i trace' t' hrest
        simp only [Option.some.injEq, Prod.mk.injEq] at h
        obtain ⟨rfl, rfl⟩ := h
        exact (Run.single hexec).append (ih hrest)

/-- A run whose trace and final state pass a check, by evaluation. -/
theorem Run.exists_of_runActions {s : σ} (as : List α) (check : List (α × β) × σ → Bool)
    (h : (runActions exec s as).any check = true) :
    ∃ trace t, Run exec s trace t ∧ check (trace, t) = true := by
  rw [Option.any_eq_true] at h
  obtain ⟨⟨trace, t⟩, hactions, hcheck⟩ := h
  exact ⟨trace, t, Run.of_runActions hactions, hcheck⟩

/-- The actions of a trace are those that were evaluated. -/
theorem runActions_actions {s t : σ} (h : runActions exec s as = some (trace, t)) :
    trace.map Prod.fst = as := by
  induction as generalizing s t trace with
  | nil =>
    simp only [runActions, Option.some.injEq, Prod.mk.injEq] at h
    rw [← h.1]
    rfl
  | cons a as ih =>
    rw [runActions] at h
    split at h
    · cases h
    · split at h
      · cases h
      · rename_i trace' t' hrest
        simp only [Option.some.injEq, Prod.mk.injEq] at h
        rw [← h.1, List.map_cons, ih hrest]

/-- A condition on the actions alone holds at every step of an evaluated run. -/
theorem Run.everyStep_of_runActions {s t : σ} (h : runActions exec s as = some (trace, t))
    (hP : ∀ a ∈ as, ∀ before u, P before u a) : Run.EveryStep exec s P trace := by
  intro before a b after u htrace _
  refine hP a ?_ before u
  rw [← runActions_actions h, htrace]
  simp

end PrismInfer.Lib
