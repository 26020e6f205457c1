import Mathlib.Data.List.Basic

/-!
# Computations that may fail

Inversion of `Except`: when a sequence of computations, a loop over a list or a fold
succeeds, and what its parts did then.
-/

namespace PrismInfer.Lib

section Bind

variable {ε α β : Type} {x : α}

theorem bind_eq_ok {m : Except ε α} {f : α → Except ε β} {y : β} :
    (m >>= f) = .ok y ↔ ∃ a, m = .ok a ∧ f a = .ok y := by
  cases m <;> simp [bind, Except.bind]

theorem unit_bind {m : Except ε Unit} {f : Unit → Except ε α} :
    (m >>= f) = .ok x ↔ m = .ok () ∧ f () = .ok x := by
  rw [bind_eq_ok]
  exact ⟨fun ⟨(), h⟩ => h, fun h => ⟨(), h⟩⟩

/-- What is raised under a condition. -/
theorem ite_error_eq_ok {c : Prop} [Decidable c] {e : ε} {m : Except ε α} :
    (if c then .error e else m) = .ok x ↔ ¬c ∧ m = .ok x := by
  by_cases h : c <;> simp [h]

theorem ok_bind {f : α → Except ε β} : (Except.ok x >>= f) = f x := rfl

end Bind

section Loop

variable {ε α σ : Type} {xs : List α}

/-- A loop succeeds if every turn of it does. -/
theorem forM_eq_ok {f : α → Except ε PUnit} : xs.forM f = .ok () ↔ ∀ x ∈ xs, f x = .ok () := by
  induction xs with
  | nil => exact ⟨fun _ => nofun, fun _ => rfl⟩
  | cons x xs ih =>
    rw [List.forall_mem_cons, ← ih]
    exact unit_bind

/-- A fold whose turns are those of a pure function. -/
theorem foldlM_eq_foldl {f : σ → α → Except ε σ} {g : σ → α → σ}
    (h : ∀ x ∈ xs, ∀ s t, f s x = .ok t → t = g s x) {s t : σ}
    (hfold : xs.foldlM f s = .ok t) : t = xs.foldl g s := by
  induction xs generalizing s with
  | nil =>
    cases hfold
    rfl
  | cons x xs ih =>
    rw [List.foldlM_cons, bind_eq_ok] at hfold
    obtain ⟨u, hu, hfold⟩ := hfold
    rw [List.foldl_cons, ← h x List.mem_cons_self s u hu]
    exact ih (fun y hy => h y (List.mem_cons_of_mem x hy)) hfold

end Loop

end PrismInfer.Lib
