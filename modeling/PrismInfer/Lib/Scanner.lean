import Mathlib.Data.List.Basic
import Mathlib.Tactic

/-!
# Scanners of binary files

A scanner goes through the bytes of a file with an offset that it passes along. It may
raise an error, and it leaves a record of every read.

* `Returns`, `Fails`: what a computation answers, whatever it had read before.
* `Decodes`: the scanner has an answer for files with these bytes at this offset, whatever
  follows them, and it fails on files that end inside of them. Scanners that decode are
  composed with `Decodes.bind`, for the bytes of one after those of the other.
* `Inside`: nothing is read that is not in the file.
-/

namespace PrismInfer.Lib

/-! ## Little-endian numbers -/

/-- The bytes of a number, the lowest first. -/
def leBytes : ℕ → ℕ → List (BitVec 8)
  | 0, _ => []
  | width + 1, n => BitVec.ofNat 8 n :: leBytes width (n / 256)

def leValue (bytes : List (BitVec 8)) : ℕ :=
  bytes.foldr (fun byte value => byte.toNat + 256 * value) 0

@[simp] theorem length_leBytes (width n : ℕ) : (leBytes width n).length = width := by
  induction width generalizing n with
  | zero => rfl
  | succ width ih => rw [leBytes, List.length_cons, ih]

theorem leValue_leBytes {width n : ℕ} (h : n < 256 ^ width) : leValue (leBytes width n) = n := by
  induction width generalizing n with
  | zero =>
    rw [pow_zero, Nat.lt_one_iff] at h
    rw [h]
    rfl
  | succ width ih =>
    have hhigh : n / 256 < 256 ^ width := by
      rw [pow_succ] at h
      exact Nat.div_lt_of_lt_mul (by rwa [mul_comm] at h)
    show (BitVec.ofNat 8 n).toNat + 256 * leValue (leBytes width (n / 256)) = n
    rw [ih hhigh, BitVec.toNat_ofNat]
    exact Nat.mod_add_div n 256

/-! ## Computations with a record of their reads -/

/-- A computation that may raise an error and records its reads: offset and length. -/
abbrev Scan (ε α : Type) := ExceptT ε (StateM (List (ℕ × ℕ))) α

section Scan

variable {ε α β : Type} {R : ε → Prop} {m : Scan ε α} {f : α → Scan ε β} {x : α} {y : β}

/-- The answer is this value, whatever was read before. -/
def Returns (m : Scan ε α) (x : α) : Prop :=
  ∀ log, (m.run.run log).1 = .ok x

/-- An error of the given kind is raised, whatever was read before. -/
def Fails (R : ε → Prop) (m : Scan ε α) : Prop :=
  ∀ log, ∃ e, (m.run.run log).1 = .error e ∧ R e

/-- What a sequence does. -/
theorem run_bind (log : List (ℕ × ℕ)) : (m >>= f).run.run log =
      match m.run.run log with
      | (.ok a, log') => (f a).run.run log'
      | (.error e, log') => (.error e, log') := by
  rw [ExceptT.run_bind, StateT.run_bind]
  rcases m.run.run log with ⟨e | a, log'⟩ <;> rfl

theorem Returns.pure (x : α) : Returns (pure x : Scan ε α) x := fun _ => rfl

theorem Fails.throw {e : ε} (h : R e) : Fails R (throw e : Scan ε α) := fun _ => ⟨e, rfl, h⟩

theorem Returns.bind (hm : Returns m x) (hf : Returns (f x) y) : Returns (m >>= f) y := by
  intro log
  have hfirst := hm log
  rw [run_bind]
  rcases hrun : m.run.run log with ⟨result, log'⟩
  rw [hrun] at hfirst
  cases hfirst
  exact hf log'

theorem Fails.bind (hm : Fails R m) : Fails R (m >>= f) := by
  intro log
  obtain ⟨e, hfirst, he⟩ := hm log
  rw [run_bind]
  rcases hrun : m.run.run log with ⟨result, log'⟩
  rw [hrun] at hfirst
  cases hfirst
  exact ⟨e, rfl, he⟩

theorem Returns.bind_fails (hm : Returns m x) (hf : Fails R (f x)) : Fails R (m >>= f) := by
  intro log
  have hfirst := hm log
  rw [run_bind]
  rcases hrun : m.run.run log with ⟨result, log'⟩
  rw [hrun] at hfirst
  cases hfirst
  exact hf log'

/-- Every read of the computation is one of the file. -/
def Inside (size : ℕ) (m : Scan ε α) : Prop :=
  ∀ log, (∀ read ∈ log, read.1 + read.2 ≤ size) →
    ∀ read ∈ (m.run.run log).2, read.1 + read.2 ≤ size

variable {size : ℕ}

theorem Inside.pure (x : α) : Inside size (pure x : Scan ε α) := fun _ h => h

theorem Inside.throw (e : ε) : Inside size (throw e : Scan ε α) := fun _ h => h

/-- The computation may answer this value. -/
def Answers (m : Scan ε α) (x : α) : Prop :=
  ∃ log, (m.run.run log).1 = .ok x

theorem Answers.of_bind (h : Answers (m >>= f) y) : ∃ a, Answers m a ∧ Answers (f a) y := by
  obtain ⟨log, h⟩ := h
  rw [run_bind] at h
  rcases hrun : m.run.run log with ⟨e | a, log'⟩ <;> rw [hrun] at h
  · cases h
  · exact ⟨a, ⟨log, by rw [hrun]⟩, log', h⟩

theorem Inside.bind (hm : Inside size m) (hf : ∀ a, Answers m a → Inside size (f a)) :
    Inside size (m >>= f) := by
  intro log hlog
  have hfirst := hm log hlog
  rw [run_bind]
  rcases hrun : m.run.run log with ⟨e | a, log'⟩
  · rw [hrun] at hfirst
    exact hfirst
  · rw [hrun] at hfirst
    exact hf a ⟨log, by rw [hrun]⟩ log' hfirst

end Scan

/-! ## Scanners -/

section Decodes

variable {ε ρ ρ' : Type}

/-- On a file with these bytes at the offset `start` the answer is `r`; on a file that ends
inside of them the scanner fails. -/
structure Decodes (R : ε → Prop) (scan : List (BitVec 8) → Scan ε ρ) (start : ℕ)
    (bytes : List (BitVec 8)) (r : ρ) : Prop where
  returns : ∀ before after, before.length = start →
    Returns (scan (before ++ (bytes ++ after))) r
  fails : ∀ before part, before.length = start → part <+: bytes → part ≠ bytes →
    Fails R (scan (before ++ part))

variable {R : ε → Prop} {scan : List (BitVec 8) → Scan ε ρ} {start : ℕ}
  {bytes bytes' : List (BitVec 8)} {r : ρ} {r' : ρ'}

/-- One scanner after the other. -/
theorem Decodes.bind (h : Decodes R scan start bytes r) {g : ρ → List (BitVec 8) → Scan ε ρ'}
    (hnext : Decodes R (g r) (start + bytes.length) bytes' r') :
    Decodes R (fun file => scan file >>= fun r => g r file) start (bytes ++ bytes') r' where
  returns before after hbefore := by
    have hfirst := h.returns before (bytes' ++ after) hbefore
    have hsecond := hnext.returns (before ++ bytes) after (by rw [List.length_append, hbefore])
    rw [List.append_assoc] at hsecond
    rw [List.append_assoc]
    exact hfirst.bind hsecond
  fails before part hbefore hpart hne := by
    rcases List.prefix_or_prefix_of_prefix hpart (List.prefix_append bytes bytes') with
      hshort | ⟨more, rfl⟩
    · by_cases hall : part = bytes
      · -- the file ends between the two
        have hfirst := h.returns before [] hbefore
        have hsecond := hnext.fails (before ++ bytes) [] (by rw [List.length_append, hbefore])
          List.nil_prefix ?_
        · rw [List.append_nil] at hfirst hsecond
          rw [hall]
          exact hfirst.bind_fails hsecond
        · rintro rfl
          exact hne (by rw [hall, List.append_nil])
      · exact (h.fails before part hbefore hshort hall).bind
    · have hfirst := h.returns before more hbefore
      have hsecond := hnext.fails (before ++ bytes) more (by rw [List.length_append, hbefore])
        ((List.prefix_append_right_inj bytes).1 hpart) (fun heq => hne (by rw [heq]))
      rw [List.append_assoc] at hsecond
      exact hfirst.bind_fails hsecond

/-- A computation that reads nothing. -/
theorem Decodes.of_returns (h : ∀ file, Returns (scan file) r) : Decodes R scan start [] r where
  returns _ _ _ := h _
  fails _ _ _ hpart hne := absurd (List.prefix_nil.1 hpart) hne

/-- A computation in front of a scanner that reads nothing. -/
theorem Decodes.after {γ : Type} {z : γ} {m : Scan ε γ} (hm : Returns m z)
    {g : γ → List (BitVec 8) → Scan ε ρ} (h : Decodes R (g z) start bytes r) :
    Decodes R (fun file => m >>= fun z => g z file) start bytes r where
  returns before after hbefore := hm.bind (h.returns before after hbefore)
  fails before part hbefore hpart hne := hm.bind_fails (h.fails before part hbefore hpart hne)

/-- A computation behind a scanner that reads nothing more. -/
theorem Decodes.then (h : Decodes R scan start bytes r)
    {g : ρ → List (BitVec 8) → Scan ε ρ'} (hnext : ∀ file, Returns (g r file) r') :
    Decodes R (fun file => scan file >>= fun r => g r file) start bytes r' := by
  have hboth := h.bind (g := g) (Decodes.of_returns hnext)
  rwa [List.append_nil] at hboth

end Decodes

end PrismInfer.Lib
