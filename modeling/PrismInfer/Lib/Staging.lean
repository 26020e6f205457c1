import PrismInfer.Lib.Run
import PrismInfer.Lib.Tally

/-!
# Private staging and publication without replacement

Writers share a store of numbered objects. A writer builds an object in private
and then publishes it: one atomic step gives the object a public name, and that
step is refused when the name is taken. Writers come at any time, move in any
order, and may stop for good anywhere; what a stopped writer has staged stays.

* `Extends`: what is published stays published (`Protocol.extends_run`). The store does not see
  to it: the program has to leave an object alone that it has published (`Protocol.Discreet`).
* `Protocol.Keeps`: an invariant of one writer, shown for its own steps only, holds in
  every interleaving (`Keeps.run`).
* `Keeps.published`: a property of what is published, shown at the step that publishes.
-/

namespace PrismInfer.Lib

universe u v

variable {ν γ ℓ ε α : Type*}

/-! ## The store -/

/-- Objects by number, and the public names of some of them. -/
structure Store (ν : Type u) (γ : Type v) where
  objects : List γ
  published : ν → Option ℕ
  named : ∀ n k, published n = some k → k < objects.length

namespace Store

/-- The store without objects. -/
def empty (ν : Type u) (γ : Type v) : Store ν γ := ⟨[], fun _ => none, nofun⟩

/-- What stands under a public name. -/
def content (s : Store ν γ) (n : ν) : Option γ :=
  (s.published n).bind fun k => s.objects[k]?

/-- The store with one more object, which has no public name. -/
def create (s : Store ν γ) (c : γ) : Store ν γ where
  objects := s.objects ++ [c]
  published := s.published
  named n k h := by
    rw [List.length_append]
    exact Nat.lt_add_right _ (s.named n k h)

/-- The store with other content in one object. -/
def write (s : Store ν γ) (k : ℕ) (c : γ) : Store ν γ where
  objects := s.objects.set k c
  published := s.published
  named n j h := by
    rw [List.length_set]
    exact s.named n j h

/-- The store with a public name for an object. -/
def publish [DecidableEq ν] (s : Store ν γ) (n : ν) (k : ℕ) (h : k < s.objects.length) :
    Store ν γ where
  objects := s.objects
  published := Function.update s.published n (some k)
  named m j hj := by
    by_cases hm : m = n
    · rw [hm, Function.update_self] at hj
      cases hj
      exact h
    · rw [Function.update_of_ne hm] at hj
      exact s.named m j hj

end Store

/-- What a writer has staged: its object while the object still has a private name,
whether the object has a public name too, and the private names it left behind. -/
structure Staged where
  object : Option ℕ := none
  shared : Bool := false
  left : List ℕ := []

/-- The number of private names of an object. -/
def Staged.links (st : Staged) (k : ℕ) : ℕ :=
  (if st.object = some k then 1 else 0) + st.left.count k

/-- What is in the staged object. -/
def Staged.content (st : Staged) (s : Store ν γ) : Option γ :=
  st.object.bind fun k => s.objects[k]?

/-- What a step does to the store. `publish` with `keep` leaves the private name in
place, as a second link does, and without it moves the object, as a renaming does;
`discard` removes the private name and `abandon` fails to. -/
inductive Effect (ν : Type u) (γ : Type v)
  | idle
  | create (content : γ)
  | write (content : γ)
  | publish (name : ν) (keep : Bool)
  | discard
  | abandon
  deriving DecidableEq

/-- The effect on the store and on what the writer has staged; `none` when the store
refuses it: without an object there is nothing to write or to name, and a name is given once.
A shared object can be written. -/
def Store.perform [DecidableEq ν] (s : Store ν γ) (st : Staged) :
    Effect ν γ → Option (Store ν γ × Staged)
  | .idle => some (s, st)
  | .create c =>
    if st.object = none then
      some (s.create c, { st with object := some s.objects.length, shared := false })
    else none
  | .write c =>
    match st.object with
    | none => none
    | some k => some (s.write k c, st)
  | .publish n keep =>
    match st.object with
    | none => none
    | some k =>
      if h : k < s.objects.length ∧ s.published n = none then
        some (s.publish n k h.1,
          { st with object := if keep then some k else none, shared := true })
      else none
  | .discard => some (s, { st with object := none, shared := false })
  | .abandon => some (s, { object := none, shared := false, left := st.object.toList ++ st.left })

/-- All that a step may change. -/
structure Performed (s : Store ν γ) (st : Staged) (e : Effect ν γ) (s' : Store ν γ)
    (st' : Staged) : Prop where
  /-- No object goes away. -/
  grows : s.objects.length ≤ s'.objects.length
  /-- Only the writer's own object is written, and only by a write. -/
  frame : ∀ k < s.objects.length, (st.object = some k → ∀ c, e ≠ .write c) →
    s'.objects[k]? = s.objects[k]?
  /-- A name changes only by being given to the writer's own object. -/
  names : ∀ n, s'.published n = s.published n ∨
    s.published n = none ∧ s'.published n = st.object ∧ s'.objects = s.objects ∧
      ∃ keep, e = .publish n keep
  /-- A writer that does not share its object has given no name. -/
  quiet : st'.shared = false → s'.published = s.published
  /-- An object is shared by being published, and until its private name goes. -/
  shares : st'.shared = true → (∃ n keep, e = .publish n keep) ∨
    st.shared = true ∧ e ≠ .discard ∧ e ≠ .abandon
  /-- The staged object is the one of before or a new one. -/
  held : ∀ k, st'.object = some k →
    st.object = some k ∧ (st.shared = true → st'.shared = true) ∨
      k = s.objects.length ∧ k < s'.objects.length

variable {e : Effect ν γ}

theorem Performed.published_of_private {s s' : Store ν γ} {st st' : Staged}
    (h : Performed s st e s' st') (he : ∀ n keep, e ≠ .publish n keep) (n : ν) :
    s'.published n = s.published n := by
  rcases h.names n with hsame | ⟨-, -, -, keep, hpublish⟩
  · exact hsame
  · exact absurd hpublish (he n keep)

section Perform

variable [DecidableEq ν] {s s' : Store ν γ} {st st' : Staged} {e : Effect ν γ}

theorem Store.performed_of_perform (h : s.perform st e = some (s', st')) :
    Performed s st e s' st' := by
  cases e with
  | idle =>
    cases h
    exact ⟨le_rfl, fun _ _ _ => rfl, fun _ => .inl rfl, fun _ => rfl,
      fun hshared => .inr ⟨hshared, nofun, nofun⟩, fun _ hk => .inl ⟨hk, id⟩⟩
  | create c =>
    rw [perform] at h
    split at h
    case isFalse => cases h
    case isTrue hnone =>
      cases h
      refine ⟨by simp [create], fun k hk _ => List.getElem?_append_left hk, fun _ => .inl rfl,
        fun _ => rfl, nofun, fun k hk => .inr ?_⟩
      cases hk
      exact ⟨rfl, by simp [create]⟩
  | write c =>
    rw [perform] at h
    split at h
    · cases h
    · rename_i k hobject
      cases h
      refine ⟨by simp [write], fun j _ hown => ?_, fun _ => .inl rfl, fun _ => rfl,
        fun hshared => .inr ⟨hshared, nofun, nofun⟩, fun _ hk => .inl ⟨hk, id⟩⟩
      -- only the writer's own object changes
      have hj : k ≠ j := fun heq => hown (heq ▸ hobject) c rfl
      exact List.getElem?_set_ne hj
  | publish n keep =>
    rw [perform] at h
    split at h
    · cases h
    · rename_i k hobject
      split at h
      case isFalse => cases h
      case isTrue hfree =>
        cases h
        refine ⟨le_rfl, fun _ _ _ => rfl, fun m => ?_, nofun, fun _ => .inl ⟨n, keep, rfl⟩,
          fun j hj => .inl ⟨?_, fun _ => rfl⟩⟩
        · by_cases hm : m = n
          · subst hm
            exact .inr ⟨hfree.2, by simp [publish, hobject], rfl, keep, rfl⟩
          · exact .inl (Function.update_of_ne hm _ _)
        · cases keep with
          | true => exact hobject.trans hj
          | false => cases hj
  | discard | abandon =>
    cases h
    exact ⟨le_rfl, fun _ _ _ => rfl, fun _ => .inl rfl, fun _ => rfl, nofun, nofun⟩

variable {n : ν}

/-- What is published is what was staged. -/
theorem Store.content_of_publish {keep : Bool} {c : γ}
    (h : s.perform st (.publish n keep) = some (s', st')) (hc : st.content s = some c) :
    s'.content n = some c := by
  rw [perform] at h
  split at h
  · cases h
  · rename_i k hobject
    split at h
    case isFalse => cases h
    case isTrue =>
      cases h
      rw [Staged.content, hobject] at hc
      simpa [content, publish] using hc

/-- What is created is staged. -/
theorem Store.content_of_create {c : γ} (h : s.perform st (.create c) = some (s', st')) :
    st'.content s' = some c := by
  rw [perform] at h
  split at h
  case isFalse => cases h
  case isTrue =>
    cases h
    simp [Staged.content, create]

/-- What is written is in the object afterwards. -/
theorem Store.content_of_write {c : γ} (h : s.perform st (.write c) = some (s', st'))
    (hheld : ∀ k, st.object = some k → k < s.objects.length) : st'.content s' = some c := by
  rw [perform] at h
  split at h
  · cases h
  · rename_i k hobject
    cases h
    rw [Staged.content, hobject]
    simp [write, hheld k hobject]

end Perform

/-! ## What is published stays -/

/-- Every name of `s` stands for the same object in `t`, with the same content. -/
def Extends (s t : Store ν γ) : Prop :=
  ∀ n k, s.published n = some k → t.published n = some k ∧ t.objects[k]? = s.objects[k]?

namespace Extends

variable {r s t : Store ν γ}

theorem refl (s : Store ν γ) : Extends s s := fun _ _ h => ⟨h, rfl⟩

theorem trans (h : Extends r s) (h' : Extends s t) : Extends r t := by
  intro n k hn
  obtain ⟨hs, hc⟩ := h n k hn
  obtain ⟨ht, hc'⟩ := h' n k hs
  exact ⟨ht, hc'.trans hc⟩

theorem content {c : γ} (h : Extends s t) (hc : s.content n = some c) : t.content n = some c := by
  rw [Store.content, Option.bind_eq_some_iff] at hc ⊢
  obtain ⟨k, hk, hc⟩ := hc
  obtain ⟨ht, hsame⟩ := h n k hk
  exact ⟨k, ht, hsame.trans hc⟩

end Extends

/-- A name has content from the moment it is published. -/
theorem Store.exists_content (s : Store ν γ) {k : ℕ} (h : s.published n = some k) :
    ∃ c, s.content n = some c ∧ s.objects[k]? = some c := by
  have hk : s.objects[k]?.isSome := by simpa using s.named n k h
  obtain ⟨c, hc⟩ := Option.isSome_iff_exists.1 hk
  refine ⟨c, ?_, hc⟩
  rw [content, h]
  exact hc

/-! ## Writers -/

/-- A writer: the state of its program and what it has staged. -/
structure Writer (ℓ : Type u) where
  state : ℓ
  staged : Staged := {}

/-- The store and the writers that have come so far, the stopped ones included. -/
structure World (ν : Type*) (γ : Type*) (ℓ : Type*) where
  store : Store ν γ
  writers : List (Writer ℓ)

/-- The number of private names of an object. -/
def World.links (w : World ν γ ℓ) (k : ℕ) : ℕ :=
  tally (fun writer => writer.staged.links k) w.writers

/-- The program of a writer. `next` is one step of a writer in a world, with the answer
the environment gives to the step; `none` is an answer that cannot come there. -/
structure Protocol (ν : Type*) (γ : Type*) (ℓ : Type*) (ε : Type*) (α : Type*) where
  start : ε → ℓ
  next : World ν γ ℓ → Writer ℓ → α → Option (ℓ × Effect ν γ)

/-- A new writer comes, or the writer with a number takes a step. -/
inductive Move (ε : Type u) (α : Type v)
  | enter (arguments : ε)
  | step (writer : ℕ) (answer : α)

namespace Protocol

variable [DecidableEq ν] (p : Protocol ν γ ℓ ε α)

/-- One move. The outcome is the effect on the store. -/
def exec (w : World ν γ ℓ) : Move ε α → Option (World ν γ ℓ × Effect ν γ)
  | .enter x => some ({ w with writers := w.writers ++ [{ state := p.start x }] }, .idle)
  | .step i a =>
    match w.writers[i]? with
    | none => none
    | some writer =>
      match p.next w writer a with
      | none => none
      | some (l, e) =>
        match w.store.perform writer.staged e with
        | none => none
        | some (s, st) => some (⟨s, w.writers.set i ⟨l, st⟩⟩, e)

/-- One step of the writer `i`, taken apart. -/
structure Stepped (w : World ν γ ℓ) (i : ℕ) (a : α) (e : Effect ν γ) (w' : World ν γ ℓ)
    (writer writer' : Writer ℓ) : Prop where
  at_ : w.writers[i]? = some writer
  next : p.next w writer a = some (writer'.state, e)
  perform : w.store.perform writer.staged e = some (w'.store, writer'.staged)
  writers : w'.writers = w.writers.set i writer'

theorem exec_enter {w w' : World ν γ ℓ} {x : ε} (h : p.exec w (.enter x) = some (w', e)) :
    w'.store = w.store ∧ w'.writers = w.writers ++ [{ state := p.start x }] ∧ e = .idle := by
  cases h
  exact ⟨rfl, rfl, rfl⟩

theorem exec_step {w w' : World ν γ ℓ} {i : ℕ} {a : α} (h : p.exec w (.step i a) = some (w', e)) :
    ∃ writer writer', p.Stepped w i a e w' writer writer' := by
  rw [exec] at h
  split at h
  · cases h
  · rename_i writer hat
    split at h
    · cases h
    · rename_i l e' hnext
      split at h
      · cases h
      · rename_i s st hperform
        cases h
        exact ⟨writer, ⟨l, st⟩, hat, hnext, hperform, rfl⟩

end Protocol

/-- The program leaves an object alone that it has published: there are states for a writer
whose object has a public name too, it comes to them by publishing, leaves them by giving up
the private name, and writes nothing there. -/
class Protocol.Discreet (p : Protocol ν γ ℓ ε α) where
  sharing : ℓ → Prop
  publishes : ∀ {w writer a l n keep}, p.next w writer a = some (l, .publish n keep) → sharing l
  stays : ∀ {w writer a l e}, p.next w writer a = some (l, e) → sharing writer.state →
    sharing l ∨ e = .discard ∨ e = .abandon
  writes : ∀ {w writer a l c}, p.next w writer a = some (l, .write c) → ¬sharing writer.state

/-- Staged objects exist, belong to one writer each, and have no public name as long as
their writer has not shared them; and a writer knows whether it has. -/
structure Protocol.Sound (p : Protocol ν γ ℓ ε α) [p.Discreet] (w : World ν γ ℓ) : Prop where
  held : ∀ (i : ℕ) (writer : Writer ℓ) (k : ℕ), w.writers[i]? = some writer →
    writer.staged.object = some k → k < w.store.objects.length
  unnamed : ∀ (i : ℕ) (writer : Writer ℓ) (k : ℕ), w.writers[i]? = some writer →
    writer.staged.object = some k → writer.staged.shared = false →
    ∀ n, w.store.published n ≠ some k
  exclusive : ∀ (i j : ℕ) (writer writer' : Writer ℓ) (k : ℕ), w.writers[i]? = some writer →
    w.writers[j]? = some writer' → writer.staged.object = some k →
    writer'.staged.object = some k → i = j
  aware : ∀ (i : ℕ) (writer : Writer ℓ), w.writers[i]? = some writer →
    writer.staged.shared = true → Discreet.sharing p writer.state

theorem Protocol.sound_of_no_writers {p : Protocol ν γ ℓ ε α} [p.Discreet] (s : Store ν γ) :
    p.Sound ⟨s, []⟩ :=
  ⟨nofun, nofun, nofun, nofun⟩

/-- All writers of a world have the property. -/
def World.All (I : Store ν γ → Writer ℓ → Prop) (w : World ν γ ℓ) : Prop :=
  ∀ (i : ℕ) (writer : Writer ℓ), w.writers[i]? = some writer → I w.store writer

theorem World.all_of_no_writers (I : Store ν γ → Writer ℓ → Prop) (s : Store ν γ) :
    World.All I ⟨s, []⟩ := by
  intro i writer h
  simp at h

/-! ## The rules -/

namespace Protocol

variable [DecidableEq ν] {p : Protocol ν γ ℓ ε α} {w w' : World ν γ ℓ}

section Stepped

variable {i : ℕ} {a : α} {e : Effect ν γ} {writer writer' : Writer ℓ}

section

variable (h : p.Stepped w i a e w' writer writer')
include h

theorem Stepped.performed : Performed w.store writer.staged e w'.store writer'.staged :=
  Store.performed_of_perform h.perform

/-- The writers after a step: the one that moved and the others. -/
theorem Stepped.writer_cases {j : ℕ} {other : Writer ℓ} (hj : w'.writers[j]? = some other) :
    j = i ∧ other = writer' ∨ j ≠ i ∧ w.writers[j]? = some other := by
  rw [h.writers, List.getElem?_set] at hj
  by_cases hij : i = j
  · subst hij
    have hlt := (List.getElem?_eq_some_iff.1 h.at_).1
    rw [if_pos rfl, if_pos hlt] at hj
    exact .inl ⟨rfl, (Option.some.inj hj).symm⟩
  · rw [if_neg hij] at hj
    exact .inr ⟨Ne.symm hij, hj⟩

theorem Stepped.extends [p.Discreet] (hsound : p.Sound w) : Extends w.store w'.store := by
  intro n k hn
  constructor
  · rcases h.performed.names n with hsame | ⟨hfree, -⟩
    · exact hsame.trans hn
    · rw [hn] at hfree
      cases hfree
  · -- a writer of a published object would have shared it, and would not write
    refine h.performed.frame k (w.store.named n k hn) ?_
    rintro hown c rfl
    have hshared : writer.staged.shared = true := by
      by_contra hshared
      exact hsound.unnamed i writer k h.at_ hown (Bool.eq_false_of_not_eq_true hshared) n hn
    exact Discreet.writes h.next (hsound.aware i writer h.at_ hshared)

/-- A step that publishes nothing changes nothing that is published. -/
theorem Stepped.content_of_private [p.Discreet] (hsound : p.Sound w)
    (he : ∀ n keep, e ≠ .publish n keep) (n : ν) :
    w'.store.content n = w.store.content n := by
  have hsame := h.performed.published_of_private he n
  cases hn : w.store.published n with
  | none =>
    rw [Store.content, Store.content, hsame, hn]
    rfl
  | some k =>
    rw [Store.content, Store.content, hsame, hn]
    exact ((h.extends hsound) n k hn).2

/-- A step leaves the objects of the other writers alone. -/
theorem Stepped.content_other [p.Discreet] (hsound : p.Sound w) {j : ℕ} {other : Writer ℓ}
    (hj : w.writers[j]? = some other) (hij : j ≠ i) :
    other.staged.content w'.store = other.staged.content w.store := by
  unfold Staged.content
  cases hobject : other.staged.object with
  | none => rfl
  | some k =>
    refine h.performed.frame k (hsound.held j other k hj hobject) fun hown => ?_
    exact absurd (hsound.exclusive j i other writer k hj h.at_ hobject hown) hij

theorem Stepped.sound [p.Discreet] (hsound : p.Sound w) : p.Sound w' := by
  have hper := h.performed
  -- a new object has a number that no object and no name had
  have hnew : ∀ (j : ℕ) (other : Writer ℓ) (k : ℕ), w.writers[j]? = some other →
      other.staged.object = some k → k ≠ w.store.objects.length := fun j other k hj hk =>
    (hsound.held j other k hj hk).ne
  refine ⟨fun j other k hj hk => ?_, fun j other k hj hk hshared n hn => ?_,
    fun j j' other other' k hj hj' hk hk' => ?_, fun j other hj hshared => ?_⟩
  · rcases h.writer_cases hj with ⟨-, rfl⟩ | ⟨-, hj⟩
    · rcases hper.held k hk with ⟨hold, -⟩ | ⟨-, hlt⟩
      · exact (hsound.held i writer k h.at_ hold).trans_le hper.grows
      · exact hlt
    · exact (hsound.held j other k hj hk).trans_le hper.grows
  · rcases h.writer_cases hj with ⟨-, rfl⟩ | ⟨hne, hj⟩
    · rw [hper.quiet hshared] at hn
      rcases hper.held k hk with ⟨hold, hkeep⟩ | ⟨hlen, -⟩
      · have : writer.staged.shared = false := by
          by_contra hcon
          rw [hkeep (Bool.eq_true_of_not_eq_false hcon)] at hshared
          cases hshared
        exact hsound.unnamed i writer k h.at_ hold this n hn
      · exact absurd hlen (w.store.named n k hn).ne
    · rcases hper.names n with hsame | ⟨-, hown, -⟩
      · exact hsound.unnamed j other k hj hk hshared n (hsame.symm.trans hn)
      · exact hne (hsound.exclusive j i other writer k hj h.at_ hk (hown.symm.trans hn))
  · rcases h.writer_cases hj with ⟨rfl, rfl⟩ | ⟨hne, hj⟩ <;>
      rcases h.writer_cases hj' with ⟨rfl, rfl⟩ | ⟨hne', hj'⟩
    · rfl
    · rcases hper.held k hk with ⟨hold, -⟩ | ⟨hlen, -⟩
      · exact hsound.exclusive j j' writer other' k h.at_ hj' hold hk'
      · exact absurd hlen (hnew j' other' k hj' hk')
    · rcases hper.held k hk' with ⟨hold, -⟩ | ⟨hlen, -⟩
      · exact hsound.exclusive j j' other writer k hj h.at_ hk hold
      · exact absurd hlen (hnew j other k hj hk)
    · exact hsound.exclusive j j' other other' k hj hj' hk hk'
  · rcases h.writer_cases hj with ⟨-, rfl⟩ | ⟨-, hj⟩
    · rcases hper.shares hshared with ⟨n, keep, rfl⟩ | ⟨hbefore, hdiscard, habandon⟩
      · exact Discreet.publishes h.next
      · rcases Discreet.stays h.next (hsound.aware i writer h.at_ hbefore) with hstays | he | he
        · exact hstays
        · exact absurd he hdiscard
        · exact absurd he habandon
    · exact hsound.aware j other hj hshared

/-- Where the writers are after a step. -/
theorem Stepped.at_self : w'.writers[i]? = some writer' := by
  have hlt := (List.getElem?_eq_some_iff.1 h.at_).1
  rw [h.writers, List.getElem?_set_self hlt]

theorem Stepped.at_other {j : ℕ} (hij : j ≠ i) : w'.writers[j]? = w.writers[j]? := by
  rw [h.writers, List.getElem?_set_ne (Ne.symm hij)]

end

end Stepped

section Exec

variable {e : Effect ν γ} {m : Move ε α}

/-- Every move keeps the world sound and extends the store. -/
theorem exec_sound [p.Discreet] (h : p.exec w m = some (w', e)) (hsound : p.Sound w) :
    p.Sound w' ∧ Extends w.store w'.store := by
  cases m with
  | step i a =>
    obtain ⟨writer, writer', hstep⟩ := p.exec_step h
    exact ⟨hstep.sound hsound, hstep.extends hsound⟩
  | enter x =>
    obtain ⟨hstore, hwriters, -⟩ := p.exec_enter h
    -- the new writer has staged nothing
    have hold : ∀ (j : ℕ) (writer : Writer ℓ), w'.writers[j]? = some writer →
        writer.staged ≠ {} → w.writers[j]? = some writer := by
      intro j writer hj hstaged
      rw [hwriters, List.getElem?_append] at hj
      split at hj
      · exact hj
      · rw [List.getElem?_singleton] at hj
        split at hj <;> cases hj
        exact absurd rfl hstaged
    have hold' : ∀ (j : ℕ) (writer : Writer ℓ) (k : ℕ), w'.writers[j]? = some writer →
        writer.staged.object = some k → w.writers[j]? = some writer := fun j writer k hj hk =>
      hold j writer hj fun hstaged => by rw [hstaged] at hk; cases hk
    refine ⟨⟨fun j writer k hj hk => ?_, fun j writer k hj hk => ?_,
      fun j j' writer writer' k hj hj' hk hk' => ?_, fun j writer hj hshared => ?_⟩,
      hstore ▸ Extends.refl _⟩
    · exact hstore ▸ hsound.held j writer k (hold' j writer k hj hk) hk
    · exact hstore ▸ hsound.unnamed j writer k (hold' j writer k hj hk) hk
    · exact hsound.exclusive j j' writer writer' k (hold' j writer k hj hk)
        (hold' j' writer' k hj' hk') hk hk'
    · refine hsound.aware j writer (hold j writer hj fun hstaged => ?_) hshared
      rw [hstaged] at hshared
      cases hshared

variable {i : ℕ}

/-- A writer that is there stays: it is the one that moves, or is as before. -/
theorem exec_writer (h : p.exec w m = some (w', e)) {writer : Writer ℓ}
    (hat : w.writers[i]? = some writer) : ∃ writer', w'.writers[i]? = some writer' ∧
      (writer' = writer ∨ ∃ a, m = .step i a ∧ p.Stepped w i a e w' writer writer') := by
  cases m with
  | enter x =>
    refine ⟨writer, ?_, .inl rfl⟩
    rw [(p.exec_enter h).2.1]
    exact List.getElem?_append_left (List.getElem?_eq_some_iff.1 hat).1 ▸ hat
  | step j b =>
    obtain ⟨mover, mover', hstep⟩ := p.exec_step h
    by_cases hij : i = j
    · subst hij
      obtain rfl : writer = mover := Option.some.inj (hat.symm.trans hstep.at_)
      exact ⟨mover', hstep.at_self, .inr ⟨b, rfl, hstep⟩⟩
    · exact ⟨writer, (hstep.at_other hij).trans hat, .inl rfl⟩

/-- Where a writer comes from: it is new, or is as before, or is the one that moved. -/
theorem exec_writer_origin (h : p.exec w m = some (w', e)) {writer' : Writer ℓ}
    (hat : w'.writers[i]? = some writer') :
    (∃ x, writer' = { state := p.start x }) ∨ w.writers[i]? = some writer' ∨
      ∃ a writer, m = .step i a ∧ p.Stepped w i a e w' writer writer' := by
  cases m with
  | enter x =>
    rw [(p.exec_enter h).2.1, List.getElem?_append] at hat
    split at hat
    · exact .inr (.inl hat)
    · rw [List.getElem?_singleton] at hat
      split at hat <;> cases hat
      exact .inl ⟨x, rfl⟩
  | step j b =>
    obtain ⟨mover, mover', hstep⟩ := p.exec_step h
    rcases hstep.writer_cases hat with ⟨rfl, rfl⟩ | ⟨-, hat⟩
    · exact .inr (.inr ⟨b, mover, rfl, hstep⟩)
    · exact .inr (.inl hat)

variable {trace : List (Move ε α × Effect ν γ)}

/-- What a step of a writer brings about and its later steps keep holds at the end. -/
theorem lasts_after {C : ℓ → Prop} (run : Run p.exec w trace w') {a : α}
    (hmem : (Move.step i a, e) ∈ trace)
    (brings : ∀ w w' writer writer', p.Stepped w i a e w' writer writer' → C writer'.state)
    (keeps : ∀ w b e w' writer writer', p.Stepped w i b e w' writer writer' →
      C writer.state → C writer'.state) :
    ∃ writer, w'.writers[i]? = some writer ∧ C writer.state := by
  induction run with
  | nil => cases hmem
  | @snoc trace t t' m e' run step ih =>
    rw [List.mem_append, List.mem_singleton] at hmem
    rcases hmem with hmem | hlast
    · obtain ⟨writer, hat, hstate⟩ := ih hmem
      obtain ⟨writer', hat', rfl | ⟨b, -, hstep⟩⟩ := exec_writer step hat
      · exact ⟨writer', hat', hstate⟩
      · exact ⟨writer', hat', keeps t b e' t' writer writer' hstep hstate⟩
    · cases hlast
      obtain ⟨mover, mover', hstep⟩ := p.exec_step step
      exact ⟨mover', hstep.at_self, brings t t' mover mover' hstep⟩

/-- A writer is where no writer starts only by a step of its own. -/
theorem step_of_reached {C : ℓ → Prop} {s : Store ν γ} (run : Run p.exec ⟨s, []⟩ trace w')
    (start : ∀ x, ¬ C (p.start x)) {writer : Writer ℓ} (hat : w'.writers[i]? = some writer)
    (hstate : C writer.state) :
    ∃ t a e t' mover mover', (Move.step i a, e) ∈ trace ∧ p.Stepped t i a e t' mover mover' ∧
      ¬ C mover.state ∧ C mover'.state := by
  induction run generalizing writer with
  | nil => simp at hat
  | @snoc trace t t' m e run step ih =>
    rcases exec_writer_origin step hat with ⟨x, rfl⟩ | hat | ⟨a, mover, rfl, hstep⟩
    · exact absurd hstate (start x)
    · obtain ⟨u, b, e', u', mover, mover', hmem, hrest⟩ := ih hat hstate
      exact ⟨u, b, e', u', mover, mover', List.mem_append_left _ hmem, hrest⟩
    · by_cases hC : C mover.state
      · obtain ⟨u, b, e', u', mover, mover', hmem, hrest⟩ := ih hstep.at_ hC
        exact ⟨u, b, e', u', mover, mover', List.mem_append_left _ hmem, hrest⟩
      · exact ⟨t, a, e, t', mover, writer, by simp, hstep, hC, hstate⟩

/-- A run keeps the world sound and only extends the store. -/
theorem extends_run [p.Discreet] (run : Run p.exec w trace w') (hsound : p.Sound w) :
    p.Sound w' ∧ Extends w.store w'.store := by
  refine run.invariant (P := fun t => p.Sound t ∧ Extends w.store t.store)
    ⟨hsound, Extends.refl _⟩ ?_
  rintro t m t' e ⟨hsound, hext⟩ hexec
  obtain ⟨hsound', hext'⟩ := exec_sound hexec hsound
  exact ⟨hsound', hext.trans hext'⟩

/-- A name is given only while it is free. -/
theorem published_of_publish {a : α} {keep : Bool}
    (h : p.exec w (.step i a) = some (w', .publish n keep)) :
    w.store.published n = none ∧ (w'.store.published n).isSome := by
  obtain ⟨writer, writer', hstep⟩ := p.exec_step h
  have hperform := hstep.perform
  rw [Store.perform] at hperform
  split at hperform
  · cases hperform
  · rename_i k hobject
    split at hperform
    case isFalse => cases hperform
    case isTrue hfree =>
      obtain ⟨hstore, -⟩ := Prod.mk.inj (Option.some.inj hperform)
      refine ⟨hfree.2, ?_⟩
      rw [← hstore]
      simp [Store.publish]

/-- A name is given once in a run: of two steps that give it, neither comes later. -/
theorem publish_once [p.Discreet] {first rest : List (Move ε α × Effect ν γ)}
    {keep keep' : Bool} {i j : ℕ} {a b : α}
    (run : Run p.exec w (first ++ (.step i a, .publish n keep) :: rest) w')
    (hsound : p.Sound w) : (Move.step j b, Effect.publish n keep') ∉ rest := by
  intro hmem
  obtain ⟨u, u', hfirst, hstep, hrest⟩ := run.split_at
  obtain ⟨middle, last, rfl⟩ := List.append_of_mem hmem
  obtain ⟨v, v', hmiddle, hagain, -⟩ := hrest.split_at
  have hsoundU := (extends_run hfirst hsound).1
  have hsoundU' := (exec_sound hstep hsoundU).1
  obtain ⟨k, hk⟩ := Option.isSome_iff_exists.1 (published_of_publish hstep).2
  -- the name is taken when the second step wants it
  have hkept := ((extends_run hmiddle hsoundU').2 n k hk).1
  rw [(published_of_publish hagain).1] at hkept
  cases hkept

/-- A name has one giver. -/
theorem publisher_unique [p.Discreet] {keep keep' : Bool} {i j : ℕ} {a b : α}
    (run : Run p.exec w trace w') (hsound : p.Sound w)
    (hi : (Move.step i a, Effect.publish n keep) ∈ trace)
    (hj : (Move.step j b, Effect.publish n keep') ∈ trace) : i = j := by
  obtain ⟨first, rest, rfl⟩ := List.append_of_mem hi
  rw [List.mem_append, List.mem_cons] at hj
  rcases hj with hbefore | hsame | hafter
  · obtain ⟨start, middle, rfl⟩ := List.append_of_mem hbefore
    rw [List.append_assoc, List.cons_append] at run
    exact absurd (List.mem_append_right _ List.mem_cons_self) (publish_once run hsound)
  · cases hsame
    rfl
  · exact absurd hafter (publish_once run hsound)

end Exec

variable (p) in
/-- `I` is an invariant of every single writer: a new writer has it, a step of the writer
keeps it, and it does not depend on more than what is published and the writer's own object. -/
structure Keeps [p.Discreet] (I : Store ν γ → Writer ℓ → Prop) : Prop where
  stable : ∀ s t writer, Extends s t → writer.staged.content t = writer.staged.content s →
    I s writer → I t writer
  start : ∀ s x, I s { state := p.start x }
  step : ∀ w i a e w' writer writer', p.Stepped w i a e w' writer writer' → p.Sound w →
    Extends w.store w'.store → I w.store writer → I w'.store writer'

section Keeps

variable [p.Discreet] {I : Store ν γ → Writer ℓ → Prop} {trace : List (Move ε α × Effect ν γ)}

theorem Keeps.exec (keeps : p.Keeps I) {m : Move ε α} (h : p.exec w m = some (w', e))
    (hsound : p.Sound w) (hall : World.All I w) : World.All I w' := by
  intro j other hj
  cases m with
  | enter x =>
    obtain ⟨hstore, hwriters, -⟩ := p.exec_enter h
    rw [hwriters, List.getElem?_append] at hj
    rw [hstore]
    split at hj
    · exact hall j other hj
    · rw [List.getElem?_singleton] at hj
      split at hj <;> cases hj
      exact keeps.start _ x
  | step i a =>
    obtain ⟨writer, writer', hstep⟩ := p.exec_step h
    have hext := hstep.extends hsound
    rcases hstep.writer_cases hj with ⟨-, rfl⟩ | ⟨hne, hj⟩
    · exact keeps.step w i a e w' writer other hstep hsound hext (hall i writer hstep.at_)
    · exact keeps.stable _ _ other hext (hstep.content_other hsound hj hne) (hall j other hj)

/-- What each writer keeps on its own holds of every writer in every interleaving. -/
theorem Keeps.run (keeps : p.Keeps I) (run : Run p.exec w trace w') (hsound : p.Sound w)
    (hall : World.All I w) : World.All I w' := by
  have : p.Sound w' ∧ World.All I w' := by
    refine run.invariant (P := fun t => p.Sound t ∧ World.All I t) ⟨hsound, hall⟩ ?_
    rintro t m t' e ⟨hsound, hall⟩ hexec
    exact ⟨(exec_sound hexec hsound).1, keeps.exec hexec hsound hall⟩
  exact this.2

/-- What holds of a name at the step that publishes it, and is kept by every move, holds of
every name that was published in the run. -/
theorem Keeps.published (keeps : p.Keeps I) {P : World ν γ ℓ → ν → γ → Prop}
    (stable : ∀ w m w' e n c, p.exec w m = some (w', e) → Extends w.store w'.store →
      P w n c → P w' n c)
    (publish : ∀ w i a n keep w' writer writer' c,
      p.Stepped w i a (.publish n keep) w' writer writer' → Extends w.store w'.store →
      I w.store writer → writer.staged.content w.store = some c → P w' n c)
    (run : Run p.exec w trace w') (hsound : p.Sound w) (hall : World.All I w) {c : γ}
    (hc : w'.store.content n = some c) : w.store.content n = some c ∨ P w' n c := by
  let Q (t : World ν γ ℓ) : Prop := p.Sound t ∧ World.All I t ∧
    ∀ n c, t.store.content n = some c → w.store.content n = some c ∨ P t n c
  have hinv : Q w' := by
    refine run.invariant (P := Q) ⟨hsound, hall, fun _ _ h => .inl h⟩ ?_
    rintro t m t' e ⟨hsound, hall, hnames⟩ hexec
    obtain ⟨hsound', hext⟩ := exec_sound hexec hsound
    refine ⟨hsound', keeps.exec hexec hsound hall, fun n c hc => ?_⟩
    -- a name that was there keeps its content; the other case is the step that gives it
    by_cases hthere : t.store.content n = some c
    · exact (hnames n c hthere).imp_right (stable t m t' e n c hexec hext)
    · right
      cases m with
      | enter x => exact absurd ((p.exec_enter hexec).1 ▸ hc) hthere
      | step i a =>
        obtain ⟨writer, writer', hstep⟩ := p.exec_step hexec
        obtain ⟨k, hk, hobject⟩ := Option.bind_eq_some_iff.1 hc
        rcases hstep.performed.names n with hsame | ⟨-, hown, hobjects, keep, rfl⟩
        · obtain ⟨c', hc', -⟩ := t.store.exists_content (hsame.symm.trans hk)
          rw [hext.content hc'] at hc
          cases hc
          exact absurd hc' hthere
        · refine publish t i a n keep t' writer writer' c hstep hext (hall i writer hstep.at_) ?_
          rw [Staged.content, ← hown, hk, ← hobjects]
          exact hobject
  exact hinv.2.2 n c hc

end Keeps

end Protocol

end PrismInfer.Lib
