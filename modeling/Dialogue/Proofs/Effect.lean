import Dialogue.World

/-!
# Running acts and lookups

Acts and lookups are computations over a state that may fail. A run gives a value or a fault, and
the state that is left. A sequence is taken apart at its joints: it gives a value when each of its
parts does. What a computation may change is said by a relation between the states before and after
that holds across sequences.

Main statements: `runFrom_bind_eq_ok_iff`, when a sequence gives a value; `within_bind`, a sequence
changes no more than its parts may.
-/

namespace Dialogue

/-- A computation over a state that may fail. -/
abbrev Effect (σ α : Type) := ExceptT Fault (StateM σ) α

namespace Effect

variable {σ α β : Type}

/-- What a computation gives when it is run from a state, and the state that it leaves. -/
def runFrom (s : σ) (x : Effect σ α) : Except Fault α × σ := x.run.run s

/-! ## Sequences -/

theorem runFrom_bind (x : Effect σ α) (f : α → Effect σ β) (s : σ) :
    runFrom s (x >>= f) =
      match runFrom s x with
      | (.ok a, t) => runFrom t (f a)
      | (.error fault, t) => (.error fault, t) := by
  unfold runFrom
  rw [ExceptT.run_bind, StateT.run_bind]
  show (match x.run.run s with | (a, t) => _) = _
  rcases x.run.run s with ⟨_ | _, _⟩ <;> rfl

/-- **A sequence gives a value** when its first part gives one and the rest, from there, another. -/
theorem runFrom_bind_eq_ok_iff {x : Effect σ α} {f : α → Effect σ β} {s u : σ} {b : β} :
    runFrom s (x >>= f) = (.ok b, u) ↔
      ∃ a t, runFrom s x = (.ok a, t) ∧ runFrom t (f a) = (.ok b, u) := by
  rw [runFrom_bind]
  rcases runFrom s x with ⟨fault | a, t⟩
  · simp
  · simp only [Prod.mk.injEq, Except.ok.injEq]
    constructor
    · exact fun h => ⟨a, t, ⟨rfl, rfl⟩, h⟩
    · rintro ⟨_, _, ⟨rfl, rfl⟩, h⟩
      exact h

theorem runFrom_bind_of_ok {x : Effect σ α} {f : α → Effect σ β} {s t : σ} {a : α}
    (h : runFrom s x = (.ok a, t)) : runFrom s (x >>= f) = runFrom t (f a) := by
  rw [runFrom_bind, h]

theorem runFrom_bind_of_error {x : Effect σ α} {f : α → Effect σ β} {s t : σ} {fault : Fault}
    (h : runFrom s x = (.error fault, t)) : runFrom s (x >>= f) = (.error fault, t) := by
  rw [runFrom_bind, h]

/-- The same for computations without a state. -/
theorem bind_eq_ok_iff {ε : Type} {x : Except ε α} {f : α → Except ε β} {b : β} :
    x >>= f = .ok b ↔ ∃ a, x = .ok a ∧ f a = .ok b := by
  cases x with
  | error e => simp [bind, Except.bind]
  | ok a => simp [bind, Except.bind]

theorem runFrom_tryCatch (x : Effect σ α) (handler : Fault → Effect σ α) (s : σ) :
    runFrom s (tryCatch x handler) =
      match runFrom s x with
      | (.ok a, t) => (.ok a, t)
      | (.error fault, t) => runFrom t (handler fault) := by
  unfold runFrom
  rw [ExceptT.run_tryCatch, StateT.run_bind]
  show (match x.run.run s with | (a, t) => _) = _
  rcases x.run.run s with ⟨_ | _, _⟩ <;> rfl

/-! ## Single steps -/

theorem runFrom_get (s : σ) : runFrom s (get : Effect σ σ) = (.ok s, s) := rfl

/-- A lookup changes the backend of the running bot and nothing else. -/
theorem runFrom_lookup (l : Lookup α) (w : World) :
    runFrom w (Act.lookup l) =
      ((runFrom w.backend l).1, { w with backend := (runFrom w.backend l).2 }) := rfl

/-- A lookup that gives a value as an act gives it on the backend. -/
theorem runFrom_of_lookup {l : Lookup α} {w w' : World} {a : α}
    (ran : runFrom w (Act.lookup l) = (.ok a, w')) :
    runFrom w.backend l = (.ok a, w'.backend) := by
  rw [runFrom_lookup] at ran
  obtain ⟨given, rfl⟩ := Prod.mk.inj ran
  exact Prod.ext given rfl

/-! ## Staying within a relation -/

/-- A relation between states that lasts: it holds of what changes nothing, and from step to
step. -/
class Lasting (R : σ → σ → Prop) : Prop where
  refl : ∀ s, R s s
  trans : ∀ {s t u}, R s t → R t u → R s u

/-- A computation changes the state within a relation only, also when it fails. -/
def Within (R : σ → σ → Prop) (x : Effect σ α) : Prop :=
  ∀ ⦃s t : σ⦄ ⦃result : Except Fault α⦄, runFrom s x = (result, t) → R s t

section Within

variable {R : σ → σ → Prop} [Lasting R]

theorem within_pure (a : α) : Within R (pure a) := by
  intro s t result ran
  cases ran
  exact Lasting.refl s

theorem within_throw (fault : Fault) : Within R (throw fault : Effect σ α) := by
  intro s t result ran
  cases ran
  exact Lasting.refl s

theorem within_get : Within R (get : Effect σ σ) := by
  intro s t result ran
  cases ran
  exact Lasting.refl s

/-- **A sequence stays within a relation** when its parts do. -/
theorem within_bind {x : Effect σ α} {f : α → Effect σ β} (first : Within R x)
    (rest : ∀ a, Within R (f a)) : Within R (x >>= f) := by
  intro s u result ran
  rw [runFrom_bind] at ran
  split at ran
  · next a t half => exact Lasting.trans (first half) (rest a ran)
  · next fault t half =>
    cases ran
    exact first half

theorem within_tryCatch {x : Effect σ α} {handler : Fault → Effect σ α} (first : Within R x)
    (rest : ∀ fault, Within R (handler fault)) : Within R (tryCatch x handler) := by
  intro s u result ran
  rw [runFrom_tryCatch] at ran
  split at ran
  · next a t half =>
    cases ran
    exact first half
  · next fault t half => exact Lasting.trans (first half) (rest fault ran)

end Within

end Effect

end Dialogue
