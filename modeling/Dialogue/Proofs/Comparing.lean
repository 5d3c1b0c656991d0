import Dialogue.Proofs.Composable
import Dialogue.Proofs.Lookup

/-!
# Comparing two runs

Two computations are compared from two states: they *agree* when both give the same value or the
same fault, and the states that they leave are related again. A computation that agrees with itself
from all related states is *blind* to what the relation leaves open. Sequences of blind computations
are blind.

Two backends are *alike* when they hold the same and are out of order at the same uses from now on.
What was counted so far is left open, and lookups are blind to it.

Main statements: `agree_bind`, the rule for sequences, and `composable_blind`, blindness to what was
counted carries over to whatever is looked up.
-/

namespace Dialogue

open Effect

/-! ## Agreement -/

namespace Effect

variable {σ α β γ : Type} {R : σ → σ → Prop} {s t : σ}

/-- From two states, one computation each gives the same and leaves related states. -/
structure Agree (R : σ → σ → Prop) (x y : Effect σ α) (s t : σ) : Prop where
  given : (runFrom s x).1 = (runFrom t y).1
  left : R (runFrom s x).2 (runFrom t y).2

/-- A computation does the same from related states. -/
def Blind (R : σ → σ → Prop) (x : Effect σ α) : Prop := ∀ ⦃s t : σ⦄, R s t → Agree R x x s t

theorem agree_pure (a : α) (related : R s t) : Agree R (pure a) (pure a) s t := ⟨rfl, related⟩

theorem agree_throw (fault : Fault) (related : R s t) :
    Agree R (throw fault : Effect σ α) (throw fault) s t := ⟨rfl, related⟩

/-- Only what the runs do matters. -/
theorem agree_of_runs {x x' y y' : Effect σ α} {s' t' : σ} (same : runFrom s x = runFrom s' x')
    (same' : runFrom t y = runFrom t' y') (agree : Agree R x' y' s' t') : Agree R x y s t := by
  obtain ⟨given, left⟩ := agree
  constructor
  · rw [same, same']
    exact given
  · rw [same, same']
    exact left

/-- First parts that are known to give something may differ, as long as what follows agrees. -/
theorem agree_bind_of_ok {x : Effect σ α} {y : Effect σ β} {f : α → Effect σ γ}
    {g : β → Effect σ γ} {s' t' : σ} {a : α} {b : β} (half : runFrom s x = (.ok a, s'))
    (half' : runFrom t y = (.ok b, t')) (rest : Agree R (f a) (g b) s' t') :
    Agree R (x >>= f) (y >>= g) s t :=
  agree_of_runs (runFrom_bind_of_ok half) (runFrom_bind_of_ok half') rest

/-- First parts that are known to fail alike end both sequences. -/
theorem agree_bind_of_error {x : Effect σ α} {y : Effect σ β} {f : α → Effect σ γ}
    {g : β → Effect σ γ} {s' t' : σ} {fault : Fault} (stops : runFrom s x = (.error fault, s'))
    (stops' : runFrom t y = (.error fault, t')) (related : R s' t') :
    Agree R (x >>= f) (y >>= g) s t := by
  constructor
  · rw [runFrom_bind_of_error stops, runFrom_bind_of_error stops']
  · rw [runFrom_bind_of_error stops, runFrom_bind_of_error stops']
    exact related

/-- **Sequences agree** when their first parts agree, and what follows agrees wherever the first
parts lead. -/
theorem agree_bind {x y : Effect σ α} {f g : α → Effect σ β} (first : Agree R x y s t)
    (rest : ∀ a s' t', runFrom s x = (.ok a, s') → runFrom t y = (.ok a, t') → R s' t' →
      Agree R (f a) (g a) s' t') :
    Agree R (x >>= f) (y >>= g) s t := by
  obtain ⟨given, left⟩ := first
  rcases half : runFrom s x with ⟨fault | a, s'⟩
  · rcases half' : runFrom t y with ⟨fault' | b, t'⟩
    · rw [half, half'] at given left
      cases given
      exact agree_bind_of_error half half' left
    · rw [half, half'] at given
      cases given
  · rcases half' : runFrom t y with ⟨fault' | b, t'⟩
    · rw [half, half'] at given
      cases given
    · rw [half, half'] at given left
      cases given
      exact agree_bind_of_ok half half' (rest a s' t' half half' left)

theorem agree_get_bind {f g : σ → Effect σ α} (rest : Agree R (f s) (g t) s t) :
    Agree R (get >>= f) (get >>= g) s t :=
  agree_bind_of_ok (runFrom_get s) (runFrom_get t) rest

/-- **A sequence of blind computations is blind.** -/
theorem blind_bind {x : Effect σ α} {f : α → Effect σ β} (first : Blind R x)
    (rest : ∀ a, Blind R (f a)) : Blind R (x >>= f) :=
  fun _ _ related => agree_bind (first related) fun a _ _ _ _ left => rest a left

end Effect

/-! ## Backends that are alike -/

/-- Two backends that hold the same and are out of order at the same uses from now on. -/
structure Backend.Alike (b c : Backend) : Prop where
  documents : ∀ collection, c.database.documents collection = b.database.documents collection
  indexes : c.database.indexes = b.database.indexes
  isClosed : c.database.isClosed = b.database.isClosed
  outage : ∀ n, c.database.outage (c.database.uses + n) = b.database.outage (b.database.uses + n)

theorem Backend.alike_refl (b : Backend) : b.Alike b := ⟨fun _ => rfl, rfl, rfl, fun _ => rfl⟩

/-- What is noted does not tell backends apart. -/
theorem Backend.Alike.of_database {b b' c c' : Backend} (alike : b.Alike c)
    (same : b'.database = b.database) (same' : c'.database = c.database) : b'.Alike c' := by
  constructor
  · rw [same, same']
    exact alike.documents
  · rw [same, same']
    exact alike.indexes
  · rw [same, same']
    exact alike.isClosed
  · rw [same, same']
    exact alike.outage

namespace Lookup

variable {α : Type}

theorem blind_ofExcept (x : Except Fault α) : Blind Backend.Alike (ofExcept x) :=
  fun _ _ alike => ⟨rfl, alike⟩

theorem blind_note (e : Event) : Blind Backend.Alike (note e) :=
  fun _ _ alike => ⟨rfl, alike.of_database rfl rfl⟩

theorem blind_use : Blind Backend.Alike use := by
  intro b c alike
  have now : c.database.outage c.database.uses = b.database.outage b.database.uses :=
    alike.outage 0
  constructor
  · rw [runFrom_use, runFrom_use, now]
  · rw [runFrom_use, runFrom_use]
    refine ⟨alike.documents, alike.indexes, alike.isClosed, fun n => ?_⟩
    have later := alike.outage (1 + n)
    rwa [← Nat.add_assoc, ← Nat.add_assoc] at later

/-- What is made of the documents of a collection is the same. -/
theorem blind_documents (collection : Collection) (f : List Fields → α) :
    Blind Backend.Alike (do return f ((← get).database.documents collection)) := by
  intro b c alike
  refine agree_get_bind ?_
  rw [alike.documents]
  exact agree_pure _ alike

theorem blind_select (collection : Collection) (query : Query) (order : Option Order) :
    Blind Backend.Alike (select collection query order) :=
  blind_bind blind_use fun _ => blind_documents collection fun docs =>
    (sortBy order (docs.filter query.holds)).take Database.readLimit

theorem blind_first? (collection : Collection) (query : Query) :
    Blind Backend.Alike (first? collection query) :=
  blind_bind blind_use fun _ => blind_documents collection fun docs => docs.find? query.holds

/-- **Lookups are blind** to what was counted: whatever is put together from queries, notes and
computations without effects does the same with backends that are alike. -/
theorem composable_blind : Composable fun _ l => Blind Backend.Alike l where
  ofExcept := blind_ofExcept
  note := blind_note
  select := blind_select
  first? := blind_first?
  bind := blind_bind

end Lookup

/-- Resolving a prompt does the same with backends that are alike. -/
abbrev Prompt.Blind : Prompt → Prop := Prompt.Satisfies fun _ l => Effect.Blind Backend.Alike l

end Dialogue
