import Dialogue.Proofs.Composable
import Dialogue.Proofs.Effect

/-!
# Lookups that only read

A lookup *reads* when it leaves the stored definitions as they are; using the database is counted,
and events are noted. It *rests* when it leaves all that is stored. Whatever is looked up in a
conversation rests: stores, canned replies, and definitions. When the database never fails, what a
query gives can be said exactly.

Main statements: `composable_within`, lookups do no more than notes and uses of the database may do;
`runFrom_select`, `runFrom_first?` and `runFrom_upsert`, the uses of a database that answers;
`gives_bind` and `Yields.bind`, what a sequence may give and that it gives something.
-/

namespace Dialogue

open Effect

variable {α : Type}

/-- Two backends with the same stored definitions, which fail at the same uses. -/
structure Backend.Agrees (b c : Backend) : Prop where
  flows : c.database.flows = b.database.flows
  outage : c.database.outage = b.database.outage

instance : Lasting Backend.Agrees where
  refl _ := ⟨rfl, rfl⟩
  trans h g := ⟨g.flows.trans h.flows, g.outage.trans h.outage⟩

/-- Two backends that differ only in what was counted. -/
def Backend.Rests (b c : Backend) : Prop := ∃ n, c.database = { b.database with uses := n }

instance : Lasting Backend.Rests where
  refl b := ⟨b.database.uses, rfl⟩
  trans := by
    rintro b c d ⟨n, first⟩ ⟨k, second⟩
    exact ⟨k, by rw [second, first]⟩

theorem Backend.Rests.agrees {b c : Backend} (rests : b.Rests c) : b.Agrees c := by
  obtain ⟨n, same⟩ := rests
  exact ⟨by rw [same], by rw [same]⟩

/-- The database never fails. -/
def Backend.Up (b : Backend) : Prop := ∀ n, b.database.outage n = false

/-- The database never fails, or always. -/
def Backend.Steady (b : Backend) : Prop := ∀ n k, b.database.outage n = b.database.outage k

theorem Backend.Up.steady {b : Backend} (up : b.Up) : b.Steady := fun _ _ =>
  (up _).trans (up _).symm

/-- The database answers when it is used next. -/
def Backend.Answers (b : Backend) : Prop := b.database.outage b.database.uses = false

theorem Backend.Up.answers {b : Backend} (up : b.Up) : b.Answers := up _

/-- A backend whose database was used once more. -/
def Backend.used (b : Backend) : Backend :=
  { b with database := { b.database with uses := b.database.uses + 1 } }

/-- A backend that has noted one more event. -/
def Backend.noted (b : Backend) (e : Event) : Backend := { b with tally := e :: b.tally }

theorem Backend.Agrees.up {b c : Backend} (agrees : b.Agrees c) (up : b.Up) : c.Up := by
  intro n
  rw [agrees.outage]
  exact up n

theorem Backend.Agrees.steady {b c : Backend} (agrees : b.Agrees c) (steady : b.Steady) :
    c.Steady := by
  intro n k
  rw [agrees.outage]
  exact steady n k

namespace Lookup

/-- A lookup that leaves the stored definitions as they are. -/
abbrev Reads (l : Lookup α) : Prop := Within Backend.Agrees l

/-- A lookup that leaves all that is stored. -/
abbrev Rests (l : Lookup α) : Prop := Within Backend.Rests l

theorem runFrom_note (e : Event) (b : Backend) : runFrom b (note e) = (.ok (), b.noted e) := rfl

/-! ## Uses of the database -/

theorem runFrom_use (b : Backend) :
    runFrom b use =
      (if b.database.outage b.database.uses then .error .databaseDown else .ok (), b.used) := by
  unfold use
  rw [runFrom_bind_of_ok (runFrom_get b)]
  cases b.database.outage b.database.uses <;> rfl

theorem runFrom_use_of_answers {b : Backend} (answers : b.Answers) :
    runFrom b use = (.ok (), b.used) := by
  rw [runFrom_use, answers]
  rfl

theorem runFrom_use_of_not_answers {b : Backend} (down : ¬ b.Answers) :
    runFrom b use = (.error .databaseDown, b.used) := by
  unfold Backend.Answers at down
  rw [Bool.not_eq_false] at down
  rw [runFrom_use, down]
  rfl

/-- **Selecting** from a database that answers. -/
theorem runFrom_select {b : Backend} (answers : b.Answers) (collection : Collection)
    (query : Query) (order : Option Order) :
    runFrom b (select collection query order) =
      (.ok (b.database.select collection query order), b.used) := by
  unfold select
  rw [runFrom_bind_of_ok (runFrom_use_of_answers answers), runFrom_bind_of_ok (runFrom_get b.used)]
  cases collection <;> rfl

/-- **Finding the first document** in a database that answers. -/
theorem runFrom_first? {b : Backend} (answers : b.Answers) (collection : Collection)
    (query : Query) :
    runFrom b (first? collection query) =
      (.ok (b.database.first? collection query), b.used) := by
  unfold first?
  rw [runFrom_bind_of_ok (runFrom_use_of_answers answers), runFrom_bind_of_ok (runFrom_get b.used)]
  cases collection <;> rfl

/-- **Saving** in a database that answers. -/
theorem runFrom_upsert {b : Backend} (answers : b.Answers) (collection : Collection)
    (query : Query) (changes atFirst : Fields) :
    runFrom b (upsert collection query changes atFirst) =
      (.ok (), { b.used with
        database := b.used.database.upsert collection query changes atFirst }) := by
  unfold upsert
  rw [runFrom_bind_of_ok (runFrom_use_of_answers answers)]
  rfl

/-! ## What lookups leave alone -/

/-- **Lookups do no more** than noting events and using the database may do. -/
theorem composable_within {R : Backend → Backend → Prop} [Lasting R]
    (notes : ∀ e, Within R (note e)) (uses : Within R use) :
    Composable fun _ l => Within R l where
  ofExcept x := by
    intro b c result ran
    cases ran
    exact Lasting.refl b
  note := notes
  select _ _ _ := within_bind uses fun _ => within_bind within_get fun _ => within_pure _
  first? _ _ := within_bind uses fun _ => within_bind within_get fun _ => within_pure _
  bind := within_bind

theorem rests_use : Rests use := by
  intro b c result ran
  rw [runFrom_use] at ran
  cases ran
  exact ⟨_, rfl⟩

/-- Whatever is looked up rests. -/
theorem composable_rests : Composable fun _ l => Rests l := by
  refine composable_within (fun e => ?_) rests_use
  intro b c result ran
  cases ran
  exact ⟨_, rfl⟩

theorem reads_of_rests {l : Lookup α} (rests : Rests l) : Reads l :=
  fun _ _ _ ran => (rests ran).agrees

/-- Whatever is looked up reads. -/
theorem composable_reads : Composable fun _ l => Reads l :=
  composable_within (fun e => reads_of_rests (composable_rests.note e)) (reads_of_rests rests_use)

theorem reads_isAlive : Reads isAlive :=
  within_tryCatch (within_bind (reads_of_rests rests_use) fun _ => within_pure true)
    fun _ => within_pure false

/-! ## What lookups give -/

variable {β : Type} {P : β → Prop}

/-- Whatever a lookup gives has a property. -/
def Gives (P : α → Prop) (l : Lookup α) : Prop :=
  ∀ ⦃b c : Backend⦄ ⦃a : α⦄, runFrom b l = (.ok a, c) → P a

theorem gives_pure {b : β} (h : P b) : Gives P (pure b) := by
  intro c d a ran
  cases ran
  exact h

theorem gives_ofExcept {x : Except Fault β} (h : ∀ b, x = .ok b → P b) : Gives P (ofExcept x) := by
  intro c d b ran
  exact h b (Prod.mk.inj ran).1

/-- What a sequence gives is given by its last part, from what its first part gives. -/
theorem gives_bind {Q : α → Prop} {x : Lookup α} {f : α → Lookup β} (first : Gives Q x)
    (rest : ∀ a, Q a → Gives P (f a)) : Gives P (x >>= f) := by
  intro b c result ran
  obtain ⟨a, d, half, ran⟩ := runFrom_bind_eq_ok_iff.1 ran
  exact rest a (first half) ran

theorem gives_bind_of_last {x : Lookup α} {f : α → Lookup β} (rest : ∀ a, Gives P (f a)) :
    Gives P (x >>= f) :=
  gives_bind (Q := fun _ => True) (fun _ _ _ _ => trivial) fun a _ => rest a

/-! ## Lookups that succeed -/

section Yields

variable {sound : Database → Prop} {Q : α → Prop} {x : Lookup α} {f : α → Lookup β}

/-- Where the database is sound, the lookup gives a value with a property and leaves it sound. -/
def Yields (sound : Database → Prop) (P : α → Prop) (x : Lookup α) : Prop :=
  ∀ b : Backend, sound b.database →
    ∃ a c, runFrom b x = (.ok a, c) ∧ sound c.database ∧ P a

theorem yields_pure {a : α} (h : Q a) : Yields sound Q (pure a) :=
  fun b ok => ⟨a, b, rfl, ok, h⟩

theorem yields_note (e : Event) : Yields sound (fun _ => True) (note e) :=
  fun b ok => ⟨(), b.noted e, rfl, ok, trivial⟩

theorem yields_ofExcept {result : Except Fault α} {a : α} (given : result = .ok a) (h : Q a) :
    Yields sound Q (ofExcept result) := by
  rw [given]
  exact yields_pure h

/-- A sequence gives a value when its parts do. -/
theorem Yields.bind (first : Yields sound Q x) (rest : ∀ a, Q a → Yields sound P (f a)) :
    Yields sound P (x >>= f) := by
  intro b ok
  obtain ⟨a, c, ran, ok, h⟩ := first b ok
  rw [runFrom_bind_of_ok ran]
  exact rest a h c ok

theorem Yields.map {g : α → β} (first : Yields sound Q x) (h : ∀ a, Q a → P (g a)) :
    Yields sound P (g <$> x) := by
  rw [← bind_pure_comp]
  exact first.bind fun a ok => yields_pure (h a ok)

theorem Yields.mono {R : α → Prop} (first : Yields sound Q x) (weaker : ∀ a, Q a → R a) :
    Yields sound R x := by
  intro b ok
  obtain ⟨a, c, ran, ok, h⟩ := first b ok
  exact ⟨a, c, ran, ok, weaker a h⟩

end Yields

end Lookup

end Dialogue
