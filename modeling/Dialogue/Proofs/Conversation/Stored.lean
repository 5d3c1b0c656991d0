import Dialogue.Conversation.Stored
import Dialogue.Proofs.Flow.Built
import Dialogue.Proofs.Position
import Dialogue.Proofs.World

/-!
# What is stored for a customer

A position *stands* when it names no step to answer, or a registered flow and a step of it. What is
stored for a customer is looked at from now on: with time it may be forgotten, but nothing comes
back.

Main statements: `ready_of_unset`, where no position is set now, none is set later;
`ready_of_clear` and `read_of_save`, what is read after removing and after storing a position.
-/

namespace Dialogue

open Effect

/-! ## Positions that stand -/

/-- The position names no step to answer, or a registered flow and a step of it. -/
def Position.Stands (registry : Registry) (p : Position) : Prop :=
  p.isSet = true → ∃ flow step, registry.flow? (p.flow.getD "") = some flow ∧
    flow.step? (p.step.getD "") = some step

namespace World

/-- The position that is stored for a customer, when it is read at some time. -/
def position (w : World) (customer : String) (now : Instant) : Position :=
  Position.ofCached? (w.cache.text? now (Position.cacheKey customer))

/-- The cache and the flows are in order, and what is stored for a customer stands from now on. -/
structure Stands (w : World) (customer : String) : Prop where
  works : w.cache.Works
  built : w.registry.IsBuilt
  position : ∀ now, w.now ≤ now → (w.position customer now).Stands w.registry

/-- The cache and the flows are in order, and no position is set for a customer from now on. -/
structure Ready (w : World) (customer : String) : Prop where
  works : w.cache.Works
  built : w.registry.IsBuilt
  unset : ∀ now, w.now ≤ now → (w.position customer now).isSet = false

variable {w w' : World} {customer : String}

theorem Ready.stands (ready : w.Ready customer) : w.Stands customer := by
  refine ⟨ready.works, ready.built, fun now later set => ?_⟩
  rw [ready.unset now later] at set
  simp at set

theorem position_of_spares (h : w.Spares (Position.cacheKey customer) w') (now : Instant) :
    w'.position customer now = w.position customer now := by
  unfold position Cache.text?
  rw [h.read?]

theorem now_of_spares {key : String} (h : w.Spares key w') : w'.now = w.now := by
  unfold World.now
  rw [h.clock]

theorem Ready.of_spares (ready : w.Ready customer)
    (h : w.Spares (Position.cacheKey customer) w') : w'.Ready customer := by
  refine ⟨h.works ready.works, ?_, ?_⟩
  · rw [h.registry]
    exact ready.built
  · intro now later
    rw [position_of_spares h]
    exact ready.unset now (by rwa [now_of_spares h] at later)

/-- What is read later is what is read now, or nothing. -/
theorem position_later (w : World) (customer : String) {now later : Instant} (h : now ≤ later) :
    w.position customer later = w.position customer now ∨ w.position customer later = {} := by
  unfold position Cache.text? Cache.read?
  cases w.cache.entries.get? (Position.cacheKey customer) with
  | none => exact .inr rfl
  | some e =>
    rw [Option.filter_some, Option.filter_some]
    cases kept : w.cache.isKept later e with
    | false => exact .inr rfl
    | true =>
      rw [Cache.isKept_of_le h kept]
      exact .inl rfl

/-- Where no position is set now, none is set later. -/
theorem ready_of_unset (works : w.cache.Works) (built : w.registry.IsBuilt)
    (unset : (w.position customer w.now).isSet = false) : w.Ready customer := by
  refine ⟨works, built, fun now later => ?_⟩
  rcases w.position_later customer later with same | none_
  · rw [same]
    exact unset
  · rw [none_]
    rfl

end World

/-! ## Reading, storing and removing -/

namespace Position

theorem runFrom_stored (w : World) (works : w.cache.Works) (customer : String) :
    ∃ b, runFrom w (stored customer) =
      (.ok (w.position customer w.now), { w with backend := b, cache := w.cache.used }) := by
  obtain ⟨b, read⟩ := Act.runFrom_cached? works (cacheKey customer)
  refine ⟨b, ?_⟩
  unfold stored
  rw [runFrom_bind_of_ok read]
  rfl

/-- Removing the position of a customer leaves none. -/
theorem ready_of_clear {w w' : World} {customer : String} {result : Except Fault Unit}
    (works : w.cache.Works) (built : w.registry.IsBuilt)
    (ran : runFrom w (clear customer) = (result, w')) : w'.Ready customer := by
  obtain ⟨b, removed⟩ := Act.runFrom_forget works (cacheKey customer)
  unfold clear at ran
  rw [removed] at ran
  cases ran
  refine ⟨⟨works.connected, works.up⟩, built, fun now _ => ?_⟩
  have gone : (w.cache.used.remove (cacheKey customer)).read? now (cacheKey customer) = none := by
    unfold Cache.read?
    rw [show (w.cache.used.remove (cacheKey customer)).entries.get? (cacheKey customer) = none from
      (Table.get?_erase ..).trans (if_pos rfl)]
    rfl
  unfold World.position Cache.text?
  rw [gone]
  rfl

/-- A cached text is read as the position that it says, or as none. -/
theorem ofCached?_some (text : String) :
    ofCached? (some text) = {} ∨ ofText text = .good (ofCached? (some text)) := by
  unfold ofCached?
  rw [Option.bind_some]
  cases ofText text with
  | good p => exact .inr rfl
  | bad failures => exact .inl rfl

/-- What is read behind a stored position is that position, as far as its flow and its step go, or
nothing. -/
theorem read_of_save {w w' : World} {customer : String} {p : Position} {u : Unit}
    (works : w.cache.Works) (ran : runFrom w (save customer p) = (.ok u, w')) (now : Instant) :
    w'.cache.Works ∧ w'.registry = w.registry ∧ (w'.position customer now = {} ∨
      (w'.position customer now).flow = p.flow ∧ (w'.position customer now).step = p.step) := by
  unfold save at ran
  split at ran
  · obtain ⟨_, _, stopped, _⟩ := runFrom_bind_eq_ok_iff.1 ran
    cases stopped
  · rw [runFrom_bind_of_ok (runFrom_get w)] at ran
    obtain ⟨b, stored⟩ :=
      Act.runFrom_remember works (cacheKey customer) p.text w.config.stateSeconds
    rw [stored] at ran
    cases ran
    refine ⟨⟨works.connected, works.up⟩, rfl, ?_⟩
    unfold World.position
    rcases Cache.text?_write w.cache.used (cacheKey customer) p.text (some w.config.stateSeconds)
      w.now now with none_ | text
    · rw [none_]
      exact .inl rfl
    · rw [text]
      exact (ofCached?_some p.text).imp_right named_of_ofText

end Position

end Dialogue
