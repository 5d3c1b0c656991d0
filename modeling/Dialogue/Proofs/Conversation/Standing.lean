import Mathlib
import Dialogue.Conversation.Basic
import Dialogue.Proofs.Conversation.Stored
import Dialogue.Proofs.Flow.Turns
import Dialogue.Proofs.Reply.Finding

/-!
# Stored positions stand

What is stored for a customer may not stand: the flow may have been edited or taken out, or the text
may come from elsewhere. A message repairs it. Every way through a turn either leaves no position,
or stores the one of a turn that stands.

A turn outside of flows begins where no position is set. Acts that spare the customer's key keep it
so, up to the turn that is stored at the end.

Main statements: `stands_of_settle`, a turn that stands is stored as a position that stands, and
`stands_of_process`, after every message the stored position stands.
-/

namespace Dialogue.Conversation

open Effect

variable {m : Incoming} {w w' : World} {r : Response}

/-! ## Acts from where no position is set -/

/-- From where no position is set, the act leaves a position that stands. -/
def LeavesStanding (customer : String) (x : Act Response) : Prop :=
  ∀ ⦃w w' : World⦄ ⦃r : Response⦄, w.Ready customer → runFrom w x = (.ok r, w') →
    w'.Stands customer

theorem leavesStanding_of_spares {customer : String} {x : Act Response}
    (spares : Act.Spares (Position.cacheKey customer) x) : LeavesStanding customer x := by
  intro w w' r ready ran
  exact (ready.of_spares (spares ran)).stands

/-- An act that spares the customer's key may come first. -/
theorem leavesStanding_bind {α : Type} {customer : String} {x : Act α} {f : α → Act Response}
    (first : Act.Spares (Position.cacheKey customer) x)
    (rest : ∀ a, LeavesStanding customer (f a)) : LeavesStanding customer (x >>= f) := by
  intro w w' r ready ran
  obtain ⟨a, v, half, ran⟩ := runFrom_bind_eq_ok_iff.1 ran
  exact rest a (ready.of_spares (first half)) ran

theorem spares_say (key : String) (m : Incoming) (body status : String) :
    Act.Spares key (say m body status) :=
  Act.spares_bind (Act.spares_lookup key _) fun _ => Act.spares_pure key _

/-- The canned replies are kept under a key of their own. -/
theorem cacheKey_ne (customer : String) : CannedReply.cacheKey ≠ Position.cacheKey customer := by
  intro same
  have heads := congrArg (fun s => s.toList.head?) same
  simp [CannedReply.cacheKey, Position.cacheKey] at heads

theorem spares_cannedReply? (customer input : String) :
    Act.Spares (Position.cacheKey customer) (cannedReply? input) :=
  (Act.tolerant_spares _).cannedReply? (fun _ _ => ⟨rfl, rfl, rfl, rfl, rfl, rfl, rfl,
    Table.get?_set_of_ne _ _ (cacheKey_ne customer)⟩) input

/-! ## Storing a turn -/

/-- **A turn that stands** is stored as a position that stands, and a turn that ends its flow as
none. -/
theorem stands_of_settle {before : Position} {t : Turn} {b : Backend} {address : Address}
    (works : w.cache.Works) (built : w.registry.IsBuilt)
    (settled : t.Settled w.registry b address)
    (ran : runFrom w (settle m before t) = (.ok r, w')) : w'.Stands m.customer := by
  unfold settle at ran
  rw [runFrom_bind_of_ok (runFrom_get w)] at ran
  cases next : before.after t.move w.clock with
  | none =>
    simp only [next] at ran
    obtain ⟨_, v, cleared, ran⟩ := runFrom_bind_eq_ok_iff.1 ran
    cases ran
    exact (Position.ready_of_clear works built cleared).stands
  | some p =>
    simp only [next] at ran
    obtain ⟨_, v, saved, ran⟩ := runFrom_bind_eq_ok_iff.1 ran
    cases ran
    obtain ⟨unfinished, atStep, atFlow⟩ := Turn.of_after_move next
    rcases settled with completed | ⟨flow, name, step, stands⟩
    · rw [unfinished] at completed
      simp at completed
    · have inFlow := Turn.ne_empty_of_flow? stands.registered
      -- The turn names its step by the id, which may bring back another step of the flow.
      obtain ⟨s, found⟩ := (built.flow? stands.registered).exists_step?_id stands.found
      have after := Position.read_of_save works saved
      have built' : w'.registry.IsBuilt := by
        rw [(after 0).2.1]
        exact built
      refine ⟨(after 0).1, built', fun now _ set => ?_⟩
      obtain ⟨-, registry, none_ | ⟨flows, steps⟩⟩ := after now
      · rw [none_] at set
        simp [Position.isSet, Position.isNamed] at set
      · refine ⟨flow, s, ?_, ?_⟩
        · rw [flows, atFlow inFlow, registry]
          exact stands.registered
        · rw [steps, atStep, stands.waits]
          exact found

/-! ## Starting flows -/

/-- **Starting a flow** where no position is set leaves one that stands. -/
theorem leavesStanding_start (m : Incoming) (code : String) :
    LeavesStanding m.customer (start m code) := by
  intro w w' r ready ran
  unfold start at ran
  obtain ⟨_, v, ensured, ran⟩ := runFrom_bind_eq_ok_iff.1 ran
  obtain ⟨built, spares⟩ :=
    Registry.ensure_spares ensured ready.built (Position.cacheKey m.customer)
  have registered : World.Ready { w with registry := v.registry } m.customer :=
    ⟨ready.works, built, ready.unset⟩
  have ready' : v.Ready m.customer := registered.of_spares spares
  rw [runFrom_bind_of_ok (runFrom_get v)] at ran
  obtain ⟨turn, u, turned, ran⟩ := runFrom_bind_eq_ok_iff.1 ran
  have ready'' : u.Ready m.customer := ready'.of_spares (Act.spares_lookup _ _ turned)
  cases turn with
  | none => exact leavesStanding_of_spares (spares_say _ _ _ _) ready'' ran
  | some t =>
    rw [runFrom_lookup] at turned
    obtain ⟨started, rfl⟩ := Prod.mk.inj turned
    obtain ⟨-, flow, stands⟩ := Turn.stands_of_start (Prod.ext started rfl)
    exact stands_of_settle ready''.works ready''.built (.inr ⟨flow, _, _, stands⟩) ran

theorem leavesStanding_openMenu (m : Incoming) : LeavesStanding m.customer (openMenu m) :=
  leavesStanding_bind (Act.spares_get _) fun w => leavesStanding_start m w.opening

theorem leavesStanding_answerIntent (m : Incoming) (intent : Intent) :
    LeavesStanding m.customer (answerIntent m intent) := by
  cases intent with
  | greeting => exact leavesStanding_openMenu m
  | sale => exact leavesStanding_start m _
  | question => exact leavesStanding_start m _
  | farewell => exact leavesStanding_of_spares (spares_say _ _ _ _)
  | thanks => exact leavesStanding_of_spares (spares_say _ _ _ _)
  | unknown => exact leavesStanding_of_spares (spares_say _ _ _ _)

/-- A message outside of flows leaves a position that stands. -/
theorem leavesStanding_answerFresh (m : Incoming) :
    LeavesStanding m.customer (answerFresh m) := by
  unfold answerFresh
  split
  · exact leavesStanding_openMenu m
  · dsimp only
    split
    · exact leavesStanding_answerIntent m _
    · refine leavesStanding_bind (spares_cannedReply? m.customer m.input) fun reply? => ?_
      cases reply? with
      | none => exact leavesStanding_answerIntent m _
      | some reply => exact leavesStanding_of_spares (spares_say _ _ _ _)

/-! ## Answering at a position -/

/-- An answer at a position leaves one that stands, whatever the position. -/
theorem stands_of_answerAt {p : Position} (works : w.cache.Works) (built : w.registry.IsBuilt)
    (ran : runFrom w (answerAt m p) = (.ok r, w')) : w'.Stands m.customer := by
  unfold answerAt at ran
  obtain ⟨_, v, ensured, ran⟩ := runFrom_bind_eq_ok_iff.1 ran
  obtain ⟨built', spares⟩ := Registry.ensure_spares ensured built (Position.cacheKey m.customer)
  rw [runFrom_bind_of_ok (runFrom_get v)] at ran
  obtain ⟨turn?, u, turned, ran⟩ := runFrom_bind_eq_ok_iff.1 ran
  have looked := Act.spares_lookup (Position.cacheKey m.customer) _ turned
  have works' : u.cache.Works := looked.works (spares.works works)
  have built'' : u.registry.IsBuilt := by
    rw [looked.registry]
    exact built'
  cases turn? with
  | none =>
    obtain ⟨_, x, cleared, ran⟩ := runFrom_bind_eq_ok_iff.1 ran
    exact leavesStanding_of_spares (spares_say _ _ _ _)
      (Position.ready_of_clear works' built'' cleared) ran
  | some t =>
    rw [runFrom_lookup] at turned
    have answered := (Prod.mk.inj turned).1
    have settled : t.Settled u.registry v.backend m.address := by
      rw [looked.registry]
      exact Turn.settled_of_answer (Prod.ext answered rfl)
    exact stands_of_settle works' built'' settled ran

/-- A position that still counts is the one that was read, or none is set any more. -/
theorem current_cases {p q : Position} (ready : p.isSet = false → w.Ready m.customer)
    (works : w.cache.Works) (built : w.registry.IsBuilt)
    (ran : runFrom w (current m p) = (.ok q, w')) :
    w'.cache.Works ∧ w'.registry.IsBuilt ∧ (q.isSet = false → w'.Ready m.customer) := by
  unfold current at ran
  split at ran
  · next unset =>
    cases ran
    exact ⟨works, built, ready⟩
  · next set =>
    rw [runFrom_bind_of_ok (runFrom_get w)] at ran
    obtain ⟨isActive, v, looked, ran⟩ := runFrom_bind_eq_ok_iff.1 ran
    have spares := Act.spares_lookup (Position.cacheKey m.customer) _ looked
    have works' : v.cache.Works := spares.works works
    have built' : v.registry.IsBuilt := by
      rw [spares.registry]
      exact built
    split at ran
    · cases ran
      refine ⟨works', built', fun unset => ?_⟩
      rw [unset] at set
      simp at set
    · obtain ⟨_, u, cleared, ran⟩ := runFrom_bind_eq_ok_iff.1 ran
      cases ran
      have ready' := Position.ready_of_clear works' built' cleared
      exact ⟨ready'.works, ready'.built, fun _ => ready'⟩

/-! ## Messages -/

/-- A command to cancel leaves a position that stands. -/
theorem stands_of_cancel {p : Position} (ready : p.isSet = false → w.Ready m.customer)
    (works : w.cache.Works) (built : w.registry.IsBuilt)
    (ran : runFrom w (cancel m p) = (.ok r, w')) : w'.Stands m.customer := by
  unfold cancel at ran
  split at ran
  · next unset =>
    exact leavesStanding_openMenu m (ready (by simpa using unset)) ran
  · obtain ⟨_, v, cleared, ran⟩ := runFrom_bind_eq_ok_iff.1 ran
    have ready' := Position.ready_of_clear works built cleared
    exact leavesStanding_of_spares
      (Act.spares_bind (Act.spares_lookup _ _) fun _ => Act.spares_pure _ _) ready' ran

theorem stands_of_respond (works : w.cache.Works) (built : w.registry.IsBuilt)
    (ran : runFrom w (respond m) = (.ok r, w')) : w'.Stands m.customer := by
  obtain ⟨b, stored⟩ := Position.runFrom_stored w works m.customer
  unfold respond at ran
  rw [runFrom_bind_of_ok stored, runFrom_bind_of_ok (runFrom_get _)] at ran
  -- What is read is what is stored, so a turn outside of flows starts where no position is set.
  have ready : (w.position m.customer w.now).isSet = false →
      World.Ready { w with backend := b, cache := w.cache.used } m.customer :=
    fun unset => World.ready_of_unset ⟨works.connected, works.up⟩ built unset
  split at ran
  · exact stands_of_cancel ready ⟨works.connected, works.up⟩ built ran
  · obtain ⟨q, v, checked, ran⟩ := runFrom_bind_eq_ok_iff.1 ran
    obtain ⟨works', built', ready'⟩ :=
      current_cases ready ⟨works.connected, works.up⟩ built checked
    split at ran
    · exact stands_of_answerAt works' built' ran
    · next unset =>
      exact leavesStanding_answerFresh m (ready' (by simpa using unset)) ran

/-- **Messages repair what is stored.** Whatever is stored for a customer, and whatever the database
and the clock say: when the cache works, the registered flows are built and a message is answered,
the position that is read for the customer from then on names no step to answer, or a registered
flow and a step of it. -/
theorem stands_of_process {w w' : World} {m : Incoming} {r : Response} (works : w.cache.Works)
    (built : w.registry.IsBuilt) (ran : runFrom w (process m) = (.ok r, w')) (later : Stamp)
    (after : w'.now ≤ later.moment) :
    ∃ p w'', runFrom { w' with clock := later } (Position.stored m.customer) = (.ok p, w'') ∧
      p.Stands w'.registry := by
  unfold process at ran
  obtain ⟨response, v, responded, ran⟩ := runFrom_bind_eq_ok_iff.1 ran
  cases ran
  have stands := stands_of_respond works built responded
  obtain ⟨b, stored⟩ := Position.runFrom_stored
    { v with backend := { v.backend with tally := _ }, clock := later } stands.works m.customer
  exact ⟨_, _, stored, stands.position later.moment after⟩

/-- A step that waits for any answer. -/
def welcome : Step where
  id := "hello"
  prompt := .fixed (.ofText "Hello")
  expects := .any

/-- A flow of one step. -/
def lobby : Flow where
  name := "lobby"
  description := ""
  steps := [("hello", welcome)]
  initial := "hello"
  minutes := 30
  has_initial := rfl
  minutes_pos := by decide

/-- A bot that holds something unreadable for a customer. -/
def confused : World where
  config := { cancelCommands := [] }
  clock := ⟨0, none⟩
  opening := "lobby"
  cache := { entries := [("flow_state:549", ⟨.text "junk", none, 0⟩)] }
  registry := [("lobby", lobby)]

/-- The customer taps a button. -/
def tap : Incoming := ⟨"549", none, none, "button_reply", some "yes", none, []⟩

set_option maxRecDepth 20000 in
theorem stands_of_process_tap :
    confused.cache.Works ∧ confused.registry.IsBuilt ∧
      ∃ r w', runFrom confused (process tap) = (.ok r, w') ∧ r.flow = some "lobby" ∧
        ∃ p w'', runFrom { w' with clock := confused.clock } (Position.stored "549") =
          (.ok p, w'') ∧ p.Stands w'.registry := by
  have works : confused.cache.Works := ⟨rfl, fun _ => rfl⟩
  have built : confused.registry.IsBuilt := by
    intro entry mem
    rw [List.mem_singleton.1 mem]
    exact Flow.isBuilt_of_map [welcome] rfl (by decide)
  have answered : ∃ r w', runFrom confused (process tap) = (.ok r, w') ∧ r.flow = some "lobby" ∧
      w'.clock = confused.clock := ⟨_, _, by cbv, by cbv, by cbv⟩
  obtain ⟨r, w', ran, flow, clock⟩ := answered
  have now : w'.now ≤ confused.clock.moment := Int.le_of_eq (congrArg Stamp.moment clock)
  exact ⟨works, built, r, w', ran, flow, stands_of_process works built ran confused.clock now⟩

end Dialogue.Conversation
