import Dialogue.Conversation.Basic
import Dialogue.Proofs.Conversation.Standing

/-!
# Turns that fail

A turn may fail when something is looked up or checked. What was done before stays done, so what is
stored for the customer is safe only where every act that changes it comes after the last one that
can fail. An act *keeps* what is stored under a key when it leaves the entry alone, whether it fails
or not, and it *fails keeping* it when it does so at least where it fails.

Main statement: `stored_of_process_error`, a message that cannot be answered leaves what is stored
for every customer as it was; only a position that is past its deadline may be gone.
-/

namespace Dialogue

open Effect

variable {α β : Type}

/-! ## Keeping an entry -/

/-- Two worlds that hold the same under a key, and forget it at the same time. -/
structure World.SameEntry (key : String) (w w' : World) : Prop where
  forgets : w'.cache.forgets = w.cache.forgets
  entry : w'.cache.entries.get? key = w.cache.entries.get? key

namespace World.SameEntry

variable {key customer : String} {u v w : World}

theorem trans (h : World.SameEntry key u v) (g : World.SameEntry key v w) :
    World.SameEntry key u w :=
  ⟨g.forgets.trans h.forgets, g.entry.trans h.entry⟩

instance : Lasting (World.SameEntry key) where
  refl _ := ⟨rfl, rfl⟩
  trans := trans

theorem of_spares (h : World.Spares key v w) : World.SameEntry key v w := ⟨h.forgets, h.entry⟩

/-- Where the entry of a customer is the same, the same position is read at any time. -/
theorem position (h : World.SameEntry (Position.cacheKey customer) v w) (now : Instant) :
    w.position customer now = v.position customer now := by
  have kept : w.cache.isKept now = v.cache.isKept now := by
    funext e
    unfold Cache.isKept
    rw [h.forgets]
  have read : w.cache.read? now (Position.cacheKey customer) =
      v.cache.read? now (Position.cacheKey customer) := by
    unfold Cache.read?
    rw [kept, h.entry]
  unfold World.position Cache.text?
  rw [read]

end World.SameEntry

namespace Act

variable {key : String}

/-- An act leaves what is stored under a key alone, also when it fails. -/
def Keeps (key : String) (x : Act α) : Prop := Within (World.SameEntry key) x

/-- An act that fails has left what is stored under a key alone. -/
def FailsKeeping (key : String) (x : Act α) : Prop :=
  ∀ ⦃w w' : World⦄ ⦃fault : Fault⦄, runFrom w x = (.error fault, w') → World.SameEntry key w w'

/-- An act that never fails. -/
def Succeeds (x : Act α) : Prop := ∀ w, ∃ a w', runFrom w x = (.ok a, w')

theorem keeps_of_spares {x : Act α} (spares : Spares key x) : Keeps key x := by
  intro w w' result ran
  exact .of_spares (spares ran)

theorem keeps_bind {x : Act α} {f : α → Act β} (first : Keeps key x)
    (rest : ∀ a, Keeps key (f a)) : Keeps key (x >>= f) :=
  within_bind first rest

theorem failsKeeping_of_keeps {x : Act α} (keeps : Keeps key x) : FailsKeeping key x := by
  intro w w' fault ran
  exact keeps ran

theorem failsKeeping_of_spares {x : Act α} (spares : Spares key x) : FailsKeeping key x :=
  failsKeeping_of_keeps (keeps_of_spares spares)

theorem failsKeeping_of_succeeds {x : Act α} (succeeds : Succeeds x) : FailsKeeping key x := by
  intro w w' fault ran
  obtain ⟨a, v, ok⟩ := succeeds w
  rw [ok] at ran
  cases ran

/-- **What may fail late must keep the entry up to there.** -/
theorem failsKeeping_bind {x : Act α} {f : α → Act β} (first : Keeps key x)
    (rest : ∀ a, FailsKeeping key (f a)) : FailsKeeping key (x >>= f) := by
  intro w w' fault ran
  rw [runFrom_bind] at ran
  split at ran
  · next a v half => exact (first half).trans (rest a ran)
  · next fault v half =>
    cases ran
    exact first half

/-- What comes last may change the entry when nothing behind it fails. -/
theorem failsKeeping_bind_of_succeeds {x : Act α} {f : α → Act β} (first : FailsKeeping key x)
    (rest : ∀ a, Succeeds (f a)) : FailsKeeping key (x >>= f) := by
  intro w w' fault ran
  rw [runFrom_bind] at ran
  split at ran
  · next a v half =>
    obtain ⟨b, u, ok⟩ := rest a v
    rw [ok] at ran
    cases ran
  · next fault v half =>
    cases ran
    exact first half

theorem succeeds_pure (a : α) : Succeeds (pure a) := fun w => ⟨a, w, rfl⟩

theorem succeeds_bind {x : Act α} {f : α → Act β} (first : Succeeds x)
    (rest : ∀ a, Succeeds (f a)) : Succeeds (x >>= f) := by
  intro w
  obtain ⟨a, v, half⟩ := first w
  rw [runFrom_bind_of_ok half]
  exact rest a v

theorem succeeds_note (e : Event) : Succeeds (note e) := fun _ => ⟨(), _, rfl⟩

/-- Removing an entry never fails, whether the cache works or not. -/
theorem succeeds_forget (key : String) : Succeeds (forget key) := by
  intro w
  unfold forget
  rw [runFrom_bind_of_ok (runFrom_get w)]
  split
  · exact ⟨(), w, rfl⟩
  · rw [runFrom_bind_of_ok (runFrom_useCache w)]
    split
    · exact succeeds_note _ _
    · exact ⟨(), _, rfl⟩

/-- Storing a text never fails, whether the cache works or not. -/
theorem succeeds_remember (key text : String) (seconds : Int) :
    Succeeds (remember key text seconds) := by
  intro w
  unfold remember
  rw [runFrom_bind_of_ok (runFrom_get w)]
  split
  · exact ⟨(), w, rfl⟩
  · rw [runFrom_bind_of_ok (runFrom_useCache w)]
    split
    · exact succeeds_note _ _
    · exact ⟨(), _, rfl⟩

end Act

namespace Conversation

variable {m : Incoming} {key : String}

/-! ## Loading flows -/

theorem keeps_reload (key code : String) : Act.Keeps key (Registry.reload code) := by
  intro w w' result ran
  obtain ⟨b, rfl | ⟨flow, -, rfl⟩⟩ := Registry.reload_cases ran
  · exact ⟨rfl, rfl⟩
  · exact ⟨rfl, rfl⟩

theorem keeps_ensure (key code : String) : Act.Keeps key (Registry.ensure code) := by
  refine Act.keeps_bind (Act.keeps_of_spares (Act.spares_get key)) fun w => ?_
  split
  · exact Act.keeps_of_spares (Act.spares_pure key _)
  · exact keeps_reload key code

theorem keeps_lookup (key : String) (l : Lookup α) : Act.Keeps key (Act.lookup l) :=
  Act.keeps_of_spares (Act.spares_lookup key l)

theorem keeps_get (key : String) : Act.Keeps key (get : Act World) :=
  Act.keeps_of_spares (Act.spares_get key)

/-! ## What is stored at the end of a turn -/

/-- A customer with an id can always be told something. -/
theorem succeeds_say (named : m.customer ≠ "") (body status : String) :
    Act.Succeeds (say m body status) := by
  intro w
  unfold say Message.ofText Message.make
  rw [if_neg named]
  exact ⟨_, w, rfl⟩

theorem succeeds_clear (customer : String) : Act.Succeeds (Position.clear customer) :=
  Act.succeeds_forget _

/-- A position that cannot be written is refused before anything is stored. -/
theorem failsKeeping_save (key customer : String) (p : Position) :
    Act.FailsKeeping key (Position.save customer p) := by
  unfold Position.save
  split
  · refine Act.failsKeeping_bind ?_ fun _ => ?_
    · intro w w' result ran
      cases ran
      exact ⟨rfl, rfl⟩
    · exact Act.failsKeeping_of_succeeds
        (Act.succeeds_bind (fun w => ⟨w, w, rfl⟩) fun w => Act.succeeds_remember _ _ _)
  · exact Act.failsKeeping_of_succeeds
      (Act.succeeds_bind (fun w => ⟨w, w, rfl⟩) fun w => Act.succeeds_remember _ _ _)

/-- Where a turn leads is stored last. -/
theorem failsKeeping_settle (key : String) (m : Incoming) (before : Position) (turn : Turn) :
    Act.FailsKeeping key (settle m before turn) := by
  unfold settle
  refine Act.failsKeeping_bind (keeps_get key) fun w => ?_
  dsimp only
  cases before.after turn.move w.clock with
  | none =>
    exact Act.failsKeeping_bind_of_succeeds
      (Act.failsKeeping_of_succeeds (succeeds_clear m.customer)) fun _ => Act.succeeds_pure _
  | some p =>
    exact Act.failsKeeping_bind_of_succeeds (failsKeeping_save key m.customer p) fun _ =>
      Act.succeeds_pure _

/-! ## Turns -/

theorem failsKeeping_start (key : String) (m : Incoming) (code : String) :
    Act.FailsKeeping key (start m code) := by
  unfold start
  refine Act.failsKeeping_bind (keeps_ensure key code) fun _ => ?_
  refine Act.failsKeeping_bind (keeps_get key) fun w => ?_
  refine Act.failsKeeping_bind (keeps_lookup key _) fun turn? => ?_
  cases turn? with
  | none => exact Act.failsKeeping_of_spares (spares_say key m _ _)
  | some turn => exact failsKeeping_settle key m {} turn

theorem failsKeeping_openMenu (key : String) (m : Incoming) :
    Act.FailsKeeping key (openMenu m) :=
  Act.failsKeeping_bind (keeps_get key) fun w => failsKeeping_start key m w.opening

theorem failsKeeping_answerIntent (key : String) (m : Incoming) (intent : Intent) :
    Act.FailsKeeping key (answerIntent m intent) := by
  cases intent with
  | greeting => exact failsKeeping_openMenu key m
  | sale => exact failsKeeping_start key m _
  | question => exact failsKeeping_start key m _
  | farewell => exact Act.failsKeeping_of_spares (spares_say key m _ _)
  | thanks => exact Act.failsKeeping_of_spares (spares_say key m _ _)
  | unknown => exact Act.failsKeeping_of_spares (spares_say key m _ _)

theorem failsKeeping_answerFresh (customer : String) (m : Incoming) :
    Act.FailsKeeping (Position.cacheKey customer) (answerFresh m) := by
  unfold answerFresh
  split
  · exact failsKeeping_openMenu _ m
  · dsimp only
    split
    · exact failsKeeping_answerIntent _ m _
    · refine Act.failsKeeping_bind (Act.keeps_of_spares (spares_cannedReply? customer m.input))
        fun reply? => ?_
      cases reply? with
      | none => exact failsKeeping_answerIntent _ m _
      | some reply => exact Act.failsKeeping_of_spares (spares_say _ m _ _)

theorem failsKeeping_answerAt (key : String) (named : m.customer ≠ "") (p : Position) :
    Act.FailsKeeping key (answerAt m p) := by
  unfold answerAt
  dsimp only
  refine Act.failsKeeping_bind (keeps_ensure key _) fun _ => ?_
  refine Act.failsKeeping_bind (keeps_get key) fun w => ?_
  refine Act.failsKeeping_bind (keeps_lookup key _) fun turn? => ?_
  cases turn? with
  | none =>
    exact Act.failsKeeping_of_succeeds
      (Act.succeeds_bind (succeeds_clear m.customer) fun _ => succeeds_say named _ _)
  | some turn => exact failsKeeping_settle key m p turn

theorem failsKeeping_cancel (key : String) (named : m.customer ≠ "") (p : Position) :
    Act.FailsKeeping key (cancel m p) := by
  unfold cancel
  split
  · exact failsKeeping_openMenu key m
  · refine Act.failsKeeping_of_succeeds
      (Act.succeeds_bind (succeeds_clear m.customer) fun _ => ?_)
    intro w
    unfold Turn.cancelled Message.ofText Message.make
    rw [show m.address.recipient = m.customer from rfl, if_neg named]
    exact ⟨_, w, rfl⟩

/-! ## Positions past their deadline -/

theorem cacheKey_injective {customer other : String}
    (same : Position.cacheKey customer = Position.cacheKey other) : customer = other := by
  have lists := congrArg String.toList same
  unfold Position.cacheKey at lists
  rw [String.toList_append, String.toList_append] at lists
  exact String.toList_inj.1 (List.append_cancel_left lists)

/-- What is stored for one customer is safe from the deadlines of the others. -/
theorem keeps_current {customer : String} (other : customer ≠ m.customer) (p : Position) :
    Act.Keeps (Position.cacheKey customer) (current m p) := by
  unfold current
  split
  · exact Act.keeps_of_spares (Act.spares_pure _ p)
  · refine Act.keeps_bind (keeps_get _) fun w => ?_
    refine Act.keeps_bind (keeps_lookup _ _) fun isActive => ?_
    split
    · exact Act.keeps_of_spares (Act.spares_pure _ p)
    · refine Act.keeps_bind (Act.keeps_of_spares (Act.spares_forget fun same => ?_)) fun _ =>
        Act.keeps_of_spares (Act.spares_pure _ _)
      exact other (cacheKey_injective same).symm

theorem failsKeeping_current (key : String) (m : Incoming) (p : Position) :
    Act.FailsKeeping key (current m p) := by
  unfold current
  split
  · exact Act.failsKeeping_of_succeeds (Act.succeeds_pure p)
  · refine Act.failsKeeping_bind (keeps_get key) fun w => ?_
    refine Act.failsKeeping_bind (keeps_lookup key _) fun isActive => ?_
    split
    · exact Act.failsKeeping_of_succeeds (Act.succeeds_pure p)
    · exact Act.failsKeeping_of_succeeds
        (Act.succeeds_bind (succeeds_clear m.customer) fun _ => Act.succeeds_pure _)

/-- A position that counts no more is removed, and no other. -/
theorem current_cases_entry {w w' : World} {p q : Position} (works : w.cache.Works)
    (ran : runFrom w (current m p) = (.ok q, w')) :
    World.SameEntry (Position.cacheKey m.customer) w w' ∨
      (p.isSet = true ∧ Turn.isActive w.registry w.config.usualMinutes w.now p = .ok false ∧
        w'.cache.entries.get? (Position.cacheKey m.customer) = none) := by
  unfold current at ran
  split at ran
  · cases ran
    exact .inl ⟨rfl, rfl⟩
  · next set =>
    rw [runFrom_bind_of_ok (runFrom_get w)] at ran
    obtain ⟨isActive, v, looked, ran⟩ := runFrom_bind_eq_ok_iff.1 ran
    have told : Turn.isActive w.registry w.config.usualMinutes w.now p = .ok isActive :=
      (Prod.mk.inj looked).1
    have spares := Act.spares_lookup (Position.cacheKey m.customer) _ looked
    split at ran
    · cases ran
      exact .inl (.of_spares spares)
    · next inactive =>
      obtain ⟨_, u, cleared, ran⟩ := runFrom_bind_eq_ok_iff.1 ran
      cases ran
      obtain ⟨b, removed⟩ := Act.runFrom_forget (spares.works works) (Position.cacheKey m.customer)
      unfold Position.clear at cleared
      rw [removed] at cleared
      cases cleared
      refine .inr ⟨by simpa using set, ?_, (Table.get?_erase ..).trans (if_pos rfl)⟩
      rw [told, Bool.eq_false_of_not_eq_true inactive]

/-! ## Messages -/

/-- A message that cannot be answered leaves alone what is stored for the other customers. -/
theorem failsKeeping_respond_of_ne {customer : String} (named : m.customer ≠ "")
    (other : customer ≠ m.customer) :
    Act.FailsKeeping (Position.cacheKey customer) (respond m) := by
  unfold respond
  refine Act.failsKeeping_bind
    (Act.keeps_bind (Act.keeps_of_spares (Act.spares_cached? _ _)) fun _ =>
      Act.keeps_of_spares (Act.spares_pure _ _)) fun p => ?_
  refine Act.failsKeeping_bind (keeps_get _) fun w => ?_
  split
  · exact failsKeeping_cancel _ named p
  · refine Act.failsKeeping_bind (keeps_current other p) fun q => ?_
    split
    · exact failsKeeping_answerAt _ named q
    · exact failsKeeping_answerFresh customer m

/-- **A message that cannot be answered changes no position.** Whatever flows are registered and
whatever is stored: when the cache works and a message of a customer with an id fails, then the
entries of all customers are what they were, and the same positions are read from them at any time.
Only the customer's own entry may be gone, and only when its position was past the deadline. -/
theorem stored_of_process_error {w w' : World} {m : Incoming} {fault : Fault}
    (works : w.cache.Works) (named : m.customer ≠ "")
    (ran : runFrom w (process m) = (.error fault, w')) :
    (∀ customer, customer ≠ m.customer →
      w'.cache.entries.get? (Position.cacheKey customer) =
          w.cache.entries.get? (Position.cacheKey customer) ∧
        ∀ now, w'.position customer now = w.position customer now) ∧
    ((w'.cache.entries.get? (Position.cacheKey m.customer) =
          w.cache.entries.get? (Position.cacheKey m.customer) ∧
        ∀ now, w'.position m.customer now = w.position m.customer now) ∨
      ((w.position m.customer w.now).isSet = true ∧
        Turn.isActive w.registry w.config.usualMinutes w.now (w.position m.customer w.now) =
          .ok false ∧
        w'.cache.entries.get? (Position.cacheKey m.customer) = none)) := by
  have failed : runFrom w (respond m) = (.error fault, w') := by
    unfold process at ran
    rw [runFrom_bind] at ran
    split at ran
    · cases ran
    · next half =>
      cases ran
      exact half
  refine ⟨fun customer other => ?_, ?_⟩
  · have same := failsKeeping_respond_of_ne named other failed
    exact ⟨same.entry, same.position⟩
  · obtain ⟨v, stored, same⟩ : ∃ v, runFrom w (Position.stored m.customer) =
        (.ok (w.position m.customer w.now), v) ∧
        World.Spares (Position.cacheKey m.customer) w v := by
      obtain ⟨b, stored⟩ := Position.runFrom_stored w works m.customer
      exact ⟨_, stored, rfl, rfl, rfl, rfl, rfl, rfl, rfl, rfl⟩
    unfold respond at failed
    rw [runFrom_bind_of_ok stored, runFrom_bind_of_ok (runFrom_get _)] at failed
    have kept : World.SameEntry (Position.cacheKey m.customer) v w' →
        w'.cache.entries.get? (Position.cacheKey m.customer) =
            w.cache.entries.get? (Position.cacheKey m.customer) ∧
          ∀ now, w'.position m.customer now = w.position m.customer now := by
      intro after
      have all := (World.SameEntry.of_spares same).trans after
      exact ⟨all.entry, all.position⟩
    split at failed
    · exact .inl (kept (failsKeeping_cancel _ named _ failed))
    · rw [runFrom_bind] at failed
      split at failed
      · next q u checked =>
        -- What follows the check of the deadline keeps what the check has left.
        have rest : World.SameEntry (Position.cacheKey m.customer) u w' := by
          split at failed
          · exact failsKeeping_answerAt _ named q failed
          · exact failsKeeping_answerFresh m.customer m failed
        rcases current_cases_entry (same.works works) checked with after | ⟨set, inactive, gone⟩
        · exact .inl (kept (after.trans rest))
        · rw [same.registry, same.config, World.now_of_spares same] at inactive
          exact .inr ⟨set, inactive, rest.entry.trans gone⟩
      · next fault' u checked =>
        cases failed
        exact .inl (kept (failsKeeping_current _ m _ checked))

/-- A step that cannot be shown: it asks a source of options that is not known. -/
def pick : Step where
  id := "pick"
  prompt := .resolved (some "stock") fun data => do
    let _ ← Store.options "stock" data
    return .ofText "Which?"
  expects := .text

/-- A flow of one step that cannot be shown. -/
def stock : Flow where
  name := "stock"
  description := ""
  steps := [("pick", pick)]
  initial := "pick"
  minutes := Flow.halfHour
  has_initial := rfl
  minutes_pos := Flow.halfHour_pos

/-- A bot that holds a position for one customer and something unreadable for another. -/
def waiting : World where
  config := { cancelCommands := [] }
  clock := ⟨0, none⟩
  opening := "stock"
  cache := { entries := [
    ("flow_state:549", ⟨.text "\x7b\"flow_type\":\"stock\",\"flow_step\":\"pick\"\x7d", none, 0⟩),
    ("flow_state:550", ⟨.text "junk", none, 0⟩)] }
  registry := [("stock", stock)]

set_option maxRecDepth 20000 in
theorem position_waiting :
    waiting.position "549" 0 = ⟨some "stock", some "pick", [], none⟩ := by
  have text : waiting.cache.text? 0 (Position.cacheKey "549") =
      some "\x7b\"flow_type\":\"stock\",\"flow_step\":\"pick\"\x7d" := by
    unfold Cache.text? Cache.read?
    rfl
  have read : Position.ofText "\x7b\"flow_type\":\"stock\",\"flow_step\":\"pick\"\x7d" =
      .good ⟨some "stock", some "pick", [], none⟩ := by cbv
  unfold World.position
  rw [text]
  unfold Position.ofCached?
  rw [Option.bind_some, read]
  rfl

set_option maxRecDepth 20000 in
theorem stored_of_process_error_tap :
    waiting.cache.Works ∧ tap.customer ≠ "" ∧
      ∃ w', runFrom waiting (process tap) = (.error (.unknownSource "stock"), w') ∧
        w'.position "549" 0 = ⟨some "stock", some "pick", [], none⟩ ∧
        w'.cache.entries.get? (Position.cacheKey "550") = some ⟨.text "junk", none, 0⟩ := by
  have works : waiting.cache.Works := ⟨rfl, fun _ => rfl⟩
  have named : tap.customer ≠ "" := by decide
  have failed : ∃ w', runFrom waiting (respond tap) = (.error (.unknownSource "stock"), w') := by
    obtain ⟨b, stored⟩ := Position.runFrom_stored waiting works "549"
    rw [show waiting.now = 0 from rfl, position_waiting] at stored
    unfold respond
    rw [show tap.customer = "549" from rfl, runFrom_bind_of_ok stored]
    exact ⟨_, by cbv⟩
  obtain ⟨w', failed⟩ := failed
  have ran : runFrom waiting (process tap) = (.error (.unknownSource "stock"), w') :=
    runFrom_bind_of_error failed
  obtain ⟨others, own⟩ := stored_of_process_error works named ran
  refine ⟨works, named, w', ran, ?_, (others "550" (by decide)).1⟩
  rcases own with ⟨-, same⟩ | ⟨-, inactive, -⟩
  · exact (same 0).trans position_waiting
  · rw [show tap.customer = "549" from rfl, show waiting.now = 0 from rfl, position_waiting]
      at inactive
    cases inactive

end Conversation

end Dialogue
