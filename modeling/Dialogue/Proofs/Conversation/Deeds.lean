import Dialogue.Proofs.Conversation.Complete
import Dialogue.Proofs.Flow.Going

/-!
# What a message does

A message takes one turn, or none: it starts a flow, or it answers at the position that is stored.
What becomes of the position of its sender is said here once, for every world, whether the cache
works or not: it stays, or it is dropped, or the position after the turn is stored in its place.
Nothing is stored for anyone else.

The acts around the turn may *drop* what is stored for the sender and do nothing else that lasts.
They come before and behind it. Loading the flow comes just before the turn.

Main statements: `deed_of_settle`, what storing a turn does, and `deed_of_process`.
-/

namespace Dialogue

open Effect

/-- What is stored for a customer. -/
def World.stored? (w : World) (customer : String) : Option CacheEntry :=
  w.cache.entries.get? (Position.cacheKey customer)

/-! ## Dropping what is stored for a customer -/

/-- Two worlds that differ in what was counted, in what is cached of the replies, and in what is
stored for a customer, which may be gone in the second. -/
structure World.Drops (customer : String) (w v : World) : Prop where
  config : v.config = w.config
  clock : v.clock = w.clock
  registry : v.registry = w.registry
  rests : w.backend.Rests v.backend
  others : ∀ {other : String}, other ≠ customer → v.stored? other = w.stored? other
  own : v.stored? customer = w.stored? customer ∨ v.stored? customer = none

namespace World

variable {customer : String} {w v : World}

instance : Lasting (Drops customer) where
  refl w := ⟨rfl, rfl, rfl, Lasting.refl _, fun _ => rfl, .inl rfl⟩
  trans h g := by
    refine ⟨g.config.trans h.config, g.clock.trans h.clock, g.registry.trans h.registry,
      Lasting.trans h.rests g.rests, fun other => (g.others other).trans (h.others other), ?_⟩
    rcases g.own with same | gone
    · exact h.own.imp same.trans same.trans
    · exact .inr gone

theorem drops_of_entries {b : Backend} {c : Cache} (rests : w.backend.Rests b)
    (same : c.entries = w.cache.entries) :
    Drops customer w { w with backend := b, cache := c } := by
  have entry (other : String) :
      stored? { w with backend := b, cache := c } other = w.stored? other := by
    unfold stored?
    rw [same]
  exact ⟨rfl, rfl, rfl, rests, fun _ => entry _, .inl (entry _)⟩

theorem tolerant_drops (customer : String) : World.Tolerant (Drops customer) where
  looks rests := by
    intro w v result ran
    rw [runFrom_lookup] at ran
    cases ran
    exact drops_of_entries (rests rfl) rfl
  uses := by
    intro w v result ran
    rw [Act.runFrom_useCache] at ran
    cases ran
    exact drops_of_entries (Lasting.refl _) rfl

/-- What is cached of the replies is no position. -/
theorem drops_write_reply (customer : String) (w : World) (e : CacheEntry) :
    Drops customer w { w with cache := w.cache.write CannedReply.cacheKey e } :=
  have entry (other : String) := Table.get?_set_of_ne _ _ (Conversation.cacheKey_ne other)
  ⟨rfl, rfl, rfl, Lasting.refl _, fun _ => entry _, .inl (entry _)⟩

theorem drops_remove (customer : String) (w : World) :
    Drops customer w { w with cache := w.cache.remove (Position.cacheKey customer) } where
  config := rfl
  clock := rfl
  registry := rfl
  rests := Lasting.refl _
  others different := (Table.get?_erase ..).trans
    (if_neg fun same => different (Conversation.cacheKey_injective same).symm)
  own := .inr ((Table.get?_erase ..).trans (if_pos rfl))

end World

/-- Removing a position drops it. -/
theorem Position.drops_clear (customer : String) :
    Within (World.Drops customer) (Position.clear customer) :=
  (World.tolerant_drops customer).lenient.forget (World.drops_remove customer)

/-- **What is read for a customer** is what is stored, or nothing. -/
theorem Act.cached?_cases {w v : World} {key : String} {text? : Option String}
    (ran : runFrom w (Act.cached? key) = (.ok text?, v)) :
    text? = none ∨ text? = w.cache.text? w.now key := by
  unfold Act.cached? at ran
  rw [runFrom_bind_of_ok (runFrom_get w)] at ran
  split at ran
  · cases ran
    exact .inl rfl
  · rw [runFrom_bind_of_ok (Act.runFrom_useCache w)] at ran
    split at ran
    · cases ran
      exact .inl rfl
    · rw [runFrom_bind_of_ok (runFrom_get _)] at ran
      split at ran
      · cases ran
        exact .inl rfl
      · cases ran
        exact .inl rfl
      · next s filled found =>
        cases ran
        exact .inr (Cache.text?_of_read? (c := w.cache) filled found).symm
      · cases ran
        exact .inl rfl

theorem Position.drops_stored (customer other : String) :
    Within (World.Drops customer) (Position.stored other) :=
  within_bind ((World.tolerant_drops customer).lenient.cached? _) fun _ => within_pure _

/-- The position that is read for a customer is the one that is stored, or none. -/
theorem Position.stored_cases {w v : World} {customer : String} {p : Position}
    (ran : runFrom w (Position.stored customer) = (.ok p, v)) :
    p = {} ∨ p = w.position customer w.now := by
  unfold Position.stored at ran
  obtain ⟨text?, u, read, ran⟩ := runFrom_bind_eq_ok_iff.1 ran
  cases ran
  rcases Act.cached?_cases read with rfl | rfl
  · exact .inl rfl
  · exact .inr rfl

/-- What is stored under a key is what was, or the text that was to be stored. -/
theorem Act.remember_cases {w v : World} {key text : String} {seconds : Int}
    {result : Except Fault Unit} (ran : runFrom w (Act.remember key text seconds) = (result, v)) :
    w.Idles v ∧ (v.cache.entries = w.cache.entries ∨
      v.cache.entries = Table.set w.cache.entries key ⟨.text text, some seconds, w.now⟩) := by
  refine ⟨World.tolerant_idles.lenient.remember (fun w _ => w.idles_cache _) text seconds ran, ?_⟩
  unfold Act.remember at ran
  rw [runFrom_bind_of_ok (runFrom_get w)] at ran
  split at ran
  · cases ran
    exact .inl rfl
  · rw [runFrom_bind_of_ok (Act.runFrom_useCache w)] at ran
    split at ran
    · cases ran
      exact .inl rfl
    · cases ran
      exact .inr rfl

/-! ## Turns and deeds -/

/-- The turn of a message, from where a position was read: it starts a flow, whatever the position,
or it answers there. -/
inductive Incoming.Turns (m : Incoming) (registry : Registry) (p : Position) :
    Position → Turn → Prop
  | starts {code : String} {b c : Backend} {t : Turn}
      (ran : runFrom b (Turn.start registry m.address (some code) m.initialData) =
        (.ok (some t), c)) : Turns m registry p {} t
  | answers {b c : Backend} {t : Turn}
      (ran : runFrom b (Turn.answer registry m.address p m.input (.ok m.inputKind)) =
        (.ok (some t), c)) : Turns m registry p p t

namespace Conversation

/-- The statuses of responses without a turn. -/
def plainStatuses : List String :=
  ["flow_error", "cancelled", "auto_response", "farewell", "thanks", "fallback"]

theorem name_notMem (status : Status) : status.name ∉ plainStatuses := by
  cases status <;> decide

/-- What a message does where a position was read for its sender. Flows may be loaded. What is
stored for the sender stays or is dropped, or the position after a turn of the message is stored.
The response names the status of such a turn, or there was none. -/
structure Deed (m : Incoming) (p : Position) (w v : World) (result : Except Fault Response) :
    Prop where
  config : v.config = w.config
  clock : v.clock = w.clock
  grows : w.registry.Grows v.registry
  complete : w.Complete → v.registry = w.registry
  others : ∀ {other : String}, other ≠ m.customer → v.stored? other = w.stored? other
  own : v.stored? m.customer = w.stored? m.customer ∨ v.stored? m.customer = none ∨
    ∃ before t q, m.Turns v.registry p before t ∧ before.after t.move w.clock = some q ∧
      v.stored? m.customer = some ⟨.text q.text, some w.config.stateSeconds, w.now⟩
  responds : ∀ r, result = .ok r → r.status ∈ plainStatuses ∨
    ∃ before t, m.Turns v.registry p before t ∧ r.status = t.status.name

/-- Whatever an act does, it is what a message may do. -/
def Does (m : Incoming) (p : Position) (x : Act Response) : Prop :=
  ∀ ⦃w v : World⦄ ⦃result : Except Fault Response⦄, runFrom w x = (result, v) →
    Deed m p w v result

variable {m : Incoming} {p : Position} {u w v : World} {result : Except Fault Response}

/-! ## Acts around the turn -/

theorem deed_of_drops (drops : w.Drops m.customer v)
    (responds : ∀ r, result = .ok r → r.status ∈ plainStatuses ∨
      ∃ before t, m.Turns v.registry p before t ∧ r.status = t.status.name) :
    Deed m p w v result where
  config := drops.config
  clock := drops.clock
  grows := by
    rw [drops.registry]
    exact .refl _
  complete _ := drops.registry
  others := drops.others
  own := drops.own.imp_right .inl
  responds := responds

/-- An act that fails has dropped the position at most. -/
theorem deed_of_fault {fault : Fault} (drops : w.Drops m.customer v) :
    Deed m p w v (.error fault) := deed_of_drops drops nofun

namespace Deed

/-- What was dropped before makes no difference to what a message does. -/
theorem after_drops (deed : Deed m p w v result) (drops : u.Drops m.customer w) :
    Deed m p u v result where
  config := deed.config.trans drops.config
  clock := deed.clock.trans drops.clock
  grows := by
    rw [← drops.registry]
    exact deed.grows
  complete complete := by
    rw [deed.complete (complete.of_agrees drops.rests.agrees drops.registry), drops.registry]
  others other := (deed.others other).trans (drops.others other)
  own := by
    rcases deed.own with same | gone | ⟨before, t, q, turns, next, stored⟩
    · exact (drops.own.imp same.trans same.trans).imp_right .inl
    · exact .inr (.inl gone)
    · have now : w.now = u.now := congrArg Stamp.moment drops.clock
      rw [drops.clock] at next
      rw [drops.config, now] at stored
      exact .inr (.inr ⟨before, t, q, turns, next, stored⟩)
  responds := deed.responds

/-- Neither does what was loaded before, where the deed loads no more. -/
theorem after_ensure {code : String} {flow? : Except Fault (Option Flow)}
    (deed : Deed m p w v result) (ran : runFrom u (Registry.ensure code) = (flow?, w)) :
    Deed m p u v result := by
  have loads := Registry.loads_ensure code ran
  have entry (other : String) : w.stored? other = u.stored? other := by
    unfold World.stored?
    rw [loads.cache]
  have now : w.now = u.now := congrArg Stamp.moment loads.clock
  refine ⟨deed.config.trans loads.config, deed.clock.trans loads.clock,
    (Registry.grows_ensure ran).trans deed.grows, fun complete => ?_,
    fun other => (deed.others other).trans (entry _), ?_, deed.responds⟩
  · have same := Registry.registry_of_ensure complete ran
    rw [deed.complete (complete.of_agrees loads.backend.agrees same), same]
  · have own := deed.own
    rwa [loads.clock, loads.config, now, entry] at own

/-- Nor does what was looked up before, where the deed loads nothing. -/
theorem after_lookup {b : Backend} (deed : Deed m p { w with backend := b } v result)
    (same : v.registry = w.registry) : Deed m p w v result :=
  { deed with complete := fun _ => same }

end Deed

/-- An act that drops the position at most may come first. -/
theorem does_bind {α : Type} {x : Act α} {f : α → Act Response}
    (first : Within (World.Drops m.customer) x)
    (rest : ∀ {a : α} {u v : World}, runFrom u x = (.ok a, v) → Does m p (f a)) :
    Does m p (x >>= f) := by
  intro w v result ran
  rw [runFrom_bind] at ran
  split at ran
  · next a u half => exact (rest half ran).after_drops (first half)
  · next fault u half =>
    cases ran
    exact deed_of_fault (first half)

theorem drops_say (m : Incoming) (body status : String) :
    Within (World.Drops m.customer) (say m body status) :=
  within_bind ((World.tolerant_drops _).ofExcept _) fun _ => within_pure _

theorem plain_of_say {body status : String} (plain : status ∈ plainStatuses) {r : Response}
    (ran : runFrom w (say m body status) = (.ok r, v)) : r.status ∈ plainStatuses := by
  rw [(says_of_say ran).1]
  exact plain

/-- Saying something is no turn. -/
theorem does_say {status : String} (plain : status ∈ plainStatuses) (body : String) :
    Does m p (say m body status) := by
  intro w v result ran
  refine deed_of_drops (drops_say m body status ran) ?_
  rintro r rfl
  exact .inl (plain_of_say plain ran)

/-! ## Storing a turn -/

/-- Storing a position stores its text, or leaves what was stored. -/
theorem save_cases {customer : String} {q : Position} {stored : Except Fault Unit}
    (ran : runFrom w (Position.save customer q) = (stored, v)) :
    w.Idles v ∧ (v.cache.entries = w.cache.entries ∨ v.cache.entries =
      Table.set w.cache.entries (Position.cacheKey customer)
        ⟨.text q.text, some w.config.stateSeconds, w.now⟩) := by
  unfold Position.save at ran
  split at ran
  · cases ran
    exact ⟨Lasting.refl w, .inl rfl⟩
  · exact Act.remember_cases ran

/-- Storing the position after a turn is what the message does. -/
theorem deed_of_save {before q : Position} {t : Turn} {stored : Except Fault Unit}
    (turns : m.Turns w.registry p before t) (next : before.after t.move w.clock = some q)
    (ran : runFrom w (Position.save m.customer q) = (stored, v))
    (responds : ∀ r, result = .ok r → r.status ∈ plainStatuses ∨
      ∃ before t, m.Turns v.registry p before t ∧ r.status = t.status.name) :
    Deed m p w v result := by
  obtain ⟨idles, same | written⟩ := save_cases ran
  · have entry (other : String) : v.stored? other = w.stored? other := by
      unfold World.stored?
      rw [same]
    exact deed_of_drops ⟨idles.config, idles.clock, idles.registry, idles.backend,
      fun _ => entry _, .inl (entry _)⟩ responds
  · refine ⟨idles.config, idles.clock, ?_, fun _ => idles.registry, fun different => ?_,
      .inr (.inr ⟨before, t, q, ?_, next, ?_⟩), responds⟩
    · rw [idles.registry]
      exact .refl _
    · unfold World.stored?
      rw [written]
      exact Table.get?_set_of_ne _ _ fun same => different (cacheKey_injective same).symm
    · rw [idles.registry]
      exact turns
    · unfold World.stored?
      rw [written]
      exact Table.get?_set_self ..

/-- **Storing a turn** stores the position after it, or drops what is stored, and loads nothing. -/
theorem deed_of_settle {before : Position} {t : Turn} (turns : m.Turns w.registry p before t)
    (ran : runFrom w (settle m before t) = (result, v)) :
    Deed m p w v result ∧ v.registry = w.registry := by
  have told (same : v.registry = w.registry) (r : Response) (given : result = .ok r) :
      r.status ∈ plainStatuses ∨
        ∃ before t, m.Turns v.registry p before t ∧ r.status = t.status.name := by
    subst given
    rw [same]
    exact .inr ⟨before, t, turns, status_of_settle ran⟩
  unfold settle at ran
  rw [runFrom_bind_of_ok (runFrom_get w)] at ran
  cases next : before.after t.move w.clock with
  | none =>
    simp only [next] at ran
    have drops := within_bind (Position.drops_clear m.customer) (fun _ => within_pure _) ran
    exact ⟨deed_of_drops drops (told drops.registry), drops.registry⟩
  | some q =>
    simp only [next] at ran
    rw [runFrom_bind] at ran
    split at ran
    · next saved =>
      have same := (save_cases saved).1.registry
      cases ran
      exact ⟨deed_of_save turns next saved (told same), same⟩
    · next saved =>
      cases ran
      exact ⟨deed_of_save turns next saved nofun, (save_cases saved).1.registry⟩

/-- **What comes behind loading a flow** is the turn: where there is one it is stored, and else the
position is dropped at most. -/
theorem deed_of_turn {before : Position} {l : Lookup (Option Turn)}
    {ended : Act Response} (turns : ∀ {t b}, runFrom w.backend l = (.ok (some t), b) →
      m.Turns w.registry p before t)
    (drops : Within (World.Drops m.customer) ended)
    (plain : ∀ {u v r}, runFrom u ended = (.ok r, v) → r.status ∈ plainStatuses)
    (ran : runFrom w (Act.lookup l >>= fun turn? => match turn? with
      | none => ended
      | some turn => settle m before turn) = (result, v)) : Deed m p w v result := by
  rw [runFrom_bind, runFrom_lookup] at ran
  rcases looked : runFrom w.backend l with ⟨fault | _ | t, b⟩ <;> rw [looked] at ran
  · cases ran
    exact (deed_of_fault (Lasting.refl _)).after_lookup rfl
  · have dropped := drops ran
    refine (deed_of_drops dropped ?_).after_lookup dropped.registry
    rintro r rfl
    exact .inl (plain ran)
  · obtain ⟨deed, same⟩ := deed_of_settle (w := { w with backend := b }) (turns looked) ran
    exact deed.after_lookup same

/-! ## The ways of a message -/

/-- **Starting a flow** is something that a message may do, whatever the position. -/
theorem does_start (code : String) : Does m p (start m code) := by
  intro w v result ran
  unfold start at ran
  rw [runFrom_bind] at ran
  split at ran
  · next flow? u ensured =>
    rw [runFrom_bind_of_ok (runFrom_get u)] at ran
    exact (deed_of_turn (fun looked => .starts looked) (drops_say m _ _)
      (plain_of_say (by decide)) ran).after_ensure ensured
  · next fault u ensured =>
    cases ran
    exact (deed_of_fault (Lasting.refl _)).after_ensure ensured

theorem does_openMenu : Does m p (openMenu m) :=
  does_bind within_get fun {w _ _} _ => does_start w.opening

theorem does_answerIntent (intent : Intent) : Does m p (answerIntent m intent) := by
  cases intent with
  | greeting => exact does_openMenu
  | sale => exact does_start _
  | question => exact does_start _
  | farewell => exact does_say (by decide) _
  | thanks => exact does_say (by decide) _
  | unknown => exact does_say (by decide) _

theorem does_answerFresh : Does m p (answerFresh m) := by
  unfold answerFresh
  split
  · exact does_openMenu
  · dsimp only
    split
    · exact does_answerIntent _
    · refine does_bind ((World.tolerant_drops m.customer).cannedReply?
        (World.drops_write_reply m.customer) m.input) fun {reply? _ _} _ => ?_
      cases reply? with
      | none => exact does_answerIntent _
      | some reply => exact does_say (by decide) _

/-- **Answering** is something that a message may do at the position that was read. -/
theorem does_answerAt : Does m p (answerAt m p) := by
  intro w v result ran
  unfold answerAt at ran
  rw [runFrom_bind] at ran
  split at ran
  · next flow? u ensured =>
    rw [runFrom_bind_of_ok (runFrom_get u)] at ran
    refine (deed_of_turn (fun looked => .answers looked)
      (within_bind (Position.drops_clear m.customer) fun _ => drops_say m _ _)
      (fun ran => ?_) ran).after_ensure ensured
    obtain ⟨_, x, -, said⟩ := runFrom_bind_eq_ok_iff.1 ran
    exact plain_of_say (by decide) said
  · next fault u ensured =>
    cases ran
    exact (deed_of_fault (Lasting.refl _)).after_ensure ensured

theorem does_cancel : Does m p (cancel m p) := by
  unfold cancel
  split
  · exact does_openMenu
  · intro w v result ran
    have drops := within_bind (Position.drops_clear m.customer) (fun _ =>
      within_bind ((World.tolerant_drops _).ofExcept _) fun _ => within_pure _) ran
    refine deed_of_drops drops ?_
    rintro r rfl
    obtain ⟨_, u, -, ran⟩ := runFrom_bind_eq_ok_iff.1 ran
    obtain ⟨_, x, -, ran⟩ := runFrom_bind_eq_ok_iff.1 ran
    cases ran
    exact .inl (show "cancelled" ∈ plainStatuses by decide)

/-- Looking whether a position still counts drops it at most. -/
theorem drops_current (m : Incoming) (p : Position) :
    Within (World.Drops m.customer) (current m p) := by
  unfold current
  split
  · exact within_pure p
  · refine within_bind within_get fun w =>
      within_bind ((World.tolerant_drops _).ofExcept _) fun isActive => ?_
    split
    · exact within_pure p
    · exact within_bind (Position.drops_clear m.customer) fun _ => within_pure _

/-- A position that still counts is the one that was read, or it is the empty one. -/
theorem current_eq {p q : Position} (ran : runFrom w (current m p) = (.ok q, v)) :
    q = p ∨ q = {} := by
  unfold current at ran
  split at ran
  · cases ran
    exact .inl rfl
  · rw [runFrom_bind_of_ok (runFrom_get w)] at ran
    obtain ⟨isActive, u, -, ran⟩ := runFrom_bind_eq_ok_iff.1 ran
    split at ran
    · cases ran
      exact .inl rfl
    · obtain ⟨_, x, -, ran⟩ := runFrom_bind_eq_ok_iff.1 ran
      cases ran
      exact .inr rfl

theorem does_proceed (commands : List String) : Does m p (proceed m commands p) := by
  unfold proceed
  split
  · exact does_cancel
  · refine does_bind (drops_current m p) fun {q _ _} ran => ?_
    split
    · next set =>
      rcases current_eq ran with rfl | rfl
      · exact does_answerAt
      · cases set
    · exact does_answerFresh

theorem deed_of_respond (ran : runFrom w (respond m) = (result, v)) :
    ∃ p, (p = {} ∨ p = w.position m.customer w.now) ∧ Deed m p w v result := by
  unfold respond at ran
  rw [runFrom_bind] at ran
  split at ran
  · next p u stored =>
    rw [runFrom_bind_of_ok (runFrom_get u)] at ran
    exact ⟨p, Position.stored_cases stored,
      (does_proceed _ ran).after_drops (Position.drops_stored _ _ stored)⟩
  · next fault u stored =>
    cases ran
    exact ⟨{}, .inl rfl, deed_of_fault (Position.drops_stored _ _ stored)⟩

/-- **What a message does**, in every world: from the position that is read for its sender, which is
the stored one or none, it takes a turn or none, and nothing lasts but that. -/
theorem deed_of_process (ran : runFrom w (process m) = (result, v)) :
    ∃ p, (p = {} ∨ p = w.position m.customer w.now) ∧ Deed m p w v result := by
  unfold process at ran
  rw [runFrom_bind] at ran
  split at ran
  · next r u responded =>
    obtain ⟨p, read, deed⟩ := deed_of_respond responded
    cases ran
    exact ⟨p, read, deed.config, deed.clock, deed.grows, deed.complete, deed.others, deed.own,
      deed.responds⟩
  · next fault u responded =>
    cases ran
    exact deed_of_respond responded

end Conversation

end Dialogue
