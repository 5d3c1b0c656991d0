import Dialogue.Conversation.Basic
import Dialogue.Proofs.Conversation.Failing
import Dialogue.Proofs.Flow.Learning
import Dialogue.Proofs.Position.Storable

/-!
# What a response says is stored

A response names the flow and the step that wait for the customer's answer, and says how the turn
ended. It is put together beside what is stored, on every way through a turn. The stored text is
read again later, so the position must survive being written and read: what was read once is within
the limits of the reader, and a turn adds only texts to it.

Main statements: `tells_of_settle`, a turn is stored as it is told, and `describes_of_process`,
every response describes what is stored.
-/

namespace Dialogue

open Effect

/-! ## Worlds in which positions are kept -/

/-- Positions can be stored: the cache works and keeps them for a while, and the clock shows a time
of the calendar. -/
structure World.Keeping (w : World) : Prop where
  works : w.cache.Works
  lasts : 0 < w.config.stateSeconds
  civil : w.clock.IsCivil

/-- Positions can be stored, and none is set for a customer. -/
structure World.Vacant (w : World) (customer : String) : Prop extends w.Keeping where
  unset : (w.position customer w.now).isSet = false

/-- Two worlds that differ only in the backend, in what is registered and in what is cached under
other keys. -/
structure World.Retains (key : String) (w w' : World) : Prop where
  config : w'.config = w.config
  clock : w'.clock = w.clock
  isConnected : w'.cache.isConnected = w.cache.isConnected
  forgets : w'.cache.forgets = w.cache.forgets
  outage : w'.cache.outage = w.cache.outage
  entry : w'.cache.entries.get? key = w.cache.entries.get? key

namespace World

variable {key customer : String} {u v w : World}

instance : Lasting (Retains key) where
  refl _ := ⟨rfl, rfl, rfl, rfl, rfl, rfl⟩
  trans h g := ⟨g.config.trans h.config, g.clock.trans h.clock, g.isConnected.trans h.isConnected,
    g.forgets.trans h.forgets, g.outage.trans h.outage, g.entry.trans h.entry⟩

theorem Retains.of_spares (h : World.Spares key v w) : Retains key v w :=
  ⟨h.config, h.clock, h.isConnected, h.forgets, h.outage, h.entry⟩

theorem Retains.keeping (h : Retains key v w) (keeping : v.Keeping) : w.Keeping where
  works := by
    refine ⟨h.isConnected.trans keeping.works.connected, ?_⟩
    rw [h.outage]
    exact keeping.works.up
  lasts := by
    rw [h.config]
    exact keeping.lasts
  civil := by
    rw [h.clock]
    exact keeping.civil

theorem Retains.now (h : Retains key v w) : w.now = v.now := congrArg Stamp.moment h.clock

theorem Retains.vacant (h : Retains (Position.cacheKey customer) v w)
    (vacant : v.Vacant customer) : w.Vacant customer := by
  refine ⟨h.keeping vacant.toKeeping, ?_⟩
  have same : World.SameEntry (Position.cacheKey customer) v w := ⟨h.forgets, h.entry⟩
  rw [same.position, h.now]
  exact vacant.unset

end World

/-- What a response says is so of the position that is stored. -/
structure Response.Describes (r : Response) (p : Position) : Prop where
  /-- A step that waits is stored, with its flow. -/
  waiting : ∀ step, r.step = some step → p.isSet = true ∧ p.flow = r.flow ∧ p.step = some step
  /-- Where no step waits, no position is set. -/
  idle : r.step = none → p.isSet = false
  /-- The conversation is handed over exactly when the turn says so. -/
  transfers : r.transfers = true ↔ r.status = "transferred"
  /-- These turns leave nothing to answer. -/
  closing : r.status ∈ ["completed", "transferred", "cancelled", "flow_error", "auto_response",
    "fallback"] → p.isSet = false

namespace Position

/-- What was stored is storable. -/
theorem storable_position (w : World) (customer : String) (now : Instant) :
    (w.position customer now).Storable := by
  unfold World.position
  cases w.cache.text? now (cacheKey customer) with
  | none => exact storable_empty
  | some text =>
    rcases ofCached?_some text with none_ | reads
    · rw [none_]
      exact storable_empty
    · exact storable_of_ofText reads

theorem text_ne_empty (p : Position) : p.text ≠ "" := by
  intro empty
  have characters := congrArg String.toList empty
  unfold text Json.render toJson at characters
  rw [String.toList_ofList, Json.write] at characters
  exact absurd characters (by simp)

/-- A position that has learned nothing is read as it was stored. -/
theorem position_of_write {w : World} {p : Position} {c : Cache} {customer : String}
    (held : w.cache = c.write (cacheKey customer) ⟨.text p.text, none, 0⟩)
    (blank : p.data = []) (civil : ∀ stamp ∈ p.startedAt, stamp.IsCivil) (now : Instant) :
    w.position customer now = p := by
  have kept : c.isKept now ⟨.text p.text, none, 0⟩ = true := Bool.or_true _
  unfold World.position
  rw [held, Cache.text?_write_self p.text_ne_empty kept]
  unfold ofCached?
  rw [Option.bind_some, ofText_text blank civil]
  rfl

/-- Where a position was removed, none is set. -/
theorem vacant_of_clear {w w' : World} {customer : String} {u : Unit} (keeping : w.Keeping)
    (ran : runFrom w (clear customer) = (.ok u, w')) :
    w'.Vacant customer ∧ w'.now = w.now := by
  obtain ⟨b, removed⟩ := Act.runFrom_forget keeping.works (cacheKey customer)
  unfold clear at ran
  rw [removed] at ran
  cases ran
  refine ⟨⟨⟨⟨keeping.works.connected, keeping.works.up⟩, keeping.lasts, keeping.civil⟩, ?_⟩, rfl⟩
  have gone : (w.cache.used.remove (cacheKey customer)).entries.get? (cacheKey customer) = none :=
    (Table.get?_erase ..).trans (if_pos rfl)
  unfold World.position Cache.text? Cache.read?
  rw [gone]
  rfl

/-- **A storable position is read back** at the instant that it is stored. -/
theorem position_of_save {w w' : World} {customer : String} {p : Position} {u : Unit}
    (keeping : w.Keeping) (storable : p.Storable)
    (ran : runFrom w (save customer p) = (.ok u, w')) :
    w'.Keeping ∧ w'.now = w.now ∧ (w'.position customer w'.now).flow = p.flow ∧
      (w'.position customer w'.now).step = p.step := by
  unfold save at ran
  split at ran
  · obtain ⟨_, _, stopped, _⟩ := runFrom_bind_eq_ok_iff.1 ran
    cases stopped
  · rw [runFrom_bind_of_ok (runFrom_get w)] at ran
    obtain ⟨b, stored⟩ :=
      Act.runFrom_remember keeping.works (cacheKey customer) p.text w.config.stateSeconds
    rw [stored] at ran
    cases ran
    refine ⟨⟨⟨keeping.works.connected, keeping.works.up⟩, keeping.lasts, keeping.civil⟩, rfl, ?_⟩
    have kept : w.cache.used.isKept w.now ⟨.text p.text, some w.config.stateSeconds, w.now⟩ =
        true := by
      have positive := Int.mul_pos keeping.lasts (show 0 < Time.second by decide)
      unfold Cache.isKept
      rw [Option.all_some, Bool.or_eq_true, decide_eq_true_eq]
      exact .inr (Int.lt_add_of_pos_right _ positive)
    obtain ⟨learned, -, reads⟩ := exists_ofText storable
    unfold World.position
    show (ofCached? (Cache.text? _ w.now (cacheKey customer))).flow = p.flow ∧
      (ofCached? (Cache.text? _ w.now (cacheKey customer))).step = p.step
    rw [Cache.text?_write_self p.text_ne_empty kept]
    unfold ofCached?
    rw [Option.bind_some, reads]
    exact ⟨rfl, rfl⟩

end Position

namespace Conversation

variable {m : Incoming} {w w' : World} {r : Response}

/-! ## Acts from where no position is set -/

/-- What a response says is so of what is stored, at the instant of the message. -/
structure Tells (m : Incoming) (r : Response) (w w' : World) : Prop where
  works : w'.cache.Works
  now : w'.now = w.now
  describes : r.Describes (w'.position m.customer w'.now)

theorem Tells.of_now {v : World} (told : Tells m r v w') (now : v.now = w.now) : Tells m r w w' :=
  ⟨told.works, told.now.trans now, told.describes⟩

/-- From where no position is set, an act gives responses that tell what is stored. -/
def TellsFresh (m : Incoming) (x : Act Response) : Prop :=
  ∀ ⦃w w' : World⦄ ⦃r : Response⦄, w.Vacant m.customer → runFrom w x = (.ok r, w') →
    Tells m r w w'

theorem retains_of_spares {α : Type} {key : String} {x : Act α} (spares : Act.Spares key x) :
    Within (World.Retains key) x := fun _ _ _ ran => .of_spares (spares ran)

theorem retains_reload (key code : String) :
    Within (World.Retains key) (Registry.reload code) := by
  intro w w' result ran
  obtain ⟨b, rfl | ⟨flow, -, rfl⟩⟩ := Registry.reload_cases ran
  · exact ⟨rfl, rfl, rfl, rfl, rfl, rfl⟩
  · exact ⟨rfl, rfl, rfl, rfl, rfl, rfl⟩

theorem retains_ensure (key code : String) :
    Within (World.Retains key) (Registry.ensure code) := by
  refine within_bind within_get fun w => ?_
  split
  · exact within_pure _
  · exact retains_reload key code

/-- An act that retains the customer's entry may come first. -/
theorem tellsFresh_bind {α : Type} {x : Act α} {f : α → Act Response}
    (first : Within (World.Retains (Position.cacheKey m.customer)) x)
    (rest : ∀ a, TellsFresh m (f a)) : TellsFresh m (x >>= f) := by
  intro w w' r vacant ran
  obtain ⟨a, v, half, ran⟩ := runFrom_bind_eq_ok_iff.1 ran
  exact (rest a ((first half).vacant vacant) ran).of_now (first half).now

/-- A response that only says something describes that no position is set. -/
theorem tellsFresh_say (m : Incoming) (body : String) {status : String}
    (other : status ≠ "transferred") : TellsFresh m (say m body status) := by
  intro w w' r vacant ran
  have retains := World.Retains.of_spares (spares_say (Position.cacheKey m.customer) m _ _ ran)
  have vacant' := retains.vacant vacant
  unfold say at ran
  obtain ⟨message, v, -, ran⟩ := runFrom_bind_eq_ok_iff.1 ran
  cases ran
  exact ⟨vacant'.works, retains.now, nofun, fun _ => vacant'.unset,
    ⟨nofun, fun h => absurd h other⟩, fun _ => vacant'.unset⟩

/-! ## Storing a turn -/

theorem isTransferred_iff (t : Turn) : t.isTransferred = true ↔ t.status.name = "transferred" := by
  unfold Turn.isTransferred
  rw [decide_eq_true_eq]
  cases t.status <;> decide

/-- A turn that has not ended its flow is named for something else. -/
theorem notMem_closing {t : Turn} (unfinished : t.isCompleted = false) :
    t.status.name ∉ ["completed", "transferred", "cancelled", "flow_error", "auto_response",
      "fallback"] := by
  have open_ := mt (Turn.isCompleted_iff t).2 (by rw [unfinished]; decide)
  revert open_
  cases t.status <;> decide

/-- The position after a turn can be stored. -/
theorem storable_of_after {before p : Position} {t : Turn} {now : Stamp} (civil : now.IsCivil)
    (storable : before.Storable)
    (learned : Json.FieldsReadable Position.mostDigits Position.roomForData t.data)
    (next : before.after t.move now = some p) : p.Storable := by
  obtain ⟨started, -, data⟩ := Position.startedAt_after next
  constructor
  · rw [data]
    exact learned
  · rw [started]
    rintro stamp ⟨⟩
    unfold Position.startAfter
    split
    · cases start : before.startedAt with
      | none => exact civil
      | some stamp => exact storable.start stamp start
    · exact civil

/-- The position after a turn in a flow is set. -/
theorem isSet_of_after {before p : Position} {t : Turn} {now : Stamp} (inFlow : t.flow ≠ "")
    (next : before.after t.move now = some p) : p.isSet = true := by
  obtain ⟨-, atStep, atFlow⟩ := Turn.of_after_move next
  have named : Position.isNamed t.move.step = true := by
    unfold Position.after at next
    split at next
    · cases next
    · next named =>
      rw [Bool.or_eq_true, not_or, Bool.not_eq_true, Bool.not_eq_true, Bool.not_eq_false'] at named
      exact named.2
  unfold Position.isSet
  rw [atFlow inFlow, atStep, Bool.and_eq_true]
  exact ⟨by simpa [Position.isNamed] using inFlow, named⟩

/-- **A turn is stored as it is told**, when what it has learned can be stored. -/
theorem tells_of_settle {before : Position} {t : Turn} (keeping : w.Keeping)
    (storable : before.Storable)
    (learned : Json.FieldsReadable Position.mostDigits Position.roomForData t.data)
    (inFlow : t.isCompleted = false → t.flow ≠ "")
    (ran : runFrom w (settle m before t) = (.ok r, w')) : Tells m r w w' := by
  unfold settle at ran
  rw [runFrom_bind_of_ok (runFrom_get w)] at ran
  cases next : before.after t.move w.clock with
  | none =>
    simp only [next] at ran
    obtain ⟨_, v, cleared, ran⟩ := runFrom_bind_eq_ok_iff.1 ran
    cases ran
    obtain ⟨vacant, now⟩ := Position.vacant_of_clear keeping cleared
    exact ⟨vacant.works, now, nofun, fun _ => vacant.unset, isTransferred_iff t,
      fun _ => vacant.unset⟩
  | some p =>
    simp only [next] at ran
    obtain ⟨_, v, saved, ran⟩ := runFrom_bind_eq_ok_iff.1 ran
    cases ran
    obtain ⟨unfinished, -, -⟩ := Turn.of_after_move next
    have set : p.isSet = true := isSet_of_after (inFlow unfinished) next
    obtain ⟨keeping', now, flow, step⟩ := Position.position_of_save keeping
      (storable_of_after keeping.civil storable learned next) saved
    have set' : (w'.position m.customer w'.now).isSet = true := by
      unfold Position.isSet at set ⊢
      rw [flow, step]
      exact set
    refine ⟨keeping'.works, now, ?_, ?_, isTransferred_iff t, ?_⟩
    · intro name waits
      exact ⟨set', flow, step.trans waits⟩
    · intro idle
      unfold Position.isSet at set
      rw [show p.step = none from idle, Bool.and_eq_true] at set
      exact nomatch set.2
    · intro closed
      exact absurd closed (notMem_closing unfinished)

/-! ## Starting flows -/

theorem readable_initialData (m : Incoming) :
    Json.FieldsReadable Position.mostDigits Position.roomForData m.initialData := by
  unfold Incoming.initialData
  split
  · exact .nil
  · exact .nil
  · next name =>
    intro entry mem
    rw [List.mem_singleton.1 mem]
    exact .str _ _

/-- **Starting a flow** where no position is set tells what is stored. -/
theorem tellsFresh_start (m : Incoming) (code : String) : TellsFresh m (start m code) := by
  unfold start
  refine tellsFresh_bind (retains_ensure _ code) fun _ => ?_
  refine tellsFresh_bind within_get fun v => ?_
  intro w w' r vacant ran
  obtain ⟨turn?, u, turned, ran⟩ := runFrom_bind_eq_ok_iff.1 ran
  have retains := World.Retains.of_spares
    (Act.spares_lookup (Position.cacheKey m.customer) _ turned)
  have vacant' := retains.vacant vacant
  have told : Tells m r u w' := by
    cases turn? with
    | none => exact tellsFresh_say m _ (by decide) vacant' ran
    | some t =>
      have started := runFrom_of_lookup turned
      have learned := readable_initialData m
      rw [← Turn.data_of_start started] at learned
      obtain ⟨-, flow, stands⟩ := Turn.stands_of_start started
      exact tells_of_settle vacant'.toKeeping Position.storable_empty learned
        (fun _ => Turn.ne_empty_of_flow? stands.registered) ran
  exact told.of_now retains.now

theorem tellsFresh_openMenu (m : Incoming) : TellsFresh m (openMenu m) :=
  tellsFresh_bind within_get fun w => tellsFresh_start m w.opening

theorem tellsFresh_answerIntent (m : Incoming) (intent : Intent) :
    TellsFresh m (answerIntent m intent) := by
  cases intent with
  | greeting => exact tellsFresh_openMenu m
  | sale => exact tellsFresh_start m _
  | question => exact tellsFresh_start m _
  | farewell => exact tellsFresh_say m _ (by decide)
  | thanks => exact tellsFresh_say m _ (by decide)
  | unknown => exact tellsFresh_say m _ (by decide)

/-- A message outside of flows is answered with what is stored. -/
theorem tellsFresh_answerFresh (m : Incoming) : TellsFresh m (answerFresh m) := by
  unfold answerFresh
  split
  · exact tellsFresh_openMenu m
  · dsimp only
    split
    · exact tellsFresh_answerIntent m _
    · refine tellsFresh_bind (retains_of_spares (spares_cannedReply? m.customer m.input))
        fun reply? => ?_
      cases reply? with
      | none => exact tellsFresh_answerIntent m _
      | some reply => exact tellsFresh_say m _ (by decide)

/-! ## Answering at a position -/

/-- An answer at a position tells what is stored, when the position can be stored. -/
theorem tells_of_answerAt {p : Position} (keeping : w.Keeping) (storable : p.Storable)
    (ran : runFrom w (answerAt m p) = (.ok r, w')) : Tells m r w w' := by
  unfold answerAt at ran
  obtain ⟨_, v, ensured, ran⟩ := runFrom_bind_eq_ok_iff.1 ran
  have ensures := retains_ensure (Position.cacheKey m.customer) _ ensured
  rw [runFrom_bind_of_ok (runFrom_get v)] at ran
  obtain ⟨turn?, u, turned, ran⟩ := runFrom_bind_eq_ok_iff.1 ran
  have looked := World.Retains.of_spares
    (Act.spares_lookup (Position.cacheKey m.customer) _ turned)
  have keeping' := looked.keeping (ensures.keeping keeping)
  have now := looked.now.trans ensures.now
  have told : Tells m r u w' := by
    cases turn? with
    | none =>
      obtain ⟨_, x, cleared, ran⟩ := runFrom_bind_eq_ok_iff.1 ran
      obtain ⟨vacant, now⟩ := Position.vacant_of_clear keeping' cleared
      exact (tellsFresh_say m _ (by decide) vacant ran).of_now now
    | some t =>
      have answered := runFrom_of_lookup turned
      have learned : Json.FieldsReadable Position.mostDigits Position.roomForData t.data := by
        intro entry mem
        rcases Turn.addsTexts_of_answer answered entry mem with before | ⟨s, text⟩
        · exact storable.data entry before
        · rw [text]
          exact .str _ s
      refine tells_of_settle keeping' storable learned (fun unfinished => ?_) ran
      rcases Turn.settled_of_answer answered with completed | ⟨flow, name, step, stands⟩
      · rw [unfinished] at completed
        cases completed
      · exact Turn.ne_empty_of_flow? stands.registered
  exact told.of_now now

/-- A position that still counts is the one that was read; one that does not count is gone. -/
theorem current_cases_vacant {p q : Position} (keeping : w.Keeping)
    (ran : runFrom w (current m p) = (.ok q, w')) :
    q = p ∧ World.Retains (Position.cacheKey m.customer) w w' ∨
      q.isSet = false ∧ w'.Vacant m.customer ∧ w'.now = w.now := by
  unfold current at ran
  split at ran
  · cases ran
    exact .inl ⟨rfl, Lasting.refl w⟩
  · rw [runFrom_bind_of_ok (runFrom_get w)] at ran
    obtain ⟨isActive, v, looked, ran⟩ := runFrom_bind_eq_ok_iff.1 ran
    have retains := World.Retains.of_spares
      (Act.spares_lookup (Position.cacheKey m.customer) _ looked)
    split at ran
    · cases ran
      exact .inl ⟨rfl, retains⟩
    · obtain ⟨_, u, cleared, ran⟩ := runFrom_bind_eq_ok_iff.1 ran
      cases ran
      obtain ⟨vacant, now⟩ := Position.vacant_of_clear (retains.keeping keeping) cleared
      exact .inr ⟨rfl, vacant, now.trans retains.now⟩

/-! ## Messages -/

/-- A command to cancel tells what is stored. -/
theorem tells_of_cancel {p : Position} (keeping : w.Keeping)
    (vacant : p.isSet = false → w.Vacant m.customer)
    (ran : runFrom w (cancel m p) = (.ok r, w')) : Tells m r w w' := by
  unfold cancel at ran
  split at ran
  · next unset => exact tellsFresh_openMenu m (vacant (by simpa using unset)) ran
  · obtain ⟨_, v, cleared, ran⟩ := runFrom_bind_eq_ok_iff.1 ran
    obtain ⟨vacant', now⟩ := Position.vacant_of_clear keeping cleared
    obtain ⟨message, u, looked, ran⟩ := runFrom_bind_eq_ok_iff.1 ran
    have retains := World.Retains.of_spares
      (Act.spares_lookup (Position.cacheKey m.customer) _ looked)
    cases ran
    have unset := (retains.vacant vacant').unset
    exact ⟨(retains.vacant vacant').works, retains.now.trans now, nofun, fun _ => unset,
      ⟨nofun, fun h => absurd h (show "cancelled" ≠ "transferred" by decide)⟩, fun _ => unset⟩

theorem tells_of_respond (keeping : w.Keeping) (ran : runFrom w (respond m) = (.ok r, w')) :
    Tells m r w w' := by
  obtain ⟨b, stored⟩ := Position.runFrom_stored w keeping.works m.customer
  unfold respond at ran
  rw [runFrom_bind_of_ok stored, runFrom_bind_of_ok (runFrom_get _)] at ran
  have keeping' : World.Keeping { w with backend := b, cache := w.cache.used } :=
    ⟨⟨keeping.works.connected, keeping.works.up⟩, keeping.lasts, keeping.civil⟩
  -- What is read is what is stored, so a turn outside of flows starts where no position is set.
  have vacant : (w.position m.customer w.now).isSet = false →
      World.Vacant { w with backend := b, cache := w.cache.used } m.customer :=
    fun unset => ⟨keeping', unset⟩
  split at ran
  · exact (tells_of_cancel keeping' vacant ran).of_now rfl
  · obtain ⟨q, v, checked, ran⟩ := runFrom_bind_eq_ok_iff.1 ran
    have now : v.now = w.now := by
      rcases current_cases_vacant keeping' checked with ⟨-, retains⟩ | ⟨-, -, now⟩
      · exact retains.now
      · exact now
    have told : Tells m r v w' := by
      rcases current_cases_vacant keeping' checked with ⟨rfl, retains⟩ | ⟨unset, vacant', -⟩
      · split at ran
        · exact tells_of_answerAt (retains.keeping keeping')
            (Position.storable_position w m.customer w.now) ran
        · next unset =>
          exact tellsFresh_answerFresh m (retains.vacant (vacant (by simpa using unset))) ran
      · rw [unset] at ran
        exact tellsFresh_answerFresh m vacant' ran
    exact told.of_now now

/-- **A response tells the truth about what is stored.** Whatever flows are registered and whatever
the database and the cache hold: when the cache works and keeps positions for a while, the clock
shows a time of the calendar and a message is answered, then the position that is read for the
customer at the same instant is what the response describes. -/
theorem describes_of_process {w w' : World} {m : Incoming} {r : Response} (works : w.cache.Works)
    (lasts : 0 < w.config.stateSeconds) (civil : w.clock.IsCivil)
    (ran : runFrom w (process m) = (.ok r, w')) :
    w'.now = w.now ∧ ∃ p w'', runFrom w' (Position.stored m.customer) = (.ok p, w'') ∧
      r.Describes p := by
  unfold process at ran
  obtain ⟨response, v, responded, ran⟩ := runFrom_bind_eq_ok_iff.1 ran
  obtain ⟨_, x, noted, ran⟩ := runFrom_bind_eq_ok_iff.1 ran
  cases ran
  have told := tells_of_respond ⟨works, lasts, civil⟩ responded
  have spares := Act.spares_note (Position.cacheKey m.customer) _ noted
  obtain ⟨b, stored⟩ := Position.runFrom_stored w' (spares.works told.works) m.customer
  rw [World.position_of_spares spares, World.now_of_spares spares] at stored
  exact ⟨(World.now_of_spares spares).trans told.now, _, _, stored, told.describes⟩

set_option maxRecDepth 20000 in
theorem describes_of_process_tap :
    confused.cache.Works ∧ 0 < confused.config.stateSeconds ∧ confused.clock.IsCivil ∧
      ∃ r w', runFrom confused (process tap) = (.ok r, w') ∧ r.step = some "hello" ∧
        ∃ p w'', runFrom w' (Position.stored "549") = (.ok p, w'') ∧ r.Describes p := by
  have works : confused.cache.Works := ⟨rfl, fun _ => rfl⟩
  have lasts : 0 < confused.config.stateSeconds := by decide
  have civil : confused.clock.IsCivil := ⟨by decide, nofun⟩
  have answered : ∃ r w', runFrom confused (process tap) = (.ok r, w') ∧ r.step = some "hello" :=
    ⟨_, _, by cbv, by cbv⟩
  obtain ⟨r, w', ran, step⟩ := answered
  obtain ⟨-, stored⟩ := describes_of_process works lasts civil ran
  exact ⟨works, lasts, civil, r, w', ran, step, stored⟩

end Conversation

end Dialogue
