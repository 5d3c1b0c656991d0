import Dialogue.Proofs.Conversation.Apart
import Dialogue.Proofs.Conversation.Deeds
import Dialogue.Proofs.Position.Texts

/-!
# What is stored along a run

A bot is run by messages that come in and by the time that passes. Whatever it stores for a customer
is a position that a flow began at, or to which answers have led from there, so a property of
positions that holds where a flow begins and that answers keep holds of all that is ever stored. It
may depend on the registered flows, as long as it is kept when there are more of them. The start of
a position may be read otherwise than it was written, so the property must not look at it.

Main statements: `remembers_of_deed`, what one message keeps; `remembers_transcript`, what any run
keeps; `registry_transcript` and `Complete.throughout`, the flows of a complete bot.
-/

namespace Dialogue

open Effect Conversation

/-- A property of positions that answers keep. -/
structure Position.Persists (I : Registry → Position → Prop) : Prop where
  empty : ∀ registry : Registry, I registry {}
  grows : ∀ {first second : Registry} {p : Position}, first.Grows second → I first p → I second p
  restarts : ∀ {registry : Registry} {p : Position} (start : Option Stamp), I registry p →
    I registry { p with startedAt := start }
  opens : ∀ {registry : Registry} {m : Incoming} {q : Position},
    Position.Opens registry m.initialData q → I registry q
  leads : ∀ {registry : Registry} {p q : Position}, AreTexts p.data → I registry p →
    p.Leads registry q → I registry q

/-- Whatever is stored for a customer is a position that has a property, and has learned texts. -/
def World.Remembers (I : Registry → Position → Prop) (w : World) : Prop :=
  ∀ customer e, w.stored? customer = some e →
    ∃ q : Position, e.payload = .text q.text ∧ AreTexts q.data ∧ I w.registry q

variable {I : Registry → Position → Prop} {w v : World} {m : Incoming} {p : Position}

theorem World.remembers_of_empty (empty : w.cache.entries = []) : w.Remembers I := by
  intro customer e found
  unfold World.stored? at found
  rw [empty] at found
  cases found

/-- What is learned on the way from one position to the next are texts. -/
theorem Position.Leads.texts {registry : Registry} {q : Position} (leads : p.Leads registry q)
    (texts : AreTexts p.data) : AreTexts q.data := by
  cases leads with
  | stays => exact texts
  | switches _ _ keeps =>
    subst keeps
    exact (texts.keep _ _).set _ _
  | advances _ _ keeps =>
    subst keeps
    exact texts.keep _ _

/-- A stored position that is still kept is read back. -/
theorem World.position_of_entry {customer : String} {now since : Instant} {seconds : Option Int}
    (stored : w.stored? customer = some ⟨.text p.text, seconds, since⟩)
    (kept : w.cache.isKept now ⟨.text p.text, seconds, since⟩ = true) (texts : AreTexts p.data)
    (civil : ∀ stamp ∈ p.startedAt, stamp.IsCivil) : w.position customer now = p := by
  have entry : w.cache.entries.get? (Position.cacheKey customer) =
      some ⟨.text p.text, seconds, since⟩ := stored
  have read : w.cache.read? now (Position.cacheKey customer) = some (.text p.text) := by
    unfold Cache.read?
    rw [entry, Option.filter_some, if_pos kept]
    rfl
  unfold World.position
  rw [Cache.text?_of_read? p.text_ne_empty read]
  unfold Position.ofCached?
  rw [Option.bind_some, Position.ofText_of_texts texts civil]
  rfl

/-- **What is read for a customer** has the property that is remembered. -/
theorem World.Remembers.position (remembers : w.Remembers I) (persists : Position.Persists I)
    (customer : String) (now : Instant) :
    AreTexts (w.position customer now).data ∧ I w.registry (w.position customer now) := by
  unfold World.position
  cases found : w.cache.text? now (Position.cacheKey customer) with
  | none => exact ⟨.nil, persists.empty _⟩
  | some text =>
    obtain ⟨e, entry, -, payload⟩ := Cache.exists_entry_of_text? found
    obtain ⟨q, stored, texts, holds⟩ := remembers customer e entry
    obtain rfl : q.text = text := Payload.text.inj (stored.symm.trans payload)
    rcases Position.ofCached?_some q.text with none_ | reads
    · rw [none_]
      exact ⟨.nil, persists.empty _⟩
    · rw [Position.eq_of_ofText texts reads]
      exact ⟨texts, persists.restarts _ holds⟩

/-! ## Messages -/

/-- The position after a turn has the property, when the one before the turn has it. -/
theorem holds_of_turns (persists : Position.Persists I) {registry : Registry}
    {before q : Position} {t : Turn} {now : Stamp} (texts : AreTexts p.data) (holds : I registry p)
    (turns : m.Turns registry p before t) (next : before.after t.move now = some q) :
    AreTexts q.data ∧ I registry q := by
  cases turns with
  | starts ran =>
    obtain ⟨opens, place⟩ := Turn.opens_of_after ran next
    rw [place]
    refine ⟨?_, persists.restarts _ (persists.opens opens)⟩
    show AreTexts t.data
    rw [Turn.data_of_start ran]
    exact .initialData m
  | answers ran =>
    obtain ⟨leads, place⟩ := Turn.leads_of_after ran next
    rw [place]
    exact ⟨leads.texts texts, persists.restarts _ (persists.leads texts holds leads)⟩

/-- **What a message stores** has the property, when what was stored before has it. -/
theorem remembers_of_deed (persists : Position.Persists I) (remembers : w.Remembers I)
    {result : Except Fault Response} (read : p = {} ∨ p = w.position m.customer w.now)
    (deed : Deed m p w v result) : v.Remembers I := by
  have kept {customer : String} {e : CacheEntry} (found : w.stored? customer = some e) :
      ∃ q : Position, e.payload = .text q.text ∧ AreTexts q.data ∧ I v.registry q := by
    obtain ⟨q, stored, texts, holds⟩ := remembers customer e found
    exact ⟨q, stored, texts, persists.grows deed.grows holds⟩
  have before : AreTexts p.data ∧ I v.registry p := by
    rcases read with rfl | rfl
    · exact ⟨.nil, persists.empty _⟩
    · obtain ⟨texts, holds⟩ := remembers.position persists m.customer w.now
      exact ⟨texts, persists.grows deed.grows holds⟩
  intro customer e found
  by_cases sender : customer = m.customer
  · subst sender
    rcases deed.own with same | gone | ⟨before', t, q, turns, next, stored⟩
    · exact kept (same ▸ found)
    · rw [gone] at found
      cases found
    · rw [stored] at found
      cases found
      exact ⟨q, rfl, holds_of_turns persists before.1 before.2 turns next⟩
  · exact kept (deed.others sender ▸ found)

/-! ## Runs -/

/-- Two worlds that differ in the time and in what was counted. -/
structure World.Ages (w v : World) : Prop where
  config : v.config = w.config
  registry : v.registry = w.registry
  cache : v.cache = w.cache
  backend : w.backend.Agrees v.backend

instance : Lasting World.Ages where
  refl _ := ⟨rfl, rfl, rfl, Lasting.refl _⟩
  trans h g := ⟨g.config.trans h.config, g.registry.trans h.registry, g.cache.trans h.cache,
    Lasting.trans h.backend g.backend⟩

namespace Happening

variable {result : Except Fault (Response ⊕ Stamp)}

/-- When a message comes in, what the bot does is its deed. -/
theorem deed_of_sent (ran : runFrom w (Happening.sent m).act = (result, v)) :
    ∃ p r, (p = {} ∨ p = w.position m.customer w.now) ∧ Deed m p w v r := by
  unfold act at ran
  rw [runFrom_bind] at ran
  split at ran
  · next response u processed =>
    cases ran
    obtain ⟨p, read, deed⟩ := deed_of_process processed
    exact ⟨p, _, read, deed⟩
  · next fault u processed =>
    cases ran
    obtain ⟨p, read, deed⟩ := deed_of_process processed
    exact ⟨p, _, read, deed⟩

/-- When time passes, nothing else changes. -/
theorem ages_of_passed (micros : Int) : Within World.Ages (Happening.passed micros).act := by
  refine within_bind (within_bind within_get fun w => within_bind ?_ fun clock =>
    within_bind ?_ fun _ => within_pure _) fun _ => within_pure _
  · intro w v result ran
    cases ran
    exact ⟨rfl, rfl, rfl, Lasting.refl _⟩
  · intro w v result ran
    cases ran
    exact ⟨rfl, rfl, rfl, Lasting.refl _⟩

end Happening

theorem World.Remembers.of_ages (remembers : w.Remembers I) (ages : w.Ages v) :
    v.Remembers I := by
  intro customer e found
  unfold World.stored? at found
  rw [ages.cache] at found
  rw [ages.registry]
  exact remembers customer e found

theorem remembers_of_act (persists : Position.Persists I) (remembers : w.Remembers I)
    {h : Happening} {result : Except Fault (Response ⊕ Stamp)}
    (ran : runFrom w h.act = (result, v)) : v.Remembers I := by
  cases h with
  | sent m =>
    obtain ⟨p, r, read, deed⟩ := Happening.deed_of_sent ran
    exact remembers_of_deed persists remembers read deed
  | passed micros => exact remembers.of_ages (Happening.ages_of_passed micros ran)

/-- **Along every run** what is stored has the property. -/
theorem remembers_transcript (persists : Position.Persists I) (remembers : w.Remembers I)
    (events : List Happening) : (w.transcript events).2.Remembers I := by
  induction events generalizing w with
  | nil => exact remembers
  | cons h rest ih =>
    rw [World.transcript_cons]
    exact ih (remembers_of_act persists remembers rfl)

/-- **What is read along a run** from an empty cache has every property that answers keep. -/
theorem holds_of_transcript (persists : Position.Persists I) (empty : w.cache.entries = [])
    (events : List Happening) (customer : String) (now : Instant) :
    AreTexts ((w.transcript events).2.position customer now).data ∧
      I (w.transcript events).2.registry ((w.transcript events).2.position customer now) :=
  (remembers_transcript persists (World.remembers_of_empty empty) events).position persists
    customer now

/-! ## Bots that stay complete -/

/-- A property of worlds holds throughout a run: at the beginning, and after everything that
happens. -/
def World.Throughout (P : World → Prop) (w : World) (events : List Happening) : Prop :=
  ∀ earlier, earlier <+: events → P (w.transcript earlier).2

namespace World.Throughout

variable {P Q : World → Prop} {h : Happening} {events : List Happening}

theorem mono (throughout : World.Throughout P w events) (weaker : ∀ v, P v → Q v) :
    World.Throughout Q w events := fun earlier before => weaker _ (throughout earlier before)

theorem first (throughout : World.Throughout P w events) : P w :=
  throughout [] (List.nil_prefix)

theorem last (throughout : World.Throughout P w events) : P (w.transcript events).2 :=
  throughout events (List.prefix_rfl)

theorem rest (throughout : World.Throughout P w (h :: events)) :
    World.Throughout P (runFrom w h.act).2 events := fun earlier before =>
  throughout (h :: earlier) (List.cons_prefix_cons.2 ⟨rfl, before⟩)

end World.Throughout

/-- **Where nothing is ever left to be loaded**, the registered flows stay what they are. -/
theorem registry_transcript {events : List Happening}
    (complete : w.Throughout World.Complete events) :
    (w.transcript events).2.registry = w.registry := by
  induction events generalizing w with
  | nil => rfl
  | cons h rest ih =>
    rw [World.transcript_cons]
    show ((runFrom w h.act).2.transcript rest).2.registry = _
    rw [ih complete.rest]
    cases h with
    | sent m =>
      obtain ⟨p, r, -, deed⟩ := Happening.deed_of_sent (w := w) (m := m) rfl
      exact deed.complete complete.first
    | passed micros => exact (Happening.ages_of_passed micros (s := w) rfl).registry

/-- Whatever happens leaves a complete bot complete. -/
theorem Happening.abides (h : Happening) : Within World.Abides h.act := by
  cases h with
  | sent m => exact within_bind (abides_process m) fun _ => within_pure _
  | passed micros =>
    intro w v result ran _ _
    have ages := Happening.ages_of_passed micros ran
    exact ⟨ages.registry, ages.backend⟩

theorem World.abides_transcript (w : World) (events : List Happening) :
    w.Abides (w.transcript events).2 := by
  induction events generalizing w with
  | nil => exact Lasting.refl w
  | cons h rest ih =>
    rw [World.transcript_cons]
    exact Lasting.trans (h.abides (s := w) rfl) (ih _)

/-- **A bot that is complete stays so**, where prompts only look things up. -/
theorem World.Complete.throughout (complete : w.Complete)
    (looks : w.registry.EveryPrompt Prompt.Looks) (events : List Happening) :
    w.Throughout World.Complete events := fun earlier _ =>
  have ⟨same, agrees⟩ := w.abides_transcript earlier looks complete
  complete.of_agrees agrees same

/-- Where no definition is stored and prompts only look things up, none is ever stored. -/
theorem World.throughout_unstored (unstored : w.backend.database.flows = [])
    (looks : w.registry.EveryPrompt Prompt.Looks) (events : List Happening) :
    w.Throughout (fun v => v.backend.database.flows = []) events := fun earlier _ =>
  (w.abides_transcript earlier looks (.of_empty unstored)).2.flows.trans unstored

end Dialogue
