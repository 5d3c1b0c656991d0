import Dialogue.Proofs.Conversation.Runs
import Dialogue.Proofs.Conversation.Stale
import Dialogue.Proofs.Flow.Deadline

/-!
# When a flow began

What is stored for a customer says when the flow began, and the deadline is counted from there. A
turn *enters* a flow when it starts the flow, or switches to it from a flow of another code. Only
then is the time noted. A turn that stays in the flow hands the start on as it was, whether it
advances, asks again or switches to the flow it is in, and so does the text in which a position is
stored.

A run is looked at from its beginning: after every happening that keeps a customer in a flow it is
still the same turn that entered the flow.

Main statements: `startedAt_of_turns`, what one turn does with the start;
`remembers_start_of_transcript`, what any run does with it; `deadline_of_transcript`.
-/

namespace Dialogue

open Effect Conversation

namespace Turn

/-- The turn enters a flow: it starts the flow, or switches to it from a flow of another code. -/
def Enters (t : Turn) (before : Position) : Prop :=
  t.status = .started ∨ t.status = .switched ∧ before.flow ≠ some t.flow

/-- The statuses of turns that may stay in a flow. -/
def stayingStatuses : List Status := [.advanced, .reprompted, .invalidInput, .switched]

/-- The turn stays in the flow of a position. -/
structure StaysIn (t : Turn) (before : Position) : Prop where
  flow : before.flow = some t.flow
  status : t.status ∈ stayingStatuses

variable {registry : Registry} {address : Address} {b c : Backend} {p : Position} {t : Turn}

/-- An answer that leaves a flow open stays in the flow or enters another one. -/
theorem staysIn_or_enters {input : String} {kind : InputKind}
    (ran : runFrom b (Turn.answer registry address p input (.ok kind)) = (.ok (some t), c))
    (open_ : t.isCompleted = false) : t.StaysIn p ∨ t.Enters p := by
  obtain ⟨code, flow, step, waits, ran⟩ := waitsAt_of_answer ran
  have inFlow := waits.inFlow
  rcases refuses_or_takes ran with refuses | takes
  · obtain ⟨status, stays⟩ := stays_of_refused inFlow refuses ran
    refine .inl ⟨stays.flow.symm, ?_⟩
    rw [status]
    split <;> decide
  · have goes := goes_of_taken takes ran
    generalize step.rule.resolve (step.normalized input)
      (step.keep (step.normalized input) p.data) = outcome at goes
    cases goes with
    | completes status | transfers status | handsOver _ _ status | misses _ status =>
      rw [isCompleted, status] at open_
      cases open_
    | advances _ _ status leads =>
      refine .inl ⟨inFlow.trans (congrArg some leads.flow.symm), ?_⟩
      rw [status]
      decide
    | switches _ status _ =>
      by_cases same : p.flow = some t.flow
      · refine .inl ⟨same, ?_⟩
        rw [status]
        decide
      · exact .inr (.inr ⟨status, same⟩)

/-- The flow of a turn that leaves it open has a code. -/
theorem ne_empty_of_turns {m : Incoming} {before q : Position} {now : Stamp}
    (turns : m.Turns registry p before t) (next : before.after t.move now = some q) :
    t.flow ≠ "" := by
  have registered : ∃ code flow, t.place.flow = some code ∧ registry.flow? code = some flow := by
    cases turns with
    | starts ran => exact (opens_of_after ran next).1.registered
    | answers ran => exact (leads_of_after ran next).1.registered
  obtain ⟨code, flow, inFlow, registered⟩ := registered
  rw [show t.flow = code from Option.some.inj inFlow]
  exact ne_empty_of_flow? registered

/-- **What a turn does with the start of a flow.** A turn that enters a flow notes the time. Any
other turn stays in the flow that was stored, and keeps its start. -/
theorem startedAt_of_turns {m : Incoming} {before q : Position} {now : Stamp}
    (turns : m.Turns registry p before t) (next : before.after t.move now = some q) :
    q.flow = some t.flow ∧
      (t.Enters before ∧ q.startedAt = some now ∨
        before = p ∧ p.isSet = true ∧ t.StaysIn p ∧
          q.startedAt = some (p.startedAt.getD now)) := by
  obtain ⟨open_, -, inFlow⟩ := of_after_move next
  have flow := inFlow (ne_empty_of_turns turns next)
  have start : q.startedAt = some (before.startAfter (some t.flow) now) := by
    rw [← flow]
    exact (Position.startedAt_after next).1
  refine ⟨flow, ?_⟩
  cases turns with
  | starts ran => exact .inl ⟨.inl (status_of_start ran), start⟩
  | answers ran =>
    rcases staysIn_or_enters ran open_ with stays | enters
    · obtain ⟨code, flow', step, waits, -⟩ := waitsAt_of_answer ran
      refine .inr ⟨rfl, waits.set, stays, start.trans ?_⟩
      unfold Position.startAfter
      rw [if_pos stays.flow.symm]
    · refine .inl ⟨enters, start.trans ?_⟩
      have other : p.flow ≠ some t.flow := by
        rcases enters with started | ⟨-, other⟩
        · exact absurd started (status_of_answer ran)
        · exact other
      unfold Position.startAfter
      rw [if_neg other.symm]

end Turn

/-- The message takes a turn, and the position after the turn is stored. -/
structure Incoming.Stores (m : Incoming) (w v : World) (t : Turn) (before q : Position) : Prop where
  turns : m.Turns v.registry (w.position m.customer w.now) before t
  next : before.after t.move w.clock = some q
  stored : v.stored? m.customer = some ⟨.text q.text, some w.config.stateSeconds, w.now⟩

/-- A customer is in a flow since some time: along a run, the flow was entered then, and whatever
happened after that kept the customer in it. -/
inductive World.Since (w : World) (customer code : String) (start : Stamp) :
    List Happening → Prop
  | enters {events : List Happening} {m : Incoming} {t : Turn} {before q : Position}
      (own : m.customer = customer) (enters : t.Enters before) (into : t.flow = code)
      (then_ : (w.transcript events).2.clock = start)
      (stores : m.Stores (w.transcript events).2 (w.transcript (events ++ [.sent m])).2 t before
        q) : Since w customer code start (events ++ [.sent m])
  | staysIn {events : List Happening} {m : Incoming} {t : Turn} {before q : Position}
      (since : Since w customer code start events) (own : m.customer = customer)
      (stays : t.StaysIn before) (within : t.flow = code)
      (stores : m.Stores (w.transcript events).2 (w.transcript (events ++ [.sent m])).2 t before
        q) : Since w customer code start (events ++ [.sent m])
  | keeps {events : List Happening} {h : Happening} (since : Since w customer code start events)
      (same : (w.transcript (events ++ [h])).2.stored? customer =
        (w.transcript events).2.stored? customer) : Since w customer code start (events ++ [h])

variable {w v : World} {m : Incoming}

/-! ## Runs, from their end -/

theorem World.transcript_append (w : World) (events later : List Happening) :
    (w.transcript (events ++ later)).2 = ((w.transcript events).2.transcript later).2 := by
  induction events generalizing w with
  | nil => rfl
  | cons h rest ih =>
    rw [List.cons_append, World.transcript_cons, World.transcript_cons]
    exact ih _

theorem World.transcript_concat (w : World) (events : List Happening) (h : Happening) :
    (w.transcript (events ++ [h])).2 = (runFrom (w.transcript events).2 h.act).2 := by
  rw [World.transcript_append]
  rfl

/-! ## The clock -/

/-- A clock that is moved on shows stamps of the calendar, or it is not moved. -/
theorem civil_of_advance (civil : w.clock.IsCivil) (micros : Int)
    {result : Except Fault (Response ⊕ Stamp)}
    (ran : runFrom w (Happening.passed micros).act = (result, v)) : v.clock.IsCivil := by
  unfold Happening.act Act.advance at ran
  dsimp only at ran
  rw [runFrom_bind, runFrom_bind_of_ok (runFrom_get w), runFrom_bind, runFrom_lookup] at ran
  cases moved : w.clock.plus micros with
  | error fault =>
    rw [moved] at ran
    cases ran
    exact civil
  | ok clock =>
    rw [moved] at ran
    cases ran
    unfold Stamp.plus at moved
    obtain ⟨passed, -, moved⟩ := bind_eq_ok_iff.1 moved
    dsimp only at moved
    split at moved
    · next inRange =>
      cases moved
      exact ⟨inRange, civil.offset⟩
    · cases moved

/-- The clock goes on showing stamps of the calendar. -/
theorem Happening.civil_of_act {h : Happening} {result : Except Fault (Response ⊕ Stamp)}
    (civil : w.clock.IsCivil) (ran : runFrom w h.act = (result, v)) : v.clock.IsCivil := by
  cases h with
  | sent m =>
    obtain ⟨p, r, -, deed⟩ := Happening.deed_of_sent ran
    rw [deed.clock]
    exact civil
  | passed micros => exact civil_of_advance civil micros ran

theorem civil_transcript (civil : w.clock.IsCivil) (events : List Happening) :
    (w.transcript events).2.clock.IsCivil := by
  induction events generalizing w with
  | nil => exact civil
  | cons h rest ih =>
    rw [World.transcript_cons]
    exact ih (Happening.civil_of_act civil rfl)

/-! ## What is stored -/

theorem Position.persists_any : Position.Persists fun _ _ => True :=
  ⟨fun _ => trivial, fun _ _ => trivial, fun _ _ => trivial, fun _ => trivial, fun _ _ _ => trivial⟩

/-- Whatever is stored for a customer says since when the customer is in a flow. -/
def World.Dates (w : World) (events : List Happening) : Prop :=
  ∀ customer e, (w.transcript events).2.stored? customer = some e →
    ∃ (q : Position) (code : String) (start : Stamp), e.payload = .text q.text ∧ AreTexts q.data ∧
      q.flow = some code ∧ q.startedAt = some start ∧ start.IsCivil ∧
      w.Since customer code start events

/-- What is read is nothing, or what is stored, and then it says the same. -/
theorem World.Dates.position {events : List Happening} (dates : w.Dates events) (customer : String)
    (now : Instant) :
    (w.transcript events).2.position customer now = {} ∨
      ∃ code start, ((w.transcript events).2.position customer now).flow = some code ∧
        ((w.transcript events).2.position customer now).startedAt = some start ∧
        start.IsCivil ∧ AreTexts ((w.transcript events).2.position customer now).data ∧
        w.Since customer code start events := by
  unfold World.position
  cases found : (w.transcript events).2.cache.text? now (Position.cacheKey customer) with
  | none => exact .inl rfl
  | some text =>
    obtain ⟨e, entry, -, payload⟩ := Cache.exists_entry_of_text? found
    obtain ⟨q, code, start, stored, texts, inFlow, began, civil, since⟩ := dates customer e entry
    obtain rfl : q.text = text := Payload.text.inj (stored.symm.trans payload)
    have reads : Position.ofText q.text = .good q := by
      refine Position.ofText_of_texts texts ?_
      rw [began]
      rintro _ ⟨⟩
      exact civil
    have read : Position.ofCached? (some q.text) = q := by
      unfold Position.ofCached?
      rw [Option.bind_some, reads]
      rfl
    rw [read]
    exact .inr ⟨code, start, inFlow, began, civil, texts, since⟩

/-- Nothing is stored where nothing was. -/
theorem World.dates_nil (empty : w.cache.entries = []) : w.Dates [] := by
  intro customer e found
  unfold World.stored? at found
  rw [show (w.transcript []).2.cache.entries = [] from empty] at found
  cases found

/-- Where no position is set, there is nothing to answer. -/
theorem Incoming.Turns.of_empty {registry : Registry} {before : Position} {t : Turn}
    (turns : m.Turns registry {} before t) (p : Position) : m.Turns registry p before t := by
  cases turns with
  | starts ran => exact .starts ran
  | answers ran =>
    obtain ⟨code, flow, step, waits, -⟩ := Turn.waitsAt_of_answer ran
    cases waits.set

/-- **A message that stores a position** stores one that tells since when the sender is in its
flow. -/
theorem World.Dates.since_of_stores {events : List Happening} (civil : w.clock.IsCivil)
    (dates : w.Dates events) {t : Turn} {before q : Position}
    (stores : m.Stores (w.transcript events).2 (w.transcript (events ++ [.sent m])).2 t before q) :
    AreTexts q.data ∧ ∃ start, q.flow = some t.flow ∧ q.startedAt = some start ∧ start.IsCivil ∧
      w.Since m.customer t.flow start (events ++ [.sent m]) := by
  have read := dates.position m.customer (w.transcript events).2.now
  have known : AreTexts ((w.transcript events).2.position m.customer
      (w.transcript events).2.now).data := by
    rcases read with none_ | ⟨code, start, -, -, -, texts, -⟩
    · rw [none_]
      exact .nil
    · exact texts
  refine ⟨(holds_of_turns Position.persists_any known trivial stores.turns stores.next).1, ?_⟩
  -- A turn that enters a flow begins now. One that stays keeps the start that was read before it,
  -- and a start that is read was stored.
  obtain ⟨inFlow, ⟨enters, began⟩ | ⟨rfl, set, stays, began⟩⟩ :=
    Turn.startedAt_of_turns stores.turns stores.next
  · exact ⟨_, inFlow, began, civil_transcript civil events, .enters rfl enters rfl rfl stores⟩
  · rcases read with none_ | ⟨code, start, within, begun, civil, -, since⟩
    · rw [none_] at set
      cases set
    · obtain rfl : code = t.flow := Option.some.inj (within.symm.trans stays.flow)
      rw [begun, Option.getD_some] at began
      exact ⟨start, inFlow, began, civil, .staysIn since rfl stays rfl stores⟩

/-- **What is stored goes on telling** since when a customer is in a flow, whatever happens. -/
theorem World.Dates.concat {events : List Happening} (civil : w.clock.IsCivil)
    (dates : w.Dates events) (h : Happening) : w.Dates (events ++ [h]) := by
  have ran : runFrom (w.transcript events).2 h.act =
      (_, (w.transcript (events ++ [h])).2) := Prod.ext rfl (w.transcript_concat events h).symm
  intro customer e found
  have kept (same : (w.transcript (events ++ [h])).2.stored? customer =
      (w.transcript events).2.stored? customer) :
      ∃ (q : Position) (code : String) (start : Stamp), e.payload = .text q.text ∧
        AreTexts q.data ∧ q.flow = some code ∧ q.startedAt = some start ∧ start.IsCivil ∧
        w.Since customer code start (events ++ [h]) := by
    obtain ⟨q, code, start, stored, texts, inFlow, began, civil, since⟩ :=
      dates customer e (same ▸ found)
    exact ⟨q, code, start, stored, texts, inFlow, began, civil, .keeps since same⟩
  cases h with
  | passed micros =>
    refine kept ?_
    unfold World.stored?
    rw [(Happening.ages_of_passed micros ran).cache]
  | sent m =>
    obtain ⟨p, r, read, deed⟩ := Happening.deed_of_sent ran
    by_cases own : customer = m.customer
    · subst own
      rcases deed.own with same | gone | ⟨before, t, q, turns, next, stored⟩
      · exact kept same
      · rw [gone] at found
        cases found
      · rw [stored] at found
        cases found
        have turns : m.Turns (w.transcript (events ++ [.sent m])).2.registry
            ((w.transcript events).2.position m.customer (w.transcript events).2.now) before t := by
          rcases read with rfl | rfl
          · exact turns.of_empty _
          · exact turns
        obtain ⟨texts, start, inFlow, began, civil, since⟩ :=
          dates.since_of_stores civil ⟨turns, next, stored⟩
        exact ⟨q, t.flow, start, rfl, texts, inFlow, began, civil, since⟩
    · exact kept (deed.others own)

theorem World.dates_of_empty (empty : w.cache.entries = []) (civil : w.clock.IsCivil)
    (events : List Happening) : w.Dates events := by
  induction events using List.reverseRecOn with
  | nil => exact World.dates_nil empty
  | append_singleton events h ih => exact ih.concat civil h

/-- **The deadline is exact and fixed.** A position in a registered flow counts as long as no more
than the minutes of the flow have passed since the flow began, to the microsecond, whatever clock
showed that moment. Along every run from an empty cache, whatever messages come in, whatever time
passes and whatever fails, the start that is stored for a customer is the time of the turn that
started the flow or last switched to it from a flow of another code. -/
theorem deadline_of_transcript :
    (∀ {registry : Registry} {code : String} {flow : Flow} {p : Position} {stamp : Stamp}
      (usualMinutes : Int) (now : Instant), p.isSet = true → p.flow = some code →
      registry.flow? code = some flow → p.startedAt = some stamp →
      Time.inRange stamp.moment = true → Time.IsLength (flow.minutes * Time.minute) →
      Turn.isActive registry usualMinutes now p =
          .ok (decide (now - stamp.moment ≤ flow.minutes * Time.minute)) ∧
        ∀ stamp' : Stamp, stamp'.moment = stamp.moment →
          Turn.isActive registry usualMinutes now { p with startedAt := some stamp' } =
            Turn.isActive registry usualMinutes now p) ∧
    (∀ {w : World}, w.cache.entries = [] → w.clock.IsCivil →
      ∀ (events : List Happening) (customer : String) (now : Instant),
        ((w.transcript events).2.position customer now).isSet = true →
        ∃ code start, ((w.transcript events).2.position customer now).flow = some code ∧
          ((w.transcript events).2.position customer now).startedAt = some start ∧
          w.Since customer code start events) := by
  constructor
  · intro registry code flow p stamp usualMinutes now set inFlow registered began dated short
    refine ⟨Turn.isActive_of_moment set inFlow registered began dated short now,
      fun stamp' same => ?_⟩
    have compared : Turn.isActive registry usualMinutes now { p with startedAt := some stamp } =
        Turn.isActive registry usualMinutes now { p with startedAt := some stamp' } :=
      Turn.isActive_of_sameMoment same.symm dated now
    rw [← compared, ← began]
  · intro w empty civil events customer now set
    rcases (World.dates_of_empty empty civil events).position customer now with
      none_ | ⟨code, start, inFlow, began, -, -, since⟩
    · rw [none_] at set
      cases set
    · exact ⟨code, start, inFlow, began, since⟩

/-- A bot that opens with a flow of half an hour. -/
def foyer : World where
  config := { cancelCommands := [] }
  clock := ⟨0, none⟩
  opening := "lobby"
  registry := [("lobby", lobby)]

/-- What is stored for the customer who wrote to the bot, five microseconds later. -/
theorem position_foyer :
    (foyer.transcript [.sent tap, .passed 5]).2.position "549" 5 = nap := by
  have stored : (foyer.transcript [.sent tap, .passed 5]).2.stored? "549" =
      some ⟨.text nap.text, some 86400, 0⟩ := rfl
  have civil : ∀ stamp ∈ nap.startedAt, stamp.IsCivil := by
    rintro _ ⟨⟩
    exact ⟨by decide, nofun⟩
  exact World.position_of_entry stored rfl .nil civil

theorem deadline_of_transcript_foyer :
    Time.inRange (⟨0, none⟩ : Stamp).moment = true ∧
      Time.IsLength (lobby.minutes * Time.minute) ∧
      Turn.isActive foyer.registry 60 (30 * Time.minute) nap = .ok true ∧
      Turn.isActive foyer.registry 60 (30 * Time.minute + 1) nap = .ok false ∧
      foyer.cache.entries = [] ∧ foyer.clock.IsCivil ∧
      ∃ code start, ((foyer.transcript [.sent tap, .passed 5]).2.position "549" 5).flow =
          some code ∧
        ((foyer.transcript [.sent tap, .passed 5]).2.position "549" 5).startedAt = some start ∧
        foyer.Since "549" code start [.sent tap, .passed 5] := by
  obtain ⟨exact_, fixed⟩ := deadline_of_transcript
  have dated : Time.inRange (⟨0, none⟩ : Stamp).moment = true := by decide
  have short : Time.IsLength (lobby.minutes * Time.minute) := ⟨by decide, by decide⟩
  have civil : foyer.clock.IsCivil := ⟨by decide, nofun⟩
  have counts (now : Instant) :=
    (@exact_ foyer.registry "lobby" lobby nap ⟨0, none⟩ 60 now rfl rfl rfl rfl dated short).1
  have set : ((foyer.transcript [.sent tap, .passed 5]).2.position "549" 5).isSet = true := by
    rw [position_foyer]
    rfl
  exact ⟨dated, short, counts _, counts _, rfl, civil, fixed rfl civil _ "549" 5 set⟩

end Dialogue
