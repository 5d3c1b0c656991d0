import Dialogue.Proofs.Conversation.Runs
import Dialogue.Proofs.Conversation.Stale
import Dialogue.Proofs.Flow.Deadline

/-!
# Conversations that are stuck

A message is answered only after the deadline of the stored position was judged. Where it cannot be
judged, every message of the customer fails in the same way, and the position stays as it was, so
the next message fails as well. Only a command to cancel comes through.

The check of a definition asks for a positive number of minutes and for nothing more, so the flow of
an accepted definition may have minutes that make no length of time.

Main statements: `transcript_of_fault`, a customer who is stuck stays so; `judged_or_stuck`.
-/

namespace Dialogue

open Effect Conversation

/-! ## Minutes that were accepted -/

/-- Positive minutes can be handled up to a billion days. -/
theorem Time.isLength_minutes_iff {minutes : Int} (positive : 0 < minutes) :
    IsLength (minutes * minute) ↔ minutes < 1440000000000 := by
  have unit : minute = 60000000 := rfl
  have units : day = 86400000000 := rfl
  unfold IsLength greatestDays
  rw [unit, units]
  omega

/-- **Among accepted definitions**, those of less than a billion days have deadlines that can be
judged. -/
theorem Position.judgeable_iff_of_accepted {d : Definition} {source : Definition.OptionSource}
    {known : Definition.Known} {flow : Flow} {registry : Registry} {p : Position} {stamp : Stamp}
    (made : d.toFlow? source known = .ok (some flow)) (set : p.isSet = true)
    (inFlow : p.flow = some d.code) (registered : registry.flow? d.code = some flow)
    (began : p.startedAt = some stamp) (dated : stamp.instant? ≠ none) (usualMinutes : Int) :
    p.Judgeable registry usualMinutes ↔ d.minutes < 1440000000000 := by
  have same := Flow.minutes_of_toFlow? made
  have minutes : p.minutes registry usualMinutes = d.minutes := by
    unfold Position.minutes
    rw [inFlow, Option.getD_some, registered, ← same]
    rfl
  rw [← Time.isLength_minutes_iff (same ▸ flow.minutes_pos), ← minutes]
  constructor
  · intro judged
    exact (judged set stamp began).2
  · rintro short - stamp' began'
    obtain rfl : stamp = stamp' := Option.some.inj (began.symm.trans began')
    exact ⟨dated, short⟩

/-! ## Messages -/

namespace Conversation

variable {m : Incoming} {w : World} {customer : String} {fault : Fault}

/-- A message fails where the deadline cannot be judged, and nothing is used but the cache. -/
theorem runFrom_process_of_fault (works : w.cache.Works)
    (stops : verdict w (w.position m.customer w.now) = .error fault)
    (answers : m.cancels w.config.cancelCommands = false) :
    ∃ b, runFrom w (process m) =
      (.error fault, { w with backend := b, cache := w.cache.used }) := by
  obtain ⟨b, -, routed⟩ := runFrom_respond works m
  have stops' : verdict { w with backend := b, cache := w.cache.used }
      (w.position m.customer w.now) = .error fault := stops
  refine ⟨b, runFrom_bind_of_error ?_⟩
  rw [routed]
  unfold proceed
  rw [answers, if_neg Bool.false_ne_true]
  exact runFrom_bind_of_error (runFrom_current_of_fault stops')

/-- **A customer who is stuck stays so**: one message after the other fails, and the same position
is stored. -/
theorem transcript_of_fault (works : w.cache.Works)
    (stops : verdict w (w.position customer w.now) = .error fault) {ms : List Incoming}
    (each : ∀ m ∈ ms, m.customer = customer ∧ m.cancels w.config.cancelCommands = false) :
    (w.transcript (ms.map .sent)).1 = ms.map (fun m => (.sent m, .error fault)) ∧
      ∀ now, (w.transcript (ms.map .sent)).2.position customer now = w.position customer now := by
  induction ms generalizing w with
  | nil => exact ⟨rfl, fun _ => rfl⟩
  | cons m rest ih =>
    obtain ⟨rfl, answers⟩ := each m List.mem_cons_self
    obtain ⟨b, failed⟩ := runFrom_process_of_fault works stops answers
    have act : runFrom w (Happening.sent m).act =
        (.error fault, { w with backend := b, cache := w.cache.used }) :=
      runFrom_bind_of_error failed
    -- The message has changed neither the position nor the registered flows nor the clock, so the
    -- next one meets the same fault.
    have later := ih (w := { w with backend := b, cache := w.cache.used })
      ⟨works.connected, works.up⟩ stops fun m' mem => each m' (List.mem_cons_of_mem _ mem)
    rw [List.map_cons, List.map_cons, World.transcript_cons, act]
    exact ⟨congrArg _ later.1, later.2⟩

end Conversation

/-- **When the deadline can be judged.** For any registered flows, any text in the cache and any
time, there is a verdict exactly where the start of the flow is a moment of the calendar and its
minutes can be handled. Among the flows of accepted definitions those of less than a billion days
can be judged, and no others. Without a verdict the customer is stuck: every message that is no
command to cancel fails, and the position stays. -/
theorem judged_or_stuck (registry : Registry) (usualMinutes : Int) (now : Instant)
    (text? : Option String) :
    ((∃ active, Turn.isActive registry usualMinutes now (Position.ofCached? text?) = .ok active) ↔
      (Position.ofCached? text?).Judgeable registry usualMinutes) ∧
    (∀ {d : Definition} {known : Definition.Known} {flow : Flow} {stamp : Stamp},
      d.toFlow? Store.options known = .ok (some flow) → registry.flow? d.code = some flow →
      (Position.ofCached? text?).isSet = true → (Position.ofCached? text?).flow = some d.code →
      (Position.ofCached? text?).startedAt = some stamp → stamp.instant? ≠ none →
      ((∃ active,
        Turn.isActive registry usualMinutes now (Position.ofCached? text?) = .ok active) ↔
          d.minutes < 1440000000000)) ∧
    (∀ {w : World} {customer : String}, w.cache.Works → w.registry = registry →
      w.config.usualMinutes = usualMinutes →
      w.position customer w.now = Position.ofCached? text? →
      ¬(Position.ofCached? text?).Judgeable registry usualMinutes →
      ∃ fault, ∀ ms : List Incoming,
        (∀ m ∈ ms, m.customer = customer ∧ m.cancels w.config.cancelCommands = false) →
        (w.transcript (ms.map .sent)).1 = ms.map (fun m => (.sent m, .error fault)) ∧
          ∀ now, (w.transcript (ms.map .sent)).2.position customer now =
            w.position customer now) := by
  have returns := Turn.isActive_returns_iff registry usualMinutes now (Position.ofCached? text?)
  refine ⟨returns, fun made registered set inFlow began dated => returns.trans
    (Position.judgeable_iff_of_accepted made set inFlow registered began dated usualMinutes), ?_⟩
  rintro w customer works rfl rfl read stuck
  rw [← read] at stuck
  cases judged : verdict w (w.position customer w.now) with
  | ok active => exact absurd ((Turn.isActive_returns_iff _ _ _ _).1 ⟨active, judged⟩) stuck
  | error fault => exact ⟨fault, fun ms each => Conversation.transcript_of_fault works judged each⟩

/-- A definition whose flow has a billion days. -/
def eternity : Definition :=
  { Definition.plain "eternity" [.plain "hello" "Hello"] with minutes := 1440000000000 }

/-- A position in its flow. -/
def waiting : Position := ⟨some "eternity", some "hello", [], some ⟨0, none⟩⟩

theorem ofCached?_waiting : Position.ofCached? (some waiting.text) = waiting := by
  have civil : ∀ stamp ∈ waiting.startedAt, stamp.IsCivil := by
    rintro _ ⟨⟩
    exact ⟨by decide, nofun⟩
  unfold Position.ofCached?
  rw [Option.bind_some, Position.ofText_text rfl civil]
  rfl

/-- The definition passes the check, so it has a flow. -/
theorem exists_flow_eternity :
    ∃ flow, eternity.toFlow? Store.options none = .ok (some flow) := ⟨_, by cbv⟩

/-- A bot that has registered a flow for the definition and keeps the position. -/
def eternal (flow : Flow) : World where
  config := { cancelCommands := ["cancelar"] }
  clock := ⟨60 * Time.minute, none⟩
  opening := "eternity"
  cache := Cache.write {} (Position.cacheKey "549") ⟨.text waiting.text, none, 0⟩
  registry := [("eternity", flow)]

theorem position_eternal (flow : Flow) (now : Instant) :
    (eternal flow).position "549" now = waiting := by
  have read : (eternal flow).cache.text? now (Position.cacheKey "549") = some waiting.text :=
    Cache.text?_write_self waiting.text_ne_empty (Bool.or_true _)
  unfold World.position
  rw [read, ofCached?_waiting]

theorem judged_or_stuck_eternal :
    ∃ flow, eternity.toFlow? Store.options none = .ok (some flow) ∧
      ((∃ active, Turn.isActive (eternal flow).registry 30 0
        (Position.ofCached? (some waiting.text)) = .ok active) ↔
          eternity.minutes < 1440000000000) ∧
      (eternal flow).cache.Works ∧
      ∃ fault, ((eternal flow).transcript [.sent tap, .sent tap]).1 =
        [(.sent tap, .error fault), (.sent tap, .error fault)] := by
  obtain ⟨flow, made⟩ := exists_flow_eternity
  have works : (eternal flow).cache.Works := ⟨rfl, fun _ => rfl⟩
  have read : (eternal flow).position "549" (eternal flow).now =
      Position.ofCached? (some waiting.text) := by
    rw [position_eternal, ofCached?_waiting]
  obtain ⟨returns, among, stuck⟩ :=
    judged_or_stuck (eternal flow).registry 30 0 (some waiting.text)
  have accepted := @among eternity none flow ⟨0, none⟩
  rw [ofCached?_waiting] at returns among stuck accepted read ⊢
  have blocked : ¬waiting.Judgeable (eternal flow).registry 30 := by
    intro judged
    have short := (accepted made rfl rfl rfl rfl nofun).1 (returns.2 judged)
    exact absurd short (by decide)
  obtain ⟨fault, fails⟩ := @stuck (eternal flow) "549" works rfl rfl read blocked
  refine ⟨flow, made, accepted made rfl rfl rfl rfl nofun, works, fault,
    (fails [tap, tap] fun m mem => ?_).1⟩
  obtain rfl : m = tap := by simpa using mem
  exact ⟨rfl, rfl⟩

/-- An accepted definition, a position in its flow that is read from the cache, and no verdict. -/
theorem not_judged_eternity :
    ∃ flow, eternity.toFlow? Store.options none = .ok (some flow) ∧
      ∀ now, Turn.isActive [("eternity", flow)] 30 now
        (Position.ofCached? (some waiting.text)) = .error (.tooManyDays 1000000000) := by
  obtain ⟨flow, made⟩ := exists_flow_eternity
  refine ⟨flow, made, fun now => ?_⟩
  have minutes : waiting.minutes [("eternity", flow)] 30 = 1440000000000 :=
    Flow.minutes_of_toFlow? made
  have dated : (⟨0, none⟩ : Stamp).instant? = some 0 := rfl
  rw [ofCached?_waiting, Turn.isActive_of_instant rfl rfl dated, minutes]
  rfl

end Dialogue
