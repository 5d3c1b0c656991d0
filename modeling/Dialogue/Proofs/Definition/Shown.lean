import Mathlib
import Dialogue.Proofs.Definition.Accepted
import Dialogue.Proofs.Definition.Named
import Dialogue.Proofs.Effect
import Dialogue.Proofs.Flow.Turns
import Dialogue.Store.Directory

/-!
# The step shown and the step answered

A turn names the step it shows by the id of the step alone, and the next answer is taken at the
bearer of that id. So the step that is shown takes the answer as long as no later step goes by its
id, which the check leaves to the author.

Main statement: `answers_shown_of_check`.
-/

namespace Dialogue.Definition

open Effect

variable {d : Definition} {source : OptionSource} {flow : Flow} {registry : Registry}
  {code : String}

/-- The initial step of the flow is the bearer of its id. -/
theorem initialStep_eq {first : Step} (steps : flow.steps = d.stepTable source)
    (initial : flow.initial = first.key) :
    ∃ s, d.bearer? first.key = some s ∧ flow.initialStep = s.toStep source := by
  have found := flow.step?_initial
  rw [Flow.step?, steps, initial, get?_stepTable] at found
  obtain ⟨s, bearer, shown⟩ := Option.map_eq_some_iff.1 found
  exact ⟨s, bearer, shown.symm⟩

/-- A turn that stands in the flow of a definition shows one of the definition's steps. -/
theorem shows_of_stands {b : Backend} {address : Address} {t : Turn} {name : String}
    {step : Dialogue.Step} (steps : flow.steps = d.stepTable source)
    (stands : t.Stands registry b address flow name step) :
    ∃ s ∈ d.steps, t.Shows b address (s.toStep source) ∧ t.step = some s.key := by
  have found := stands.found
  rw [Flow.step?, steps, get?_stepTable] at found
  obtain ⟨s, bearer, rfl⟩ := Option.map_eq_some_iff.1 found
  exact ⟨s, (bearer?_mem bearer).1, stands.shows, stands.waits⟩

/-- The bearer of the id that a turn names takes the next answer. -/
theorem answer_at_bearer {t : Turn} {s u : Step} (steps : flow.steps = d.stepTable source)
    (registered : registry.flow? t.flow = some flow) (unfinished : t.isCompleted = false)
    (waits : t.step = some s.key) (named : s.key ≠ "") (bearer : d.bearer? s.key = some u)
    (p : Position) (now : Stamp) :
    ∃ q, p.after t.move now = some q ∧ q.isSet = true ∧ ∀ address answer kind,
      Turn.answer registry address q answer (.ok kind) =
        Turn.respond registry address t.flow flow (u.toStep source) q.data answer kind := by
  obtain ⟨q, next, atFlow, atStep, set⟩ := Turn.after_move unfinished
    (Turn.ne_empty_of_flow? registered) waits named p now
  have found : flow.step? s.key = some (u.toStep source) := by
    rw [Flow.step?, steps, get?_stepTable, bearer, Option.map_some]
  exact ⟨q, next, set, Turn.answer_eq_respond atFlow atStep set registered found⟩

/-- **The step shown takes the answer.** The flow of an accepted definition starts with the bearer
of the id of the designated step. Every unfinished turn in the flow shows a step of the definition;
if its id is not empty, the position after the turn is set, and the bearer of the id takes the next
answer. A step that shares its id with no other step is the bearer of it. -/
theorem answers_shown_of_check (d : Definition) (source : OptionSource) (known : Known)
    (accepted : d.check known = .ok none) :
    ∃ flow first, d.toFlow? source known = .ok (some flow) ∧ d.initial? = some first ∧
      ∀ (registry : Registry) (code : String), registry.flow? code = some flow →
        (∃ s, d.bearer? first.key = some s ∧ (d.OwnsKey first → s = first) ∧
          ∀ address data, Turn.start registry address (some code) data = do
            let message ← Turn.render address (s.toStep source) data
            Lookup.note (.turn code "started")
            return some ⟨.started, message, code, some s.key, data⟩) ∧
        ∀ address b c t,
          ((∃ data, runFrom b (Turn.start registry address (some code) data) =
              (.ok (some t), c)) ∨
            ∃ p answer kind, runFrom b (Turn.answer registry address p answer kind) =
              (.ok (some t), c)) →
          t.isCompleted = false → t.flow = code →
            ∃ s ∈ d.steps, t.Shows b address (s.toStep source) ∧ t.step = some s.key ∧
              (s.key ≠ "" → ∃ u, d.bearer? s.key = some u ∧ (d.OwnsKey s → u = s) ∧
                ∀ (p : Position) now, ∃ q, p.after t.move now = some q ∧ q.isSet = true ∧
                  ∀ address answer kind,
                    Turn.answer registry address q answer (.ok kind) =
                      Turn.respond registry address code flow (u.toStep source) q.data answer
                        kind) := by
  have ok := check_eq_none_iff.1 accepted
  obtain ⟨first, begins⟩ := ok.begins
  obtain ⟨flow, made, steps, initial⟩ := toFlow_eq source begins ok.timed
  have built : d.toFlow? source known = .ok (some flow) := by
    simp only [toFlow?, accepted, made]
    rfl
  refine ⟨flow, first, built, begins, fun registry code registered => ⟨?_, ?_⟩⟩
  · obtain ⟨s, bearer, shown⟩ := initialStep_eq steps initial
    refine ⟨s, bearer, fun own => eq_of_bearer?_key own bearer, fun address data => ?_⟩
    rw [Turn.start_eq registered, shown]
    rfl
  · rintro address b c t ran unfinished rfl
    have stands : ∃ flow' name step, t.Stands registry b address flow' name step := by
      rcases ran with ⟨data, ran⟩ | ⟨p, answer, kind, ran⟩
      · obtain ⟨-, flow', stands⟩ := Turn.stands_of_start ran
        exact ⟨flow', _, _, stands⟩
      · rcases Turn.settled_of_answer ran with completed | stands
        · rw [unfinished] at completed
          simp at completed
        · exact stands
    -- A turn that switches elsewhere is not in the flow, so it is the same flow that stands.
    obtain ⟨flow', name, step, stands⟩ := stands
    obtain rfl : flow = flow' := Option.some.inj (registered.symm.trans stands.registered)
    obtain ⟨s, hs, shows, waits⟩ := shows_of_stands steps stands
    refine ⟨s, hs, shows, waits, fun named => ?_⟩
    obtain ⟨u, bearer⟩ := exists_bearer?_key hs
    exact ⟨u, bearer, fun own => eq_of_bearer?_key own bearer,
      answer_at_bearer steps registered unfinished waits named bearer⟩

set_option maxRecDepth 20000 in
theorem answers_shown_of_check_survey :
    survey.check (some ["main_menu"]) = .ok none ∧
      ∃ flow, ∃ s : Step, survey.toFlow? Store.options (some ["main_menu"]) = .ok (some flow) ∧
        s.body = "Which?" ∧
        ∀ address data, Turn.start [("sales", flow)] address (some "sales") data = do
          let message ← Turn.render address (s.toStep Store.options) data
          Lookup.note (.turn "sales" "started")
          return some ⟨.started, message, "sales", some "ask", data⟩ := by
  have accepted : survey.check (some ["main_menu"]) = .ok none := by cbv
  obtain ⟨flow, first, built, begins, shown⟩ :=
    answers_shown_of_check survey Store.options _ accepted
  obtain ⟨⟨s, bearer, -, starts⟩, -⟩ := shown [("sales", flow)] "sales" rfl
  have designated : survey.initial?.map Step.key = some "ask" := by cbv
  have written : (survey.bearer? "ask").map (fun s => (s.key, s.body)) =
      some ("ask", "Which?") := by cbv
  rw [begins, Option.map_some, Option.some.injEq] at designated
  rw [designated] at bearer
  simp only [bearer, Option.map_some, Option.some.injEq, Prod.mk.injEq] at written
  rw [written.1] at starts
  exact ⟨accepted, flow, s, built, written.2, starts⟩

/-- A definition whose second step has the id of the first for a code. -/
def crossed : Definition :=
  plain "crossed"
    [{ Step.plain "hello" "Hello" with id := some "bye" },
      { Step.plain "bye" "Bye" with order := 1 }]

/-- A definition with a step that has neither an id nor a code. -/
def unnamed : Definition := plain "unnamed" [Step.plain "" "Hello"]

set_option maxRecDepth 20000 in
/-- Both definitions are accepted. The flow of one starts with a step that is not the designated
one; a start of the other leaves no position. -/
theorem start_crossed_unnamed :
    (crossed.check none = .ok none ∧
      ∃ flow first c, crossed.toFlow? Store.options none = .ok (some flow) ∧
        crossed.initial? = some first ∧
        runFrom {} (Turn.render ⟨"549", none⟩ (first.toStep Store.options) []) =
          (.ok ⟨"549", .ofText "Hello", none⟩, {}) ∧
        runFrom {} (Turn.start [("crossed", flow)] ⟨"549", none⟩ (some "crossed") []) =
          (.ok (some ⟨.started, ⟨"549", .ofText "Bye", none⟩, "crossed", some "bye", []⟩), c)) ∧
    unnamed.check none = .ok none ∧
      ∃ flow t c, unnamed.toFlow? Store.options none = .ok (some flow) ∧
        runFrom {} (Turn.start [("unnamed", flow)] ⟨"549", none⟩ (some "unnamed") []) =
          (.ok (some t), c) ∧
        t.isCompleted = false ∧ t.flow = "unnamed" ∧
        ∀ (p : Position) now, p.after t.move now = none := by
  refine ⟨⟨by cbv, _, _, _, by cbv, by cbv, by cbv, by cbv⟩,
    by cbv, _, _, _, by cbv, by cbv, by cbv, by cbv, fun p now => ?_⟩
  exact (Position.after_eq_none_iff ..).2 (.inr rfl)

end Dialogue.Definition
