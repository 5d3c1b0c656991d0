import Mathlib
import Dialogue.Flow.Turn
import Dialogue.Proofs.Definition.Accepted
import Dialogue.Proofs.Definition.Named
import Dialogue.Proofs.Effect
import Dialogue.Store.Directory

/-!
# Flows of accepted definitions

An accepted definition becomes a flow with the same step names, and every rule of the flow leads to
a step that is there or to a flow that the definition may switch to. The engine ends a flow that
goes on to a step it does not have. To say that this never happens, the engine is written with that
branch left open: in the flow of an accepted definition, what stands in the branch makes no
difference.

Main statement: `load_leads_of_check`.
-/

namespace Dialogue

open Effect

namespace Turn

variable {registry : Registry} {address : Address} {code : String} {flow : Flow} {data : Fields}

/-! ## A gap in the engine -/

/-- Goes where an outcome leads, with `gap` for a step that does not exist. -/
def followOr (gap : Fields → Lookup (Option Turn)) (registry : Registry) (address : Address)
    (code : String) (flow : Flow) (data : Fields) : Outcome → Lookup (Option Turn)
  | .next key =>
    match flow.step? key with
    | some step => some <$> advance address code step data
    | none => gap data
  | outcome => follow registry address code flow data outcome

/-- The turn of an answer to a step, with `gap` for a next step that does not exist. -/
def respondOr (gap : Fields → Lookup (Option Turn)) (registry : Registry) (address : Address)
    (code : String) (flow : Flow) (step : Step) (data : Fields) (answer : String)
    (kind : InputKind) : Lookup (Option Turn) := do
  if !step.expects.accepts kind then
    return some (← restate address code step data .reprompted none)
  let value := step.normalized answer
  if !(← Lookup.ofExcept (step.check value)) then
    return some (← restate address code step data .invalidInput (complaint step))
  let data := step.keep value data
  followOr gap registry address code flow data (step.rule.resolve value data)

/-- The turn of an answer at a position, with `gap` for a next step that does not exist. -/
def answerOr (gap : Fields → Lookup (Option Turn)) (registry : Registry) (address : Address)
    (p : Position) (answer : String) (kind : Except Fault InputKind) :
    Lookup (Option Turn) := do
  if !p.isSet then return none
  let code := p.flow.getD ""
  match registry.flow? code with
  | none =>
    Lookup.note (.misconfigured "unknown_flow")
    return none
  | some flow =>
    match flow.step? (p.step.getD "") with
    | none =>
      Lookup.note (.misconfigured "missing_step")
      return none
    | some step =>
      respondOr gap registry address code flow step p.data answer (← Lookup.ofExcept kind)

/-- What the engine does about a next step that does not exist: it ends the flow. -/
def endAtGap (address : Address) (code : String) (data : Fields) : Lookup (Option Turn) := do
  Lookup.note (.misconfigured "missing_step")
  some <$> complete address code data

theorem followOr_endAtGap (outcome : Outcome) :
    followOr (endAtGap address code) registry address code flow data outcome =
      follow registry address code flow data outcome := by
  cases outcome <;> rfl

theorem respondOr_endAtGap (step : Step) (answer : String) (kind : InputKind) :
    respondOr (endAtGap address code) registry address code flow step data answer kind =
      respond registry address code flow step data answer kind := by
  unfold respondOr respond
  simp only [followOr_endAtGap]

/-- The engine is the one whose gap ends the flow. -/
theorem answerOr_endAtGap (p : Position) (answer : String) (kind : Except Fault InputKind) :
    answerOr (endAtGap address (p.flow.getD "")) registry address p answer kind =
      Turn.answer registry address p answer kind := by
  unfold answerOr Turn.answer
  cases found : registry.flow? (p.flow.getD "") with
  | none => simp only [found]
  | some flow =>
    cases at_ : flow.step? (p.step.getD "") with
    | none => simp only [found, at_]
    | some step => simp only [found, at_, respondOr_endAtGap]

theorem followOr_of_within (gap : Fields → Lookup (Option Turn)) (registry : Registry)
    (address : Address) (code : String) (data : Fields) {isFlow : String → Prop}
    {outcome : Outcome} (within : outcome.Within (fun key => flow.steps.has key = true) isFlow) :
    followOr gap registry address code flow data outcome =
      follow registry address code flow data outcome := by
  cases outcome with
  | next key =>
    obtain ⟨step, found⟩ := (Table.has_iff _ _).1 within
    simp only [followOr, follow, Flow.step?, found]
  | switchTo target => rfl
  | transfer => rfl
  | complete => rfl

/-- Where all rules lead to steps that are there, the gap is never met. -/
theorem answerOr_eq_answer (gap : Fields → Lookup (Option Turn)) {isFlow : String → Prop}
    (p : Position) (answer : String) (kind : Except Fault InputKind)
    (found : registry.flow? (p.flow.getD "") = some flow)
    (within : ∀ entry ∈ flow.steps, ∀ answer data,
      (entry.2.rule.resolve answer data).Within (fun key => flow.steps.has key = true) isFlow) :
    answerOr gap registry address p answer kind =
      Turn.answer registry address p answer kind := by
  unfold answerOr Turn.answer
  simp only [found]
  cases at_ : flow.step? (p.step.getD "") with
  | none => rfl
  | some step =>
    have mem : (p.step.getD "", step) ∈ flow.steps := Table.mem_of_get? at_
    have same (value : String) (data : Fields) :=
      followOr_of_within gap registry address (p.flow.getD "") data (within _ mem value data)
    unfold respondOr Turn.respond
    simp only [same]

end Turn

namespace Definition

/-- **Accepted definitions become sound flows.** The flow of an accepted definition exists and has
exactly the definition's step names; whatever the answer and whatever is known, the rule of each of
its steps leads to one of its steps, to a person, to the end, or to a flow that the definition may
switch to; and so an answer at one of its steps never leads to a step that is missing. -/
theorem load_leads_of_check (d : Definition) (source : OptionSource) (known : Known)
    (accepted : d.check known = .ok none) :
    ∃ flow : Flow,
      (∀ b : Backend, runFrom b (d.load source known) =
        (.ok (some flow), { b with tally := .loaded "loaded" :: b.tally })) ∧
      (∀ key, flow.steps.has key = d.hasStep key) ∧
      (∀ entry ∈ flow.steps, ∀ answer data,
        (entry.2.rule.resolve answer data).Within (fun key => flow.steps.has key = true)
          fun target => target ≠ "" ∧
            ∀ codes, known = some codes → target ∈ codes ∨ target = d.code) ∧
      ∀ (registry : Registry) (address : Address) (p : Position) (answer : String)
        (kind : Except Fault InputKind) (gap : Fields → Lookup (Option Turn)),
        registry.flow? (p.flow.getD "") = some flow →
          Turn.answerOr gap registry address p answer kind =
            Turn.answer registry address p answer kind := by
  have ok := check_eq_none_iff.1 accepted
  obtain ⟨first, begins⟩ := ok.begins
  obtain ⟨flow, made, steps, -⟩ := toFlow_eq source begins ok.timed
  have has (key : String) : flow.steps.has key = d.hasStep key := by
    rw [steps, has_stepTable]
  have within : ∀ entry ∈ flow.steps, ∀ answer data,
      (entry.2.rule.resolve answer data).Within (fun key => flow.steps.has key = true)
        (d.MaySwitch known) := by
    intro entry mem answer data
    rw [steps] at mem
    obtain ⟨s, hs, built⟩ := mem_stepTable mem
    simp only [has, built]
    exact (ok.fit s hs).leads_rule answer data
  refine ⟨flow, fun b => ?_, has, within, ?_⟩
  · have flow? : d.toFlow? source known = .ok (some flow) := by
      simp only [toFlow?, accepted, made]
      rfl
    unfold load
    rw [flow?]
    rfl
  · intro registry address p answer kind gap found
    exact Turn.answerOr_eq_answer gap p answer kind found within

set_option maxRecDepth 20000 in
theorem load_leads_of_check_survey :
    survey.check (some ["main_menu"]) = .ok none ∧
      ∃ flow : Flow,
        (∀ b : Backend, runFrom b (survey.load Store.options (some ["main_menu"])) =
          (.ok (some flow), { b with tally := .loaded "loaded" :: b.tally })) ∧
        flow.steps.has "thanks" = true ∧ flow.steps.has "other" = false := by
  have accepted : survey.check (some ["main_menu"]) = .ok none := by cbv
  obtain ⟨flow, loads, has, -⟩ := load_leads_of_check survey Store.options _ accepted
  refine ⟨accepted, flow, loads, ?_, ?_⟩
  · rw [has]
    rfl
  · rw [has]
    rfl

end Definition

end Dialogue
