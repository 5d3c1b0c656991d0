import Dialogue.Definition.Basic
import Dialogue.Flow.Check
import Dialogue.Regex.Reader

/-!
# Validation of definitions

A definition is checked before it is stored and before it becomes a flow, so that a mistake shows
when it is made and not in a conversation that leads nowhere. The check names the first problem it
finds. A pattern that is malformed is a problem; a pattern that exceeds the engine stops the check.

Main statements: `repeated?_eq_none_iff` and `stepsProblem?_eq_none_iff`, what it means that nothing
is found.
-/

namespace Dialogue.Definition

/-- The flows that a definition may switch to; any flow when nothing is known. -/
abbrev Known := Option (List String)

/-- The problem of a pattern, if any. -/
def patternProblem? (site : Option Site) (pattern : String) : Except Fault (Option Problem) :=
  match Regex.compile pattern false with
  | .ok _ => .ok none
  | .error (.malformed text cause place) =>
    .ok (some (.badPattern site pattern (.malformed text cause place)))
  | .error fault => .error (.badPattern fault)

/-- The problem of a switch to a flow. -/
def switchProblem? (d : Definition) (known : Known) (site : Site) (flow : String) :
    Option Problem :=
  if flow = "" then some (.emptySwitch site)
  else match known with
    | none => none
    | some codes =>
      if codes.contains flow || flow = d.code then none else some (.unknownFlow site flow)

/-- The problem of a written target: the name of a step, or a reserved text. -/
def targetProblem? (d : Definition) (known : Known) (site : Site) (target : Option String) :
    Option Problem :=
  match Outcome.ofText? target with
  | .next step => if d.hasStep step then none else some (.unknownStep site step d.code)
  | .switchTo flow => d.switchProblem? known site flow
  | .transfer | .complete => none

/-- The problem of a transition. -/
def transitionProblem? (d : Definition) (known : Known) (step : Step) (t : Transition) :
    Option Problem :=
  if t.condition = "" then some (.emptyCondition ⟨step.code, .whole⟩)
  else
    let site : Site := ⟨step.code, .transition t.condition⟩
    match present? t.switchTo with
    | some flow => d.switchProblem? known site flow
    | none => d.targetProblem? known site t.nextStep

/-- The problem of a step's pattern. -/
def stepPatternProblem? (step : Step) : Except Fault (Option Problem) :=
  match present? step.pattern with
  | some pattern => patternProblem? (some ⟨step.code, .whole⟩) pattern
  | none => .ok none

/-- A text step that names a source of options. -/
def sourceProblem? (step : Step) : Option Problem :=
  match present? step.source with
  | some source =>
    if step.kind = .text then some (.sourceOnText ⟨step.code, .whole⟩ source) else none
  | none => none

/-- An option without id or title. -/
def choiceProblem? (step : Step) : Option Problem :=
  if step.choices.any fun c => c.id = "" || c.title = "" then
    some (.incompleteOption ⟨step.code, .whole⟩)
  else none

/-- The problem of the switch that a step always makes. -/
def stepSwitchProblem? (d : Definition) (known : Known) (step : Step) : Option Problem :=
  match present? step.switchTo with
  | some flow => d.switchProblem? known ⟨step.code, .whole⟩ flow
  | none => none

/-- The first problem of a step apart from its pattern. -/
def stepProblem? (d : Definition) (known : Known) (step : Step) : Option Problem :=
  (sourceProblem? step).or <| (choiceProblem? step).or <|
    (d.stepSwitchProblem? known step).or <|
    (d.targetProblem? known ⟨step.code, .fallback⟩ step.defaultNext).or <|
    step.transitions.findSome? (d.transitionProblem? known step)

/-- The first problem of some steps. -/
def stepsProblem? (d : Definition) (known : Known) : List Step → Except Fault (Option Problem)
  | [] => .ok none
  | step :: rest =>
    match stepPatternProblem? step with
    | .error fault => .error fault
    | .ok (some problem) => .ok (some problem)
    | .ok none =>
      match d.stepProblem? known step with
      | some problem => .ok (some problem)
      | none => d.stepsProblem? known rest

/-- The first code that occurs among those before it. -/
def repeated? : List String → List String → Option String
  | _, [] => none
  | seen, code :: rest => if seen.contains code then some code else repeated? (code :: seen) rest

/-- The first problem of the definition as a whole. -/
def wholeProblem? (d : Definition) : Option Problem :=
  if Text.strip d.code = "" then some .blankCode
  else if d.minutes ≤ 0 then some (.noTime d.code)
  else if d.steps = [] then some (.noSteps d.code)
  else match repeated? [] (d.steps.map Step.code) with
    | some code => some (.duplicateStep code d.code)
    | none =>
      if d.initial?.isNone then some (.unknownInitialStep (d.initialStep.getD "") d.code)
      else none

/-- The first problem of a definition; `none` when it is fit to run. -/
def check (d : Definition) (known : Known) : Except Fault (Option Problem) :=
  match d.wholeProblem? with
  | some problem => .ok (some problem)
  | none => d.stepsProblem? known d.steps

theorem repeated?_eq_none_iff (seen codes : List String) :
    repeated? seen codes = none ↔ codes.Nodup ∧ ∀ code ∈ codes, code ∉ seen := by
  induction codes generalizing seen with
  | nil => simp [repeated?]
  | cons code rest ih =>
    unfold repeated?
    by_cases h : code ∈ seen
    · simp [h]
    · simp only [List.contains_eq_mem, h, decide_false, Bool.false_eq_true, if_false, ih,
        List.mem_cons, not_or, List.nodup_cons, forall_eq_or_imp, not_false_eq_true, true_and]
      constructor
      · rintro ⟨hn, hm⟩
        exact ⟨⟨fun hc => (hm code hc).1 rfl, hn⟩, fun c hc => (hm c hc).2⟩
      · rintro ⟨⟨hc, hn⟩, hm⟩
        exact ⟨hn, fun c hcr => ⟨fun he => hc (he ▸ hcr), hm c hcr⟩⟩

theorem stepsProblem?_eq_none_iff (d : Definition) (known : Known) (steps : List Step) :
    d.stepsProblem? known steps = .ok none ↔
      ∀ step ∈ steps, stepPatternProblem? step = .ok none ∧ d.stepProblem? known step = none := by
  induction steps with
  | nil => simp [stepsProblem?]
  | cons step rest ih =>
    unfold stepsProblem?
    split
    · rename_i h; simp [h]
    · rename_i h; simp [h]
    · rename_i h
      split
      · rename_i g; simp [g]
      · rename_i g; simp [h, g, ih]

end Dialogue.Definition
