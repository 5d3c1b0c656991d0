import Dialogue.Flow.Basic

/-!
# Problems of flows

What a check of a flow or of a stored definition can find. A problem has a code for programs and a
message for people. The check of a running flow looks at its fixed rules: they must lead to steps of
the flow or to flows that are registered. What a decided rule does cannot be seen.

Main statement: `Flow.problem?_eq_none_iff`, no problem is found exactly when every fixed rule leads
somewhere.
-/

namespace Dialogue

/-- The part of a step that a problem concerns. -/
inductive Part where
  | whole
  | fallback
  | transition (condition : String)
  deriving DecidableEq

/-- A step of a stored definition, or a part of it. -/
structure Site where
  step : String
  part : Part
  deriving DecidableEq

/-- How a site is named in messages. -/
def Site.text (site : Site) : String :=
  "Step '" ++ site.step ++ "'" ++
    match site.part with
    | .whole => ""
    | .fallback => " default"
    | .transition condition => " transition '" ++ condition ++ "'"

/-- What a check found. -/
inductive Problem where
  | blankCode
  | noTime (flow : String)
  | noSteps (flow : String)
  | duplicateStep (step flow : String)
  | unknownInitialStep (step flow : String)
  | badPattern (site : Option Site) (pattern : String) (fault : Regex.Fault)
  | sourceOnText (site : Site) (source : String)
  | incompleteOption (site : Site)
  | emptyCondition (site : Site)
  | emptySwitch (site : Site)
  | unknownFlow (site : Site) (flow : String)
  | unknownStep (site : Site) (step flow : String)
  /-- A running flow goes on to a step that it does not have. -/
  | missingStep (step flow target : String)
  /-- A running flow switches to a flow that is not registered. -/
  | unregisteredFlow (step flow target : String)

namespace Problem

/-- The code of a problem. -/
def code : Problem → String
  | .blankCode => "EMPTY_CODE"
  | .noTime _ => "INVALID_TIMEOUT"
  | .noSteps _ => "NO_STEPS"
  | .duplicateStep _ _ => "DUPLICATE_STEP"
  | .unknownInitialStep _ _ => "UNKNOWN_INITIAL_STEP"
  | .badPattern _ _ _ => "INVALID_REGEX"
  | .sourceOnText _ _ => "DYNAMIC_SOURCE_ON_TEXT"
  | .incompleteOption _ => "INVALID_OPTION"
  | .emptyCondition _ => "EMPTY_CONDITION"
  | .emptySwitch _ => "EMPTY_FLOW_SWITCH"
  | .unknownFlow _ _ | .unregisteredFlow _ _ _ => "UNKNOWN_FLOW"
  | .unknownStep _ _ _ | .missingStep _ _ _ => "UNKNOWN_STEP"

/-- The message of a problem. -/
def message : Problem → String
  | .blankCode => "Flow code cannot be empty"
  | .noTime flow => "Flow '" ++ flow ++ "' must have a positive timeout"
  | .noSteps flow => "Flow '" ++ flow ++ "' has no steps"
  | .duplicateStep step flow =>
    "Step code '" ++ step ++ "' is used more than once in flow '" ++ flow ++ "'"
  | .unknownInitialStep step flow =>
    "Initial step '" ++ step ++ "' is not defined in flow '" ++ flow ++ "'"
  | .badPattern site pattern fault =>
    (match site with
      | some site => site.text ++ ": "
      | none => "") ++
    "Validation pattern '" ++ pattern ++ "' is not a valid regular expression: " ++ fault.message
  | .sourceOnText site source =>
    site.text ++ " uses data source '" ++ source ++ "' but is a TEXT step"
  | .incompleteOption site => site.text ++ " has an option without id or title"
  | .emptyCondition site => site.text ++ " has a transition without condition"
  | .emptySwitch site => site.text ++ " switches to an empty flow code"
  | .unknownFlow site flow =>
    site.text ++ " switches to flow '" ++ flow ++ "' which is not registered"
  | .unknownStep site step flow =>
    site.text ++ " points to step '" ++ step ++ "' which is not in flow '" ++ flow ++ "'"
  | .missingStep step flow target =>
    "Step '" ++ step ++ "' of flow '" ++ flow ++ "' points to missing step '" ++ target ++ "'"
  | .unregisteredFlow step flow target =>
    "Step '" ++ step ++ "' of flow '" ++ flow ++ "' switches to unregistered flow '" ++ target ++
      "'"

/-- The result of a check as JSON. -/
def verdict : Option Problem → Json
  | none => .obj [("is_valid", .bool true), ("error_code", .null), ("message", .null)]
  | some p => .obj [("is_valid", .bool false), ("error_code", .str p.code),
      ("message", .str p.message)]

end Problem

namespace Flow

/-- The problem of a step's rule under a key, if any. -/
def ruleProblem? (code : String) (flow : Flow) (registered : List String) (key : String) :
    NextRule → Option Problem
  | .fixed (.next target) =>
    if flow.steps.has target then none else some (.missingStep key code target)
  | .fixed (.switchTo target) =>
    if registered.contains target then none else some (.unregisteredFlow key code target)
  | _ => none

/-- The first problem of a flow that is registered under a code. -/
def problem? (code : String) (flow : Flow) (registered : List String) : Option Problem :=
  flow.steps.findSome? fun (key, step) => flow.ruleProblem? code registered key step.rule

theorem problem?_eq_none_iff (code : String) (flow : Flow) (registered : List String) :
    flow.problem? code registered = none ↔
      ∀ entry ∈ flow.steps, flow.ruleProblem? code registered entry.1 entry.2.rule = none := by
  simp [problem?, List.findSome?_eq_none_iff]

end Flow

end Dialogue
