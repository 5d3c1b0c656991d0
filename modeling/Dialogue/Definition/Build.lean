import Dialogue.Content.Grouping
import Dialogue.Definition.Validation
import Dialogue.Template

/-!
# From definitions to flows

A definition that passes the check becomes a flow. Each step can be reached under its stored id and
under its code. A step with a source of options asks the source when it is shown; any other step
shows what is written. A switch or a hand-off of the step itself overrides its transitions; without
transitions the default counts; a lone wildcard is a fixed rule; and anything else is decided by the
answer: the transitions whose condition is the answer come first, then the wildcards.

Main statement: `resolve_rule`, the shortcuts for no transition and for a lone wildcard agree with
the decision by the answer.
-/

namespace Dialogue.Definition

/-- A source of options: its name and what is known give the options to offer. -/
abbrev OptionSource := String → Fields → Lookup (List Fields)

/-! ## Rules -/

/-- Where a transition leads; without a target of its own, to the default. -/
def Transition.target (t : Transition) (defaultNext : Option String) : Outcome :=
  match present? t.switchTo with
  | some flow => .switchTo flow
  | none => Outcome.ofText? ((present? t.nextStep).or defaultNext)

/-- Where an answer leads: by the first transition that names it, else by the first wildcard, else
to the default. -/
def decide (transitions : List Transition) (defaultNext : Option String) (answer : String) :
    Outcome :=
  match transitions.find? fun t => !t.isWildcard && t.condition = answer with
  | some t => t.target defaultNext
  | none =>
    match transitions.find? (·.isWildcard) with
    | some t => t.target defaultNext
    | none => Outcome.ofText? defaultNext

/-- The rule of a step. -/
def Step.rule (s : Step) : NextRule :=
  match present? s.switchTo with
  | some flow => .fixed (.switchTo flow)
  | none =>
    if s.handsOff then .fixed .transfer
    else match s.sortedTransitions with
      | [] => .fixed (Outcome.ofText? s.defaultNext)
      | [t] =>
        if t.isWildcard then .fixed (t.target s.defaultNext)
        else .decided fun answer _ => some (decide [t] s.defaultNext answer)
      | transitions => .decided fun answer _ => some (decide transitions s.defaultNext answer)

theorem resolve_rule (s : Step) (answer : String) (data : Fields)
    (h : present? s.switchTo = none) (g : s.handsOff = false) :
    s.rule.resolve answer data = decide s.sortedTransitions s.defaultNext answer := by
  unfold Step.rule
  rw [h]
  simp only [g, Bool.false_eq_true, if_false]
  split
  · rename_i ht; simp [NextRule.resolve, decide, ht]
  · rename_i t ht
    split
    · rename_i hw; simp [NextRule.resolve, decide, ht, hw]
    · simp [NextRule.resolve, ht]
  · simp [NextRule.resolve]

/-! ## Prompts -/

/-- The part of an option under a name. -/
def part (option : Fields) (name : String) : Except Fault Json :=
  match Table.get? option name with
  | some value => .ok value
  | none => .error (.optionLacks name)

/-- The first characters or items of a value. -/
def cut (limit : Nat) : Json → Except Fault Json
  | .str s => .ok (.str (Text.clip limit s))
  | .arr items => .ok (.arr (items.take limit))
  | .obj fields => .error (.misused .cutTable (.obj fields))
  | value => .error (.misused .cut value)

/-- A button from an option. -/
def buttonOf (option : Fields) : Except Fault Button := do
  let id ← part option "id"
  let title ← cut Limit.buttonTitle (← part option "title")
  (Button.read (.obj [("id", id), ("title", title)])).orFault

/-- A row from an option; an empty description is left out. -/
def rowOf (option : Fields) : Except Fault Row := do
  let id ← part option "id"
  let title ← cut Limit.rowTitle (← part option "title")
  let written := (Table.get? option "description").getD .null
  let description ← if written.isTruthy then cut Limit.rowDescription written else .ok .null
  (Row.read (.obj [("id", id), ("title", title), ("description", description)])).orFault

/-- The label that opens the list of a step. -/
def Step.label (s : Step) : String := (present? s.listLabel).getD Wording.listLabel

/-- What a step with a source of options shows. Its texts are templates. -/
def Step.offered (s : Step) (name : String) (source : OptionSource) (data : Fields) :
    Lookup Content := do
  let fill := Template.fill data
  let frame := Frame.of (fill s.body) (s.header.map fill) (s.footer.map fill)
  match s.kind with
  | .text | .location => return .ofText (fill s.body)
  | .buttons =>
    let options ← source name data
    let choices ← Lookup.ofExcept ((options.take Limit.buttons).mapM buttonOf)
    return .ofButtons frame choices
  | .list | .dynamicList =>
    let options ← source name data
    let rows ← Lookup.ofExcept ((options.take Limit.rows).mapM rowOf)
    return .ofList frame s.label [Section.of (some Wording.sectionTitle) rows]

/-- What a step without a source of options shows. -/
def Step.written (s : Step) : Content :=
  let frame := Frame.of s.body s.header s.footer
  match s.kind, s.sortedChoices with
  | .buttons, c :: choices =>
    .ofButtons frame ((c :: choices).map fun c => Button.of c.id c.title)
  | .list, c :: choices | .dynamicList, c :: choices =>
    .ofList frame s.label (groupRows ((c :: choices).map fun c =>
      (c.sectionTitle, Row.of c.id c.title c.description)))
  | _, _ => .ofText s.body

/-- The prompt of a step. -/
def Step.prompt (s : Step) (source : OptionSource) : Prompt :=
  match present? s.source with
  | some name => .resolved (some name) (s.offered name source)
  | none => .fixed s.written

/-! ## Steps and flows -/

/-- The kind of answer that is accepted. A shared location is an event of its own. -/
def Reply.accepted : Reply → InputKind
  | .text => .text
  | .button => .buttonReply
  | .list => .listReply
  | .location => .any
  | .any => .any
  | .nothing => .nothing

/-- A step of the flow. -/
def Step.toStep (s : Step) (source : OptionSource) : Dialogue.Step where
  id := s.key
  prompt := s.prompt source
  expects := s.expects.accepted
  rule := s.rule
  validator := (present? s.pattern).map fun pattern answer =>
    (Regex.search pattern false answer).mapError Fault.badPattern
  errorText := present? s.errorText
  saveAs := present? s.saveAs
  handsOff := s.handsOff

/-- The steps of the flow under their ids and their codes. -/
def stepTable (d : Definition) (source : OptionSource) : Table Dialogue.Step :=
  d.sortedSteps.foldl (fun table s =>
    (table.set s.key (s.toStep source)).set s.code (s.toStep source)) []

/-- The flow of a definition that passes the check. -/
def toFlow (d : Definition) (source : OptionSource) : Except Fault Flow :=
  match d.initial? with
  | some s =>
    Flow.make d.name (d.description.getD "") (d.stepTable source) s.key d.minutes
  | none => .error (.noInitialStep (d.initialStep.getD "") d.name)

/-- The flow of a definition, or nothing when the check finds a problem. -/
def toFlow? (d : Definition) (source : OptionSource) (known : Known) :
    Except Fault (Option Flow) := do
  match ← d.check known with
  | some _ => return none
  | none => return some (← d.toFlow source)

/-- The flow of a definition; whether there is one is noted. -/
def load (d : Definition) (source : OptionSource) (known : Known) : Lookup (Option Flow) := do
  let flow ← Lookup.ofExcept (d.toFlow? source known)
  Lookup.note (.loaded (if flow.isSome then "loaded" else "invalid"))
  return flow

end Dialogue.Definition
