import Dialogue.Flow.Check
import Dialogue.Position
import Dialogue.Text.Fold
import Dialogue.Time.Span

/-!
# Turns

One turn takes a conversation from one position to the next. Starting a flow shows its initial step.
Answering a step checks the kind of the answer, then the answer itself; an answer that does not pass
shows the step again. An answer that passes is kept, and the step's rule says whether the flow ends,
is handed to a person, gives way to another flow or goes on. The turn says where the conversation
stands then, and the caller stores it.

A position that names a flow or a step that does not exist cannot be answered, which gives no
result.

Main statements: `Turn.isCompleted_iff`, which turns end a flow, and `Turn.isCancel_empty`.
-/

namespace Dialogue

/-- How a turn ended. -/
inductive Status where
  | started
  | reprompted
  | invalidInput
  | advanced
  | switched
  | transferred
  | completed
  deriving DecidableEq

/-- The name of a status. -/
def Status.name : Status → String
  | .started => "started"
  | .reprompted => "reprompted"
  | .invalidInput => "invalid_input"
  | .advanced => "advanced"
  | .switched => "switched"
  | .transferred => "transferred"
  | .completed => "completed"

/-- What a turn shows and where it leads. -/
structure Turn where
  status : Status
  message : Message
  flow : String
  /-- The step that waits for an answer; none when the flow has ended. -/
  step : Option String
  data : Fields

/-- The flows that are registered, by their codes. -/
abbrev Registry := Table Flow

namespace Turn

/-- The flow has ended. -/
def isCompleted (t : Turn) : Bool := t.status = .completed || t.status = .transferred

/-- The conversation is handed to a person. -/
def isTransferred (t : Turn) : Bool := t.status = .transferred

/-- The flow that was switched to. -/
def switchedTo (t : Turn) : Option String := if t.status = .switched then some t.flow else none

/-- What the turn says about the next position. -/
def move (t : Turn) : Move := ⟨t.isCompleted, some t.flow, t.step, t.data⟩

/-- A turn as JSON. -/
def toJson (t : Turn) : Json :=
  .obj [("status", .str t.status.name),
    ("message", .obj (t.message.fields ++ [("type", .str t.message.kindName)])),
    ("flow_completed", .bool t.isCompleted), ("new_flow_type", .str t.flow),
    ("new_flow_step", .ofText? t.step), ("new_flow_data", .obj t.data),
    ("transfer_to_agent", .bool t.isTransferred), ("switch_to_flow", .ofText? t.switchedTo)]

end Turn

/-! ## Looking up flows -/

/-- The flow of a code; the empty code names none. -/
def Registry.flow? (registry : Registry) (code : String) : Option Flow :=
  if code = "" then none else Table.get? registry code

/-- To whom a turn is addressed, and through which number. -/
structure Address where
  recipient : String
  via : Option String

namespace Turn

/-- The key under which a flow finds the code of the flow it was switched to from. -/
def previousFlowKey : String := "_previous_flow"

/-- Shows a step to the customer. -/
def render (address : Address) (step : Step) (data : Fields) : Lookup Message :=
  step.render address.recipient data address.via

/-! ## Starting a flow -/

/-- Starts the flow of a code with what is known. -/
def start (registry : Registry) (address : Address) (code : Option String) (data : Fields) :
    Lookup (Option Turn) := do
  match code.bind registry.flow? with
  | none =>
    Lookup.note (.misconfigured "unknown_flow")
    return none
  | some flow =>
    let message ← render address flow.initialStep data
    Lookup.note (.turn (code.getD "") "started")
    return some ⟨.started, message, code.getD "", some flow.initialStep.id, data⟩

/-! ## Answering a step -/

/-- Ends a flow. -/
def complete (address : Address) (code : String) (data : Fields) : Lookup Turn := do
  Lookup.note (.turn code "completed")
  let message ← Lookup.ofExcept (Message.ofText address.recipient Wording.completed address.via)
  return ⟨.completed, message, code, none, data⟩

/-- Hands a conversation to a person. -/
def transfer (address : Address) (code : String) (data : Fields) : Lookup Turn := do
  Lookup.note (.turn code "transferred")
  let message ← Lookup.ofExcept (Message.ofText address.recipient Wording.transferred address.via)
  return ⟨.transferred, message, code, none, data⟩

/-- Switches to another flow, which finds the code of the flow that was left. -/
def switch (registry : Registry) (address : Address) (code target : String) (data : Fields) :
    Lookup (Option Turn) := do
  match registry.flow? target with
  | none =>
    Lookup.note (.misconfigured "unknown_flow")
    return none
  | some flow =>
    let data := Table.set data previousFlowKey (.str code)
    let message ← render address flow.initialStep data
    Lookup.note (.turn code "switched")
    return some ⟨.switched, message, target, some flow.initialStep.id, data⟩

/-- Goes on to a step; one that hands off ends the flow when it is shown. -/
def advance (address : Address) (code : String) (step : Step) (data : Fields) : Lookup Turn := do
  let message ← render address step data
  if step.handsOff then
    Lookup.note (.turn code "transferred")
    return ⟨.transferred, message, code, none, data⟩
  else
    Lookup.note (.turn code "advanced")
    return ⟨.advanced, message, code, some step.id, data⟩

/-- Goes where an outcome leads. A step that does not exist ends the flow. -/
def follow (registry : Registry) (address : Address) (code : String) (flow : Flow)
    (data : Fields) : Outcome → Lookup (Option Turn)
  | .complete => some <$> complete address code data
  | .transfer => some <$> transfer address code data
  | .switchTo target => switch registry address code target data
  | .next key => do
    match flow.step? key with
    | some step => some <$> advance address code step data
    | none =>
      Lookup.note (.misconfigured "missing_step")
      some <$> complete address code data

/-- Shows a step again, as it is or with a notice. -/
def restate (address : Address) (code : String) (step : Step) (data : Fields) (status : Status)
    (notice : Option String) : Lookup Turn := do
  let message ← render address step data
  Lookup.note (.turn code status.name)
  let message := match notice with
    | some notice => message.withNotice notice
    | none => message
  return ⟨status, message, code, some step.id, data⟩

/-- What is said about an answer that does not pass the check. -/
def complaint (step : Step) : String :=
  match step.errorText with
  | none | some "" => Wording.invalidInput
  | some text => text

/-- The turn of an answer of a kind to a step. -/
def respond (registry : Registry) (address : Address) (code : String) (flow : Flow) (step : Step)
    (data : Fields) (answer : String) (kind : InputKind) : Lookup (Option Turn) := do
  if !step.expects.accepts kind then
    return some (← restate address code step data .reprompted none)
  let value := step.normalized answer
  if !(← Lookup.ofExcept (step.check value)) then
    return some (← restate address code step data .invalidInput (complaint step))
  let data := step.keep value data
  follow registry address code flow data (step.rule.resolve value data)

/-- The turn of an answer at a position. The kind of the answer is of interest only when there is a
step to answer. -/
def answer (registry : Registry) (address : Address) (p : Position) (answer : String)
    (kind : Except Fault InputKind) : Lookup (Option Turn) := do
  if !p.isSet then return none
  let code := p.flow.getD ""
  match registry.flow? code with
  | none =>
    Lookup.note (.misconfigured "unknown_flow")
    return none
  | some flow =>
    match flow.step? (p.step.getD "") with
    | none =>
      Lookup.note (.misconfigured "missing_step")
      return none
    | some step =>
      respond registry address code flow step p.data answer (← Lookup.ofExcept kind)

/-! ## Deadlines and cancelling -/

/-- Whether a position waits for an answer that may still come: it names a step, and its flow has
not passed the deadline. A flow that is not registered has the usual time. -/
def isActive (registry : Registry) (usualMinutes : Int) (now : Instant) (p : Position) :
    Except Fault Bool := do
  if !p.isSet then return false
  match ← p.startInstant? with
  | none => return true
  | some start =>
    let minutes := match registry.flow? (p.flow.getD "") with
      | some flow => flow.minutes
      | none => usualMinutes
    return now - start ≤ (← Time.length (minutes * Time.minute))

/-- Whether an input asks to cancel: it folds to a command, or to a command, a blank and more. -/
def isCancel (commands : List String) (input : String) : Bool :=
  input ≠ "" &&
    let folded := Text.fold input
    commands.any fun command =>
      folded = command || (command.toList ++ [' ']).isPrefixOf folded.toList

/-- The message that a flow was cancelled. -/
def cancelled (address : Address) : Except Fault Message :=
  Message.ofText address.recipient Wording.cancelled address.via

/-! ## First facts -/

theorem isCompleted_iff (t : Turn) :
    t.isCompleted = true ↔ t.status = .completed ∨ t.status = .transferred := by
  simp [isCompleted]

theorem isCancel_empty (commands : List String) : isCancel commands "" = false := by
  simp [isCancel]

end Turn

end Dialogue
