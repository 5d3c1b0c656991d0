import Dialogue.Lookup
import Dialogue.Message
import Dialogue.Outcome
import Dialogue.Wording

/-!
# Flows

A flow is a graph of steps. A step shows a prompt, accepts one kind of answer, may check and keep
it, and says where the conversation goes. Prompts may look things up when they are shown. A flow
begins at one of its steps and has a deadline in the future, which is part of its type.

Main statements: `Flow.step?_initial`, a flow has its initial step, and `Flow.index_eq`, the steps
of a flow built from a list are the list's, each under its id.
-/

namespace Dialogue

/-! ## Answers -/

/-- The kinds of answers. -/
inductive InputKind where
  | text
  | buttonReply
  | listReply
  | any
  | nothing
  deriving DecidableEq

namespace InputKind

/-- The name of a kind. -/
def name : InputKind → String
  | .text => "text"
  | .buttonReply => "button_reply"
  | .listReply => "list_reply"
  | .any => "any"
  | .nothing => "none"

/-- All kinds. -/
def all : List InputKind := [.text, .buttonReply, .listReply, .any, .nothing]

/-- The kind of a name. -/
def named? (s : String) : Option InputKind := all.find? (·.name = s)

/-- The kind of a name, which must exist. -/
def ofName (s : String) : Except Fault InputKind :=
  match named? s with
  | some kind => .ok kind
  | none => .error (.unknownKind s)

/-- A step that expects `expected` accepts this kind of answer. -/
def accepts (expected given : InputKind) : Bool := expected = .any || expected = given

end InputKind

/-! ## Steps -/

/-- What a step shows. -/
inductive Prompt where
  /-- Nothing: the step was left without a prompt. -/
  | missing
  /-- Always the same. -/
  | fixed (content : Content)
  /-- What is found when the step is shown, from a named source or not. -/
  | resolved (source : Option String) (resolve : Fields → Lookup Content)

/-- How a step chooses where to go. -/
inductive NextRule where
  /-- Always the same way. -/
  | fixed (outcome : Outcome)
  /-- By the answer and what is known; no outcome is the end. -/
  | decided (decide : String → Fields → Option Outcome)

/-- Where a rule goes with an answer. -/
def NextRule.resolve (rule : NextRule) (answer : String) (data : Fields) : Outcome :=
  match rule with
  | .fixed outcome => outcome
  | .decided decide => (decide answer data).getD .complete

/-- A step of a flow. -/
structure Step where
  id : String
  prompt : Prompt
  expects : InputKind
  rule : NextRule := .fixed .complete
  /-- The check that an answer has to pass. -/
  validator : Option (String → Except Fault Bool) := none
  /-- What is said when it does not. -/
  errorText : Option String := none
  /-- The key under which the answer is kept. -/
  saveAs : Option String := none
  /-- Showing the step hands the conversation to a person. -/
  handsOff : Bool := false
  /-- What is made of an answer before it is checked and kept. -/
  normalize : Option (String → String) := none

namespace Step

/-- The answer that is checked and kept. -/
def normalized (step : Step) (answer : String) : String :=
  match step.normalize with
  | some normalize => normalize answer
  | none => answer

/-- The check of a normalized answer. -/
def check (step : Step) (answer : String) : Except Fault Bool :=
  match step.validator with
  | some validator => validator answer
  | none => .ok true

/-- The content that the step shows. -/
def content (step : Step) (data : Fields) : Lookup Content :=
  match step.prompt with
  | .missing => return .ofText Wording.stepWithoutPrompt
  | .fixed content => return content
  | .resolved _ resolve => resolve data

/-- The message that shows the step. -/
def render (step : Step) (recipient : String) (data : Fields) (via : Option String) :
    Lookup Message := do
  Lookup.ofExcept (Message.make recipient (← step.content data) via)

/-- What is kept of an answer. -/
def keep (step : Step) (answer : String) (data : Fields) : Fields :=
  match step.saveAs with
  | some key => if key = "" then data else Table.set data key (.str answer)
  | none => data

end Step

/-! ## Flows -/

/-- A graph of steps, each under one or more keys. -/
structure Flow where
  name : String
  description : String
  steps : Table Step
  initial : String
  /-- The minutes from the start of the flow to its deadline. -/
  minutes : Int
  has_initial : steps.has initial = true
  minutes_pos : 0 < minutes

namespace Flow

/-- The minutes that a flow usually has. -/
def halfHour : Int := 30

theorem halfHour_pos : 0 < halfHour := by decide

/-- A flow, when it has its initial step and time to run. -/
def make (name description : String) (steps : Table Step) (initial : String) (minutes : Int) :
    Except Fault Flow :=
  if h : steps.has initial = true then
    if t : 0 < minutes then .ok ⟨name, description, steps, initial, minutes, h, t⟩
    else .error (.noTime name)
  else .error (.noInitialStep initial name)

/-- Steps under their ids, which must differ. -/
def index : Table Step → List Step → Except Fault (Table Step)
  | known, [] => .ok known
  | known, step :: rest =>
    if known.has step.id then .error (.duplicateStep step.id)
    else index (known ++ [(step.id, step)]) rest

/-- A flow from a list of steps. -/
def ofSteps (name description : String) (steps : List Step) (initial : String) (minutes : Int) :
    Except Fault Flow := do
  make name description (← index [] steps) initial minutes

/-- The step under a key. -/
def step? (flow : Flow) (key : String) : Option Step := flow.steps.get? key

/-- The step that a flow begins with. -/
def initialStep (flow : Flow) : Step := (flow.steps.get? flow.initial).get flow.has_initial

/-- A flow in one line. -/
def summary (flow : Flow) : String :=
  "Flow(name=" ++ Text.quoted flow.name ++ ", steps=" ++ toString flow.steps.length ++
    ", initial_step=" ++ Text.quoted flow.initial ++ ")"

theorem step?_initial (flow : Flow) : flow.step? flow.initial = some flow.initialStep :=
  (Option.some_get flow.has_initial).symm

theorem index_eq {known : Table Step} {steps : List Step} {indexed : Table Step}
    (h : index known steps = .ok indexed) : indexed = known ++ steps.map fun s => (s.id, s) := by
  induction steps generalizing known with
  | nil => simp [index] at h; simp [h]
  | cons step rest ih =>
    unfold index at h
    split at h
    · simp at h
    · simp [ih h]

end Flow

end Dialogue
