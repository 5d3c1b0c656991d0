import Dialogue.Time.Stamp

/-!
# Flow definitions

Flows as people write them and as they are stored: steps with options to choose from and transitions
that tell where each answer leads. A step goes by the code that its author gave it and, once stored,
by an id besides.

Main statements: `hasStep_iff`, a step is found under its id or its code, and the `perm` lemmas,
that sorting by the order field only rearranges.
-/

namespace Dialogue

namespace Definition

/-- What a step shows. -/
inductive StepKind where
  | text
  | buttons
  | list
  | location
  | dynamicList
  deriving DecidableEq

/-- The answer that a step expects. -/
inductive Reply where
  | text
  | button
  | list
  | location
  | any
  | nothing
  deriving DecidableEq

/-- An option that a step offers. -/
structure Choice where
  id : String
  title : String
  description : Option String
  sectionTitle : Option String
  order : Int
  deriving DecidableEq

/-- Where an answer leads. -/
structure Transition where
  condition : String
  nextStep : Option String
  switchTo : Option String
  order : Int
  deriving DecidableEq

/-- The condition that every answer meets. -/
def Transition.isWildcard (t : Transition) : Bool := t.condition = "*"

/-- A step as it is written. -/
structure Step where
  id : Option String
  code : String
  name : String
  order : Int
  kind : StepKind
  expects : Reply
  body : String
  header : Option String
  footer : Option String
  listLabel : Option String
  pattern : Option String
  errorText : Option String
  saveAs : Option String
  handsOff : Bool
  switchTo : Option String
  source : Option String
  defaultNext : Option String
  choices : List Choice
  transitions : List Transition
  deriving DecidableEq

/-- A text that is there and not empty. -/
def present? : Option String → Option String
  | some "" => none
  | s => s

namespace Step

/-- The id under which a step is known: the stored one, or else its code. -/
def key (s : Step) : String := (present? s.id).getD s.code

/-- A step goes by its code and by its stored id. -/
def goesBy (s : Step) (name : String) : Bool := s.code = name || present? s.id = some name

/-- The options by their order; those of one order stay as they are written. -/
def sortedChoices (s : Step) : List Choice := s.choices.mergeSort fun a b => a.order ≤ b.order

/-- The transitions by their order; those of one order stay as they are written. -/
def sortedTransitions (s : Step) : List Transition :=
  s.transitions.mergeSort fun a b => a.order ≤ b.order

theorem goesBy_code (s : Step) : s.goesBy s.code = true := by simp [goesBy]

theorem goesBy_key (s : Step) : s.goesBy s.key = true := by
  unfold goesBy key
  cases present? s.id <;> simp

theorem sortedTransitions_perm (s : Step) : s.sortedTransitions.Perm s.transitions :=
  List.mergeSort_perm _ _

theorem sortedChoices_perm (s : Step) : s.sortedChoices.Perm s.choices :=
  List.mergeSort_perm _ _

end Step

end Definition

/-- A flow as it is written and stored. -/
structure Definition where
  id : Option String
  code : String
  name : String
  description : Option String
  isActive : Bool
  isDefault : Bool
  initialStep : Option String
  minutes : Int
  steps : List Definition.Step
  createdAt : Option Stamp
  updatedAt : Option Stamp
  deriving DecidableEq

namespace Definition

/-- The steps by their order; those of one order stay as they are written. -/
def sortedSteps (d : Definition) : List Step := d.steps.mergeSort fun a b => a.order ≤ b.order

/-- The first step that goes by a name. -/
def step? (d : Definition) (name : String) : Option Step := d.steps.find? (·.goesBy name)

/-- Whether a step goes by a name. -/
def hasStep (d : Definition) (name : String) : Bool := (d.step? name).isSome

/-- The step to begin with: the one that is named, or else the first in order. -/
def initial? (d : Definition) : Option Step :=
  match present? d.initialStep with
  | some name => d.step? name
  | none => d.sortedSteps.head?

theorem sortedSteps_perm (d : Definition) : d.sortedSteps.Perm d.steps :=
  List.mergeSort_perm _ _

theorem mem_sortedSteps {d : Definition} {s : Step} : s ∈ d.sortedSteps ↔ s ∈ d.steps :=
  d.sortedSteps_perm.mem_iff

theorem goesBy_of_step? {d : Definition} {name : String} {s : Step} (h : d.step? name = some s) :
    s ∈ d.steps ∧ s.goesBy name = true :=
  ⟨List.mem_of_find?_eq_some h, by simpa using List.find?_some h⟩

theorem hasStep_iff (d : Definition) (name : String) :
    d.hasStep name = true ↔ ∃ s ∈ d.steps, s.goesBy name = true := by
  simp [hasStep, step?]

end Definition

end Dialogue
