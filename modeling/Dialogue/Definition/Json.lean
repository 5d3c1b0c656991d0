import Dialogue.Checked.Fields
import Dialogue.Definition.Basic

/-!
# Definitions as JSON

The written form of definitions, and their reading from loose data. Field names are written in camel
case; on reading, names with underscores count as well where the others are missing.
-/

namespace Dialogue.Definition

open Checked

/-! ## Names -/

/-- The name of a kind of step. -/
def StepKind.name : StepKind → String
  | .text => "TEXT"
  | .buttons => "BUTTON"
  | .list => "LIST"
  | .location => "LOCATION_REQUEST"
  | .dynamicList => "DYNAMIC_LIST"

/-- The kind of step of a name. -/
def StepKind.named? (s : String) : Option StepKind :=
  [StepKind.text, .buttons, .list, .location, .dynamicList].find? (·.name = s)

/-- The name of an expected answer. -/
def Reply.name : Reply → String
  | .text => "TEXT"
  | .button => "BUTTON_REPLY"
  | .list => "LIST_REPLY"
  | .location => "LOCATION"
  | .any => "ANY"
  | .nothing => "NONE"

/-- The expected answer of a name. -/
def Reply.named? (s : String) : Option Reply :=
  [Reply.text, .button, .list, .location, .any, .nothing].find? (·.name = s)

/-! ## Writing -/

/-- An option as JSON. -/
def Choice.toJson (c : Choice) : Json :=
  .obj [("optionId", .str c.id), ("title", .str c.title),
    ("description", .ofText? c.description), ("section", .ofText? c.sectionTitle),
    ("order", .int c.order)]

/-- A transition as JSON. -/
def Transition.toJson (t : Transition) : Json :=
  .obj [("condition", .str t.condition), ("nextStepId", .ofText? t.nextStep),
    ("switchToFlow", .ofText? t.switchTo), ("order", .int t.order)]

/-- A step as JSON. -/
def Step.toJson (s : Step) : Json :=
  .obj [("id", .ofText? s.id), ("code", .str s.code), ("name", .str s.name),
    ("order", .int s.order), ("stepType", .str s.kind.name),
    ("expectedInput", .str s.expects.name), ("messageBody", .str s.body),
    ("messageHeader", .ofText? s.header), ("messageFooter", .ofText? s.footer),
    ("listButtonText", .ofText? s.listLabel), ("validationRegex", .ofText? s.pattern),
    ("errorMessage", .ofText? s.errorText), ("saveResponseAs", .ofText? s.saveAs),
    ("transferToAgent", .bool s.handsOff), ("switchToFlow", .ofText? s.switchTo),
    ("dynamicDataSource", .ofText? s.source), ("defaultNextStepId", .ofText? s.defaultNext),
    ("options", .arr (s.choices.map Choice.toJson)),
    ("transitions", .arr (s.transitions.map Transition.toJson))]

/-- The fields that an author writes, without those that storing adds. -/
def authoredFields (d : Definition) : Fields :=
  [("code", .str d.code), ("name", .str d.name), ("description", .ofText? d.description),
    ("isActive", .bool d.isActive), ("isDefault", .bool d.isDefault),
    ("initialStepId", .ofText? d.initialStep), ("timeoutMinutes", .int d.minutes),
    ("steps", .arr (d.steps.map Step.toJson))]

/-- An optional stamp as JSON. -/
def stampJson (s : Option Stamp) : Json := .ofText? (s.map Stamp.text)

/-- A definition as JSON. -/
def toJson (d : Definition) : Json :=
  .obj (("id", .ofText? d.id) :: d.authoredFields ++
    [("createdAt", stampJson d.createdAt), ("updatedAt", stampJson d.updatedAt)])

/-! ## Reading -/

/-- Reads an option. -/
def Choice.read : Json → Checked Choice :=
  asRecord fun fields =>
    Choice.mk <$> required fields ["optionId", "option_id"] asText
      <*> required fields ["title"] asText
      <*> maybe fields ["description"] asText
      <*> maybe fields ["section"] asText
      <*> defaulted fields ["order"] 0 asInteger

/-- Reads a transition. -/
def Transition.read : Json → Checked Transition :=
  asRecord fun fields =>
    Transition.mk <$> required fields ["condition"] asText
      <*> maybe fields ["nextStepId", "next_step_id"] asText
      <*> maybe fields ["switchToFlow", "switch_to_flow"] asText
      <*> defaulted fields ["order"] 0 asInteger

/-- Reads a step. -/
def Step.read : Json → Checked Step :=
  asRecord fun fields =>
    Step.mk <$> maybe fields ["id"] asText
      <*> required fields ["code"] asText
      <*> defaulted fields ["name"] "" asText
      <*> defaulted fields ["order"] 0 asInteger
      <*> defaulted fields ["stepType", "step_type"] .text (asChoice StepKind.named?)
      <*> defaulted fields ["expectedInput", "expected_input"] .text (asChoice Reply.named?)
      <*> defaulted fields ["messageBody", "message_body"] "" asText
      <*> maybe fields ["messageHeader", "message_header"] asText
      <*> maybe fields ["messageFooter", "message_footer"] asText
      <*> maybe fields ["listButtonText", "list_button_text"] asText
      <*> maybe fields ["validationRegex", "validation_regex"] asText
      <*> maybe fields ["errorMessage", "error_message"] asText
      <*> maybe fields ["saveResponseAs", "save_response_as"] asText
      <*> defaulted fields ["transferToAgent", "transfer_to_agent"] false asSwitch
      <*> maybe fields ["switchToFlow", "switch_to_flow"] asText
      <*> maybe fields ["dynamicDataSource", "dynamic_data_source"] asText
      <*> maybe fields ["defaultNextStepId", "default_next_step_id"] asText
      <*> defaulted fields ["options"] [] (asList Choice.read)
      <*> defaulted fields ["transitions"] [] (asList Transition.read)

/-- Reads a definition from its fields. -/
def readFields (fields : Fields) : Checked Definition :=
  Definition.mk <$> maybe fields ["id"] asText
    <*> required fields ["code"] asText
    <*> required fields ["name"] asText
    <*> maybe fields ["description"] asText
    <*> defaulted fields ["isActive", "is_active"] true asSwitch
    <*> defaulted fields ["isDefault", "is_default"] false asSwitch
    <*> maybe fields ["initialStepId", "initial_step_id"] asText
    <*> defaulted fields ["timeoutMinutes", "timeout_minutes"] 30 asInteger
    <*> defaulted fields ["steps"] [] (asList Step.read)
    <*> maybe fields ["createdAt", "created_at"] asStamp
    <*> maybe fields ["updatedAt", "updated_at"] asStamp

/-- Reads a definition. -/
def read : Json → Checked Definition := asRecord readFields

end Dialogue.Definition
