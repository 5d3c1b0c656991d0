import Dialogue.Checked.Fields
import Dialogue.Json.Pairs
import Dialogue.Json.Reader
import Dialogue.Json.Writer

/-!
# Positions

Where a conversation stands: the flow it is in, the step whose answer it waits for, what it has
learned, and when the flow began. A turn either ends the flow, which leaves no position, or moves
on, which keeps the start of a flow as long as the flow is the same.

Main statements: `after_eq_none_iff`, when a turn leaves no position, and `startedAt_after`, which
start a position has after a turn.
-/

namespace Dialogue

/-- Where a conversation stands. -/
structure Position where
  flow : Option String := none
  step : Option String := none
  data : Fields := []
  startedAt : Option Stamp := none
  deriving DecidableEq

/-- What a turn says about the next position. -/
structure Move where
  completed : Bool
  flow : Option String
  step : Option String
  data : Fields

namespace Position

/-- The text is there and not empty. -/
def isNamed : Option String → Bool
  | some s => s ≠ ""
  | none => false

/-- The position names a flow and a step. -/
def isSet (p : Position) : Bool := isNamed p.flow && isNamed p.step

/-- When the flow began, in universal time. -/
def startInstant? (p : Position) : Except Fault (Option Instant) :=
  match p.startedAt with
  | none => .ok none
  | some stamp =>
    match stamp.instant? with
    | some t => .ok (some t)
    | none => .error .beyondCalendar

/-- The flow that a turn moves to; a turn that names none stays in its flow. -/
def flowAfter (p : Position) (flow : Option String) : Option String :=
  if isNamed flow then flow else p.flow

/-- The start of the flow after a turn at `now`: a flow that goes on keeps its start. -/
def startAfter (p : Position) (flow : Option String) (now : Stamp) : Stamp :=
  if flow = p.flow then p.startedAt.getD now else now

/-- The position after a turn at `now`; none when the turn ends the flow or names no step. -/
def after (p : Position) (m : Move) (now : Stamp) : Option Position :=
  if m.completed || !isNamed m.step then none
  else
    let flow := p.flowAfter m.flow
    some ⟨flow, m.step, m.data, some (p.startAfter flow now)⟩

theorem after_eq_none_iff (p : Position) (m : Move) (now : Stamp) :
    p.after m now = none ↔ m.completed = true ∨ isNamed m.step = false := by
  unfold after
  split <;> simp_all

theorem startedAt_after {p q : Position} {m : Move} {now : Stamp} (h : p.after m now = some q) :
    q.startedAt = some (p.startAfter q.flow now) ∧ q.step = m.step ∧ q.data = m.data := by
  unfold after at h
  split at h
  · simp at h
  · cases h; exact ⟨rfl, rfl, rfl⟩

/-! ## Moves from loose data -/

/-- The position after a turn that is given as loose data. What is unset counts as left out, and a
turn that ends the flow is not looked at further. -/
def afterLoose (p : Position) (turn : Fields) (now : Stamp) : Except Fault (Option Position) := do
  let field (name : String) : Json := (Table.get? turn name).getD .null
  if (field "flow_completed").isTruthy || !(field "new_flow_step").isTruthy then return none
  let entries ← (field "new_flow_data").entries
  let move := (fun flow step data => Move.mk false flow (some step) data)
    <$> ((if (field "new_flow_type").isTruthy then
        some <$> Checked.asText (field "new_flow_type")
      else .good none).under "flow_type")
    <*> (Checked.asText (field "new_flow_step")).under "flow_step"
    <*> (Json.asFields entries).under "flow_data"
  return p.after (← move.orFault) now

/-! ## JSON -/

/-- A position as JSON. -/
def toJson (p : Position) : Json :=
  .obj [("flow_type", .ofText? p.flow), ("flow_step", .ofText? p.step), ("flow_data", .obj p.data),
    ("flow_started_at", .ofText? (p.startedAt.map Stamp.text))]

/-- What a position has learned is nested no deeper than can be written. -/
def isShallow (p : Position) : Bool := Json.fieldsHeight p.data ≤ 255

/-- A position as JSON, when it can be written. -/
def written (p : Position) : Except Fault Json :=
  if p.isShallow then .ok p.toJson else .error .tooDeepToWrite

theorem written_of_isShallow {p : Position} (h : p.isShallow = true) : p.written = .ok p.toJson :=
  if_pos h

/-- Reads a position, with a reader for its start. -/
def readWith (asStart : Json → Checked Stamp) : Json → Checked Position :=
  Checked.asRecord fun fields =>
    Position.mk <$> Checked.maybe fields ["flow_type"] Checked.asText
      <*> Checked.maybe fields ["flow_step"] Checked.asText
      <*> Checked.defaulted fields ["flow_data"] [] Checked.asTable
      <*> Checked.maybe fields ["flow_started_at"] asStart

/-- Reads a position. -/
def read : Json → Checked Position := readWith Checked.asStamp

/-- What a stored position may hold: values nested 200 deep, and numbers of 4300 digits in front of
a fraction. -/
def limits : Json.Limits where
  depth := 200
  isTooLong _ digits := 4300 < digits

/-- The text that stores a position. -/
def text (p : Position) : String := p.toJson.render

/-- Reads the text of a position. -/
def ofText (s : String) : Checked Position :=
  match Json.parse? limits s with
  | some value => readWith Checked.asStoredStamp value
  | none => Checked.flawed .unreadableJson

end Position

end Dialogue
