import Dialogue.Checked.Fields
import Dialogue.Fault
import Dialogue.Regex.Reader
import Dialogue.Text.Fold
import Dialogue.Text.Search

/-!
# Canned replies

A reply that people configured for messages outside of flows, and the trigger that calls for it. The
trigger is compared with the folded message in one of four ways. A document that is incomplete or
malformed is no reply.

Main statement: `answers_of_blank`, a trigger that folds to nothing never matches.
-/

namespace Dialogue

/-- How a trigger is compared with a message. -/
inductive TriggerKind where
  | keyword
  | exact
  | regex
  | startsWith
  deriving DecidableEq

namespace TriggerKind

/-- The name of a way. -/
def name : TriggerKind → String
  | .keyword => "keyword"
  | .exact => "exact"
  | .regex => "regex"
  | .startsWith => "startswith"

/-- The way of a name. -/
def named? (s : String) : Option TriggerKind :=
  [TriggerKind.keyword, .exact, .regex, .startsWith].find? (·.name = s)

/-- The way that a document asks for; what is not known counts as a keyword. -/
def ofDocument : Json → TriggerKind
  | .str s => (named? s).getD .keyword
  | _ => .keyword

end TriggerKind

/-- A canned reply. -/
structure CannedReply where
  trigger : String
  kind : TriggerKind
  response : String
  category : Option String
  priority : Int
  isActive : Bool
  deriving DecidableEq

namespace CannedReply

/-- Reads a reply. -/
def read : Json → Checked CannedReply :=
  Checked.asRecord fun fields =>
    CannedReply.mk <$> Checked.required fields ["trigger"] Checked.asText
      <*> Checked.defaulted fields ["trigger_type"] .keyword (Checked.asChoice TriggerKind.named?)
      <*> Checked.required fields ["response"] Checked.asText
      <*> Checked.maybe fields ["category"] Checked.asText
      <*> Checked.defaulted fields ["priority"] 0 Checked.asInteger
      <*> Checked.defaulted fields ["is_active"] true Checked.asSwitch

/-- A reply as JSON. -/
def toJson (r : CannedReply) : Json :=
  .obj [("trigger", .str r.trigger), ("trigger_type", .str r.kind.name),
    ("response", .str r.response), ("category", .ofText? r.category),
    ("priority", .int r.priority), ("is_active", .bool r.isActive)]

/-- The reply of a document. -/
def ofDocument? (doc : Fields) : Option CannedReply :=
  let field (name : String) : Json := (Table.get? doc name).getD .null
  if !(field "trigger").isTruthy || !(field "response").isTruthy then none
  else
    Checked.toOption
      (CannedReply.mk <$> Checked.asText (field "trigger")
        <*> .good (.ofDocument (field "triggerType"))
        <*> Checked.asText (field "response")
        <*> Checked.orNull Checked.asText (field "category")
        <*> (if (field "priority").isTruthy then Checked.asInteger (field "priority")
          else .good 0)
        <*> Checked.asSwitch ((Table.get? doc "isActive").getD (.bool true)))

/-- Whether a folded message calls for the reply. A malformed pattern never does. -/
def answers (r : CannedReply) (message : String) : Except Fault Bool :=
  let trigger := Text.fold r.trigger
  if trigger = "" then .ok false
  else match r.kind with
    | .exact => .ok (message = trigger)
    | .startsWith => .ok (trigger.toList.isPrefixOf message.toList)
    | .keyword => .ok (Text.occursIn trigger message)
    | .regex =>
      match Regex.search r.trigger true message with
      | .ok found => .ok found
      | .error (.malformed _ _ _) => .ok false
      | .error fault => .error (.badPattern fault)

/-- The first of several replies that a folded message calls for. -/
def firstFor? (message : String) : List CannedReply → Except Fault (Option CannedReply)
  | [] => .ok none
  | r :: rest => do if ← r.answers message then return some r else firstFor? message rest

theorem answers_of_blank {r : CannedReply} (h : Text.fold r.trigger = "") (message : String) :
    r.answers message = .ok false := by
  simp [answers, h]

end CannedReply

end Dialogue
