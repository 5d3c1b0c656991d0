import Dialogue.Content.Json
import Dialogue.Fault

/-!
# Outgoing messages

A content addressed to a recipient, sent through one of the business numbers. A message needs a
recipient, and an interactive content that offers nothing is sent as the text it shows.

Main statements: `recipient_ne_empty_of_make`, `content_of_make`.
-/

namespace Dialogue

/-- A message that is ready to be sent. -/
structure Message where
  recipient : String
  content : Content
  /-- The business number that sends the message. -/
  via : Option String
  deriving DecidableEq

namespace Message

/-- A recipient is a nonempty text. -/
def readRecipient (value : Json) : Checked String :=
  (Checked.asText value).andThen fun s => if s = "" then Checked.flawed .refused else .good s

/-- A message from loose data around a content. -/
def read (recipient : Json) (content : Content) (via : Json) : Checked Message :=
  Message.mk <$> (readRecipient recipient).under "to" <*> .good content.deliverable
    <*> (Checked.orNull Checked.asText via).under "phone_number_id"

/-- A message with a content; the recipient must not be empty. -/
def make (recipient : String) (content : Content) (via : Option String) : Except Fault Message :=
  if recipient = "" then .error (.invalid [⟨["to"], .refused⟩])
  else .ok ⟨recipient, content.deliverable, via⟩

/-- A message with a text. -/
def ofText (recipient : String) (body : String) (via : Option String) : Except Fault Message :=
  make recipient (Content.ofText body) via

/-- The message with a notice above its text. -/
def withNotice (notice : String) (m : Message) : Message :=
  { m with content := m.content.withNotice notice }

/-- Plain texts and messages with something to tap are sent by different calls. -/
def kindName (m : Message) : String :=
  match m.content with
  | .text _ => "text"
  | _ => "interactive"

/-- The fields of a message. -/
def fields (m : Message) : Fields :=
  [("to", .str m.recipient), ("content", m.content.toJson), ("phone_number_id", .ofText? m.via)]

/-- A message as JSON. -/
def toJson (m : Message) : Json := .obj m.fields

theorem recipient_ne_empty_of_make {recipient : String} {content : Content} {via : Option String}
    {m : Message} (h : make recipient content via = .ok m) :
    recipient ≠ "" ∧ m.recipient = recipient ∧ m.via = via := by
  unfold make at h
  split at h
  · simp at h
  · cases h; exact ⟨by assumption, rfl, rfl⟩

theorem content_of_make {recipient : String} {content : Content} {via : Option String} {m : Message}
    (h : make recipient content via = .ok m) : m.content = content.deliverable := by
  unfold make at h
  split at h
  · simp at h
  · cases h; rfl

theorem content_withNotice (notice : String) (m : Message) :
    (m.withNotice notice).content = m.content.withNotice notice := rfl

end Message

end Dialogue
