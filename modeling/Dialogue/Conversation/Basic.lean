import Dialogue.Conversation.Stored
import Dialogue.Flow.Service
import Dialogue.Intent
import Dialogue.Reply.Active

/-!
# Conversations

What the bot says to an incoming message. A command to cancel ends the running flow, or opens the
menu when there is none. A position that can still be answered takes the message as the answer.
Anything else starts afresh: what was tapped opens the menu, and what was typed is understood by its
intent, where canned replies come before all intents but the wish to buy.

After every turn the position is stored, or removed when the flow has ended.
-/

namespace Dialogue

/-- A message of a customer. -/
structure Incoming where
  customer : String
  messageId : Option String
  senderName : Option String
  /-- What was sent: a text, a tapped button or row, a location, or something else. -/
  kind : String
  /-- The text, or the id of what was tapped. -/
  content : Option String
  /-- The business number that received the message. -/
  via : Option String
  extras : Fields

/-- What the bot wants to say. -/
structure Response where
  messages : List Message
  status : String
  /-- The conversation is handed to a person. -/
  transfers : Bool := false
  flow : Option String := none
  step : Option String := none

namespace Incoming

/-- Reads a message. -/
def read : Json → Checked Incoming :=
  Checked.asRecord fun fields =>
    Incoming.mk <$> Checked.required fields ["wa_id"] Checked.asText
      <*> Checked.maybe fields ["wa_message_id"] Checked.asText
      <*> Checked.maybe fields ["sender_name"] Checked.asText
      <*> Checked.defaulted fields ["message_type"] "text" Checked.asText
      <*> Checked.maybe fields ["content"] Checked.asText
      <*> Checked.maybe fields ["phone_number_id"] Checked.asText
      <*> Checked.defaulted fields ["metadata"] [] Checked.asTable

/-- To whom an answer goes, and through which number. -/
def address (m : Incoming) : Address := ⟨m.customer, m.via⟩

/-- The kind of answer that a message is; a shared location and all that is not known can be any. -/
def inputKind (m : Incoming) : InputKind :=
  if m.kind = "text" then .text
  else if m.kind = "button_reply" then .buttonReply
  else if m.kind = "list_reply" then .listReply
  else .any

/-- What a message says; a location has a word of its own. -/
def input (m : Incoming) : String :=
  if m.kind = "location" then Catalogue.Menu.locationReceived
  else Text.strip (m.content.getD "")

/-- What is known when a flow begins. -/
def initialData (m : Incoming) : Fields :=
  match m.senderName with
  | none | some "" => []
  | some name => [("customerName", .str name)]

end Incoming

namespace Response

/-- A response as JSON. -/
def toJson (r : Response) : Json :=
  .obj [("should_respond", .bool true), ("messages", .arr (r.messages.map Message.toJson)),
    ("transfer_to_agent", .bool r.transfers), ("status", .str r.status),
    ("flow_type", .ofText? r.flow), ("flow_step", .ofText? r.step)]

end Response

namespace Conversation

/-- A response with a text. -/
def say (m : Incoming) (body status : String) : Act Response := do
  let message ← Act.lookup (Lookup.ofExcept (Message.ofText m.customer body m.via))
  return { messages := [message], status := status }

/-- Stores where a turn leads and says what it shows. -/
def settle (m : Incoming) (before : Position) (turn : Turn) : Act Response := do
  let position := before.after turn.move (← get).clock
  match position with
  | none => Position.clear m.customer
  | some p => Position.save m.customer p
  return {
    messages := [turn.message]
    status := turn.status.name
    transfers := turn.isTransferred
    flow := position.bind (·.flow)
    step := position.bind (·.step) }

/-- Starts the flow of a code, whatever the stored position. -/
def start (m : Incoming) (code : String) : Act Response := do
  let _ ← Registry.ensure code
  let turn ← Act.lookup (Turn.start (← get).registry m.address (some code) m.initialData)
  match turn with
  | none => say m Wording.welcome "flow_error"
  | some turn => settle m {} turn

/-- Starts the flow that conversations open with. -/
def openMenu (m : Incoming) : Act Response := do start m (← get).opening

/-- Cancels the running flow, or opens the menu when none is running. -/
def cancel (m : Incoming) (p : Position) : Act Response := do
  if !p.isSet then openMenu m
  else
    Position.clear m.customer
    let message ← Act.lookup (Lookup.ofExcept (Turn.cancelled m.address))
    return { messages := [message], status := "cancelled" }

/-- The reply to an intent when no canned reply was found. -/
def answerIntent (m : Incoming) : Intent → Act Response
  | .greeting => openMenu m
  | .sale => start m Catalogue.quotationCode
  | .question => start m Catalogue.topicsCode
  | .farewell => say m Wording.farewell "farewell"
  | .thanks => say m Wording.thanks "thanks"
  | .unknown => say m Wording.fallback "fallback"

/-- The canned reply to an input, if canned replies are used. -/
def cannedReply? (input : String) : Act (Option CannedReply) := do
  if (← get).config.usesReplies then CannedReply.findMatch input else return none

/-- The response to a message outside of flows. -/
def answerFresh (m : Incoming) : Act Response := do
  if m.inputKind ≠ .text || m.input = "" then openMenu m
  else
    let intent := (Intent.detect m.input).intent
    if intent = .sale then answerIntent m .sale
    else match ← cannedReply? m.input with
      | some reply => say m reply.response "auto_response"
      | none => answerIntent m intent

/-- The response to a message at a position. -/
def answerAt (m : Incoming) (p : Position) : Act Response := do
  let code := p.flow.getD ""
  let _ ← Registry.ensure code
  match ← Act.lookup (Turn.answer (← get).registry m.address p m.input (.ok m.inputKind)) with
  | none =>
    Position.clear m.customer
    say m Wording.fallback "flow_error"
  | some turn => settle m p turn

/-- The position that still counts: one that is past its deadline is removed. -/
def current (m : Incoming) (p : Position) : Act Position := do
  if !p.isSet then return p
  let w ← get
  let isActive ← Act.lookup (Lookup.ofExcept
    (Turn.isActive w.registry w.config.usualMinutes w.now p))
  if isActive then return p
  Position.clear m.customer
  return {}

/-- The response to a message. -/
def respond (m : Incoming) : Act Response := do
  let p ← Position.stored m.customer
  if m.inputKind = .text && Turn.isCancel (← get).config.cancelCommands m.input then cancel m p
  else
    let p ← current m p
    if p.isSet then answerAt m p else answerFresh m

/-- The response to a message, which is counted. -/
def process (m : Incoming) : Act Response := do
  let response ← respond m
  Act.note (.answered response.status m.kind)
  return response

end Conversation

end Dialogue
