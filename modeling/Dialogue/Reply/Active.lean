import Dialogue.Reply.Basic
import Dialogue.World

/-!
# Active canned replies

The canned replies that are in use, those of the highest priority first. They are read from the
database and kept in the cache for a while. A cached text that is no list of replies is replaced.
-/

namespace Dialogue.CannedReply

/-- The key of the replies in the cache. -/
def cacheKey : String := "auto_responses:active"

/-- The active replies in the database. -/
def findActive : Lookup (List CannedReply) := do
  let docs ← Lookup.select .replies [("isActive", .value (.bool true))]
    (some ⟨"priority", true⟩)
  Lookup.note (.databaseUsed "get_auto_responses" "success")
  return docs.filterMap ofDocument?

/-- The text that keeps replies. -/
def textOf (replies : List CannedReply) : String :=
  (Json.arr (replies.map toJson)).render

/-- The priority has no more digits than an integer is written with. -/
def isWritable (r : CannedReply) : Bool :=
  (Nat.toDigits 10 r.priority.natAbs).length ≤ Checked.mostDigits

/-- The text that keeps replies, when they can be written. -/
def written (replies : List CannedReply) : Except Fault String :=
  if replies.all isWritable then .ok (textOf replies) else .error (.longInteger none)

/-- What a cached text may hold: values as deep as the reader can follow, and integers of 4300
digits. -/
def limits : Json.Limits where
  depth := 980
  isTooLong fractional digits := !fractional && 4300 < digits
  allowsHalves := true

/-- The replies of a cached text. Only a value that can be walked through can hold replies, and a
nonempty one that is no list of replies holds none. A text beyond the limits is a fault. -/
def ofText? (text : String) : Except Fault (Option (List CannedReply)) :=
  match Json.read limits text with
  | .ok (.arr items) => .ok (items.mapM fun item => (read item).toOption)
  | .ok (.str s) => .ok (if s = "" then some [] else none)
  | .ok (.obj fields) => .ok (if fields.isEmpty then some [] else none)
  | .ok value => .error (.misused .walked value)
  | .error .malformed => .ok none
  | .error (.tooDeep inList) => .error (.nestedTooDeep inList)
  | .error (.tooLong digits) => .error (.longInteger (some digits))

/-- The active replies in the database and the text that keeps them. Replies that cannot be written
are a fault. -/
def fresh : Lookup (List CannedReply × String) := do
  let replies ← findActive
  return (replies, ← Lookup.ofExcept (written replies))

/-- Reads the active replies from the database and keeps them in the cache. -/
def refresh : Act (List CannedReply) := do
  let kept ← Act.lookup fresh
  Act.remember cacheKey kept.2 (← get).config.replySeconds
  return kept.1

/-- The active replies, from the cache if it holds them. -/
def active : Act (List CannedReply) := do
  match ← Act.cached? cacheKey with
  | none => refresh
  | some text =>
    match ← Act.lookup (Lookup.ofExcept (ofText? text)) with
    | some replies => return replies
    | none => refresh

/-- The category of a reply in the tally. -/
def tallied (r : CannedReply) : String :=
  match r.category with
  | none | some "" => "none"
  | some category => category

/-- The first active reply that a message calls for. -/
def findMatch (message : String) : Act (Option CannedReply) := do
  let folded := Text.fold message
  if folded = "" then return none
  match ← Act.lookup (Lookup.ofExcept (firstFor? folded (← active))) with
  | some r =>
    Act.note (.replied r.tallied)
    return some r
  | none => return none

/-- Drops the cached replies and gives the number of those that are active now. -/
def reload : Act Nat := do
  Act.forget cacheKey
  return (← active).length

end Dialogue.CannedReply
