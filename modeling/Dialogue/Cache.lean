import Dialogue.Table
import Dialogue.Text.Bytes
import Dialogue.Time.Stamp

/-!
# The cache

Values under text keys. A value is a text, or bytes that are none. A cache may be left without a
connection, it may be out of order at any of its uses, and it may or may not forget what is older
than the time it was to be kept.

Main statements: `read?_write_self` and `read?_write_of_ne`, what is written is read under its key,
and only there.
-/

namespace Dialogue

/-- A stored value. -/
inductive Payload where
  | text (s : String)
  /-- Bytes that are no text, and how they are shown. -/
  | garbled (shown : String)
  deriving DecidableEq

/-- The value of some bytes. -/
def Payload.ofBytes (bytes : List Nat) : Payload :=
  match Text.decode? bytes with
  | some s => .text s
  | none => .garbled (Text.decodeAll bytes)

/-- What is stored under a key. -/
structure CacheEntry where
  payload : Payload
  /-- The seconds that the entry is to be kept, if it was written with a limit. -/
  seconds : Option Int
  writtenAt : Instant

/-- The entries, and whether and when they can be used. -/
structure Cache where
  entries : Table CacheEntry := []
  /-- There is a connection. -/
  isConnected : Bool := true
  /-- Entries are forgotten when their time is over. -/
  forgets : Bool := false
  /-- The number of uses so far. -/
  uses : Nat := 0
  /-- The uses that fail. -/
  outage : Nat → Bool := fun _ => false

namespace Cache

/-- An entry can still be read at a time. -/
def isKept (c : Cache) (now : Instant) (e : CacheEntry) : Bool :=
  !c.forgets || e.seconds.all fun s => now < e.writtenAt + s * Time.second

/-- What is stored under a key at a time. -/
def read? (c : Cache) (now : Instant) (key : String) : Option Payload :=
  ((c.entries.get? key).filter (c.isKept now)).map (·.payload)

/-- Stores an entry. -/
def write (c : Cache) (key : String) (e : CacheEntry) : Cache :=
  { c with entries := c.entries.set key e }

/-- Removes an entry. -/
def remove (c : Cache) (key : String) : Cache := { c with entries := c.entries.erase key }

/-- The next use fails. -/
def isDown (c : Cache) : Bool := c.outage c.uses

/-- Counts a use. -/
def used (c : Cache) : Cache := { c with uses := c.uses + 1 }

theorem read?_write_self (c : Cache) (now : Instant) (key : String) (e : CacheEntry)
    (h : c.isKept now e = true) : (c.write key e).read? now key = some e.payload := by
  have h' : (c.write key e).isKept now e = true := h
  unfold read?
  rw [show (c.write key e).entries.get? key = some e from Table.get?_set_self _ _ _,
    Option.filter_some, h']
  rfl

theorem read?_write_of_ne (c : Cache) (now : Instant) {key other : String} (e : CacheEntry)
    (h : key ≠ other) : (c.write key e).read? now other = c.read? now other := by
  unfold read?
  rw [show (c.write key e).entries.get? other = c.entries.get? other from
    Table.get?_set_of_ne _ _ h]
  rfl

end Cache

end Dialogue
