import Dialogue.Cache
import Dialogue.Flow.Turn

/-!
# The running bot

What a running bot holds: the database and the tally, the cache, the registered flows, the flow that
conversations open with, and the time. An act may change all of it and may fail; what it did before
a fault stays done.
-/

namespace Dialogue

/-- What does not change while the bot runs. -/
structure Config where
  /-- The folded commands that cancel a flow. -/
  cancelCommands : List String
  /-- The flow to open with when no stored one is flagged. -/
  fallbackOpening : String := "main_menu"
  /-- The minutes of a flow that is not registered. -/
  usualMinutes : Int := 30
  /-- The seconds that a position is kept. -/
  stateSeconds : Int := 86400
  /-- The seconds that the canned replies are kept. -/
  replySeconds : Int := 60
  /-- Canned replies are used. -/
  usesReplies : Bool := true

/-- A running bot. -/
structure World where
  config : Config
  /-- What the clock of the place shows. -/
  clock : Stamp
  /-- The flow that conversations open with. -/
  opening : String
  backend : Backend := {}
  cache : Cache := {}
  registry : Registry := []

/-- The present moment. -/
def World.now (w : World) : Instant := w.clock.moment

/-- Something that the running bot does. -/
abbrev Act := ExceptT Fault (StateM World)

namespace Act

variable {α : Type}

/-- A lookup as an act. -/
def lookup (l : Lookup α) : Act α := ExceptT.mk fun w =>
  let (result, backend) := l.run.run w.backend
  (result, { w with backend := backend })

/-- Counts an event. -/
def note (e : Event) : Act Unit := lookup (Lookup.note e)

/-- Moves the clock on by some microseconds. -/
def advance (micros : Int) : Act Stamp := do
  let clock ← lookup (Lookup.ofExcept ((← get).clock.plus micros))
  modify fun w => { w with clock := clock }
  return clock

/-! ## Using the cache -/

/-- Uses the cache once; the answer says whether it is in order. -/
def useCache : Act Bool := do
  let w ← get
  set { w with cache := w.cache.used }
  return !w.cache.isDown

/-- The text under a key. A cache that fails, or that holds no text there, gives nothing. -/
def cached? (key : String) : Act (Option String) := do
  if !(← get).cache.isConnected then return none
  if !(← useCache) then
    note (.cacheUsed "get" "error")
    return none
  let w ← get
  match w.cache.read? w.now key with
  | none | some (.text "") =>
    note (.cacheUsed "get" "miss")
    return none
  | some (.text s) =>
    note (.cacheUsed "get" "hit")
    return some s
  | some (.garbled _) =>
    note (.cacheUsed "get" "hit")
    note (.cacheUsed "get" "error")
    return none

/-- Stores a text under a key for some seconds, unless the cache fails. -/
def remember (key text : String) (seconds : Int) : Act Unit := do
  if !(← get).cache.isConnected then return
  if !(← useCache) then
    note (.cacheUsed "set" "error")
  else
    modify fun w => { w with cache := w.cache.write key ⟨.text text, seconds, w.now⟩ }
    note (.cacheUsed "set" "success")

/-- Removes what is under a key, unless the cache fails. -/
def forget (key : String) : Act Unit := do
  if !(← get).cache.isConnected then return
  if !(← useCache) then
    note (.cacheUsed "delete" "error")
  else
    modify fun w => { w with cache := w.cache.remove key }
    note (.cacheUsed "delete" "success")

/-- Whether the cache answers. -/
def isCacheAlive : Act Bool := do
  if !(← get).cache.isConnected then return false
  useCache

end Act

end Dialogue
