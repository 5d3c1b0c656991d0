import Dialogue.Database.Basic
import Dialogue.Fault
import Dialogue.Tally

/-!
# Looking things up

A lookup reads the database and leaves its trace in the tally. What it did before a fault stays
done.
-/

namespace Dialogue

/-- What lookups read and write. -/
structure Backend where
  database : Database := {}
  tally : Tally := []

/-- A computation that uses the database and may fail. -/
abbrev Lookup := ExceptT Fault (StateM Backend)

namespace Lookup

variable {α : Type}

/-- Counts an event. -/
def note (e : Event) : Lookup Unit := modify fun b => { b with tally := e :: b.tally }

/-- Goes on with the value of a computation without effects. -/
def ofExcept (x : Except Fault α) : Lookup α := ExceptT.mk (pure x)

/-- Uses the database once; fails when it is out of order at this use. -/
def use : Lookup Unit := do
  let b ← get
  set { b with database := { b.database with uses := b.database.uses + 1 } }
  if b.database.outage b.database.uses then throw .databaseDown

/-- The documents that satisfy a query. -/
def select (collection : Collection) (query : Query) (order : Option Order) :
    Lookup (List Fields) := do
  use
  return (← get).database.select collection query order

/-- The first document that satisfies a query. -/
def first? (collection : Collection) (query : Query) : Lookup (Option Fields) := do
  use
  return (← get).database.first? collection query

/-- Sets fields of the document with a key, or adds one. -/
def upsert (collection : Collection) (query : Query) (changes atFirst : Fields) : Lookup Unit := do
  use
  modify fun b =>
    { b with database := b.database.upsert collection query changes atFirst }

/-- Whether the database answers. -/
def isAlive : Lookup Bool := tryCatch (do use; return true) fun _ => return false

/-- Adds an index, unless the database is out of order. -/
def addIndex (index : Index) : Lookup Unit :=
  tryCatch
    (do
      use
      modify fun b =>
        { b with database := { b.database with indexes := b.database.indexes ++ [index] } })
    fun _ => return ()

/-- Closes the connection. -/
def close : Lookup Unit :=
  modify fun b => { b with database := { b.database with isClosed := true } }

end Lookup

end Dialogue
