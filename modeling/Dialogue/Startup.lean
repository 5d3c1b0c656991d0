import Dialogue.Flow.Service

/-!
# Starting and stopping

When the bot starts, it creates the indexes of the database and registers the flows: the built-in
ones and, where this is wished, those of stored definitions over them. A database that fails costs
the stored flows alone. When it stops, the connection is closed.
-/

namespace Dialogue.Startup

/-- The indexes that the queries need. -/
def indexes : List Index := [
  ⟨.flows, [("code", 1)], [("unique", .bool true)]⟩,
  ⟨.flows, [("isActive", 1), ("isDefault", 1)], []⟩,
  ⟨.stores, [("code", 1)], [("unique", .bool true)]⟩,
  ⟨.stores, [("isActive", 1), ("zoneName", 1)], []⟩,
  ⟨.replies, [("isActive", 1), ("priority", -1)], []⟩]

/-- Creates the indexes, as far as the database answers. -/
def createIndexes : Act Unit := Act.lookup (indexes.forM Lookup.addIndex)

/-- Registers the flows of stored definitions and chooses the flow to open with. A fault leaves what
has been done. -/
def loadStored : Act Unit :=
  tryCatch
    (do
      let _ ← Registry.loadDynamic
      let _ ← Registry.loadOpening)
    fun _ => return ()

/-- Registers the flows. -/
def loadFlows (withStored : Bool) : Act Unit := do
  Registry.registerBuiltins
  if withStored then loadStored

/-- Starts and stops the bot. -/
def run (withStored : Bool) : Act Unit := do
  createIndexes
  loadFlows withStored
  Act.lookup Lookup.close

end Dialogue.Startup
