import Dialogue.Definition.Build
import Dialogue.Definition.Json

/-!
# Stored definitions

Definitions are kept as documents, one for each code. A document that cannot be read counts as
missing. Saving writes all that an author can write, and notes when the definition was first and
last saved; its id is the database's.

The flows of stored definitions are built together: each may switch to the flows that are known and
to every other active definition.
-/

namespace Dialogue.Definition

/-! ## Reading -/

/-- The document with its own id as the id of the definition. -/
def withDocumentId (doc : Fields) : Fields :=
  let id := ((Table.get? doc "_id").map Json.display).getD ""
  Table.set (Table.erase doc "_id") "id" (if id = "" then .null else .str id)

/-- The definition of a document; one that cannot be read is noted. -/
def ofDocument (doc : Fields) : Lookup (Option Definition) := do
  if doc.isEmpty then return none
  match readFields (withDocumentId doc) with
  | .good d => return some d
  | .bad _ =>
    Lookup.note (.databaseUsed "parse_flow" "failed")
    return none

/-- All definitions that can be read. -/
def findAll : Lookup (List Definition) := do
  let docs ← Lookup.select .flows [] none
  Lookup.note (.databaseUsed "find_flows" "success")
  return (← docs.mapM ofDocument).filterMap fun d => d

/-- The definition of a code. -/
def findByCode (code : String) : Lookup (Option Definition) := do
  let doc ← Lookup.first? .flows [("code", .value (.str code))]
  Lookup.note (.databaseUsed "find_flow" (if doc.isSome then "success" else "miss"))
  match doc with
  | some doc => ofDocument doc
  | none => return none

/-- The definition that conversations open with. -/
def findDefault : Lookup (Option Definition) := do
  match ← Lookup.first? .flows
      [("isDefault", .value (.bool true)), ("isActive", .value (.bool true))] with
  | some doc => ofDocument doc
  | none => return none

/-! ## Saving -/

/-- Saves a definition under its code and gives what is stored then. -/
def save (d : Definition) (now : Stamp) : Lookup Definition := do
  let stamp := Json.str now.text
  tryCatch
    (do
      Lookup.upsert .flows [("code", .value (.str d.code))]
        (d.authoredFields ++ [("updatedAt", stamp)]) [("createdAt", stamp)]
      Lookup.note (.databaseUsed "save_flow" "success"))
    fun fault => do
      Lookup.note (.databaseUsed "save_flow" "failed")
      throw fault
  return (← findByCode d.code).getD d

/-! ## Building flows -/

/-- Adds the flows of definitions to a registry, as far as they pass the check. -/
def loadEach (source : OptionSource) (known : List String) :
    List Definition → Table Flow → Lookup (Table Flow)
  | [], flows => return flows
  | d :: rest, flows => do
    match ← d.load source (some known) with
    | some flow => loadEach source known rest (flows.set d.code flow)
    | none => loadEach source known rest flows

/-- The flows of some definitions. Each active one may switch to the others. -/
def loadActive (source : OptionSource) (known : List String) (definitions : List Definition) :
    Lookup (Table Flow) :=
  let active := definitions.filter (·.isActive)
  loadEach source (known ++ active.map Definition.code) active []

/-- The flows of all active stored definitions. -/
def loadAll (source : OptionSource) (known : List String) : Lookup (Table Flow) := do
  loadActive source known (← findAll)

/-- The flow of an active definition, if there is one. -/
def loadFound (source : OptionSource) (known : List String) (found : Option Definition) :
    Lookup (Option (String × Flow)) := do
  match found with
  | none => return none
  | some d =>
    if !d.isActive then return none
    return (← d.load source (some known)).map fun flow => (d.code, flow)

/-- The flow of the active stored definition of a code. -/
def loadOne (source : OptionSource) (known : List String) (code : String) :
    Lookup (Option Flow) := do
  return (← loadFound source known (← findByCode code)).map (·.2)

/-- The flow that conversations open with, and its code. -/
def loadDefault (source : OptionSource) (known : List String) :
    Lookup (Option (String × Flow)) := do
  loadFound source known (← findDefault)

end Dialogue.Definition
