import Dialogue.World

/-!
# Stored positions

The position of each conversation is kept in the cache under the customer's id. A text that cannot
be read as a position counts as no position.
-/

namespace Dialogue.Position

/-- The key of a customer's position. -/
def cacheKey (customer : String) : String := "flow_state:" ++ customer

/-- The position of a cached text. -/
def ofCached? (text : Option String) : Position :=
  (text.bind fun s => (ofText s).toOption).getD {}

/-- The stored position of a customer; the empty one when nothing readable is stored. -/
def stored (customer : String) : Act Position :=
  return ofCached? (← Act.cached? (cacheKey customer))

/-- Stores the position of a customer. -/
def save (customer : String) (p : Position) : Act Unit := do
  if !p.isShallow then throw .tooDeepToStore
  Act.remember (cacheKey customer) p.text (← get).config.stateSeconds

/-- Removes the stored position of a customer. -/
def clear (customer : String) : Act Unit := Act.forget (cacheKey customer)

end Dialogue.Position
