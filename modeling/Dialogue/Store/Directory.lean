import Dialogue.Definition.Build
import Dialogue.Store.Basic

/-!
# The store directory

Stores are looked up in the database by zone or by code. A zone gathers several names that documents
use. Where a zone is unknown or has no store, all active stores are offered.

The directory is also the source of options for definitions: the stores of a zone, all stores, or
all zones.
-/

namespace Dialogue.Store

/-! ## Zones -/

/-- A zone that a customer can choose. -/
structure Zone where
  id : String
  title : String
  /-- The names of the zone in documents. -/
  names : List String

/-- The zones, in the order in which they are offered. -/
def zones : List Zone := [
  ⟨"CABA", "CABA", ["CABA", "Capital Federal", "Paternal", "Villa Crespo"]⟩,
  ⟨"ZONA_NORTE", "Zona Norte", ["Zona Norte", "San Martín", "Tigre", "Nordelta", "Maschwitz"]⟩,
  ⟨"ZONA_NOROESTE", "Zona Noroeste",
    ["Zona Noroeste", "Pilar", "San Miguel", "José C. Paz", "Bella Vista"]⟩,
  ⟨"ZONA_OESTE", "Zona Oeste",
    ["Zona Oeste", "Moreno", "Gral Rodriguez", "Francisco Alvarez", "Luján"]⟩,
  ⟨"ZONA_SUR", "Zona Sur", ["Zona Sur", "Cañuelas", "Berazategui"]⟩,
  ⟨"ZONA_NORTE_LEJANO", "Zona Norte Lejano",
    ["Zona Norte Lejano", "Campana", "Capilla del Señor"]⟩]

/-- The zone of an id. Lists and objects cannot be ids. -/
def zone? (id : Json) : Except Fault (Option Zone) :=
  match id with
  | .str s => .ok (zones.find? (·.id = s))
  | .arr (_ :: _) | .obj (_ :: _) => .error (.misused .looked id)
  | _ => .ok none

/-! ## Reading stores -/

/-- The stores of some documents; those that are no stores are left out. -/
def ofDocuments (docs : List Fields) : Except Fault (List Store) :=
  (docs.mapM ofDocument).map fun stores => stores.filterMap id

/-- The order in which stores are offered. -/
def byName : Order := ⟨"name", false⟩

/-- All active stores. -/
def allActive : Lookup (List Store) := do
  let docs ← Lookup.select .stores [("isActive", .value (.bool true))] byName
  Lookup.note (.databaseUsed "get_all_stores" "success")
  Lookup.ofExcept (ofDocuments docs)

/-- The active stores whose documents use one of some zone names. -/
def withZoneNames (names : List String) : Lookup (List Store) := do
  let docs ← Lookup.select .stores
    [("isActive", .value (.bool true)), ("zoneName", .anyOf (names.map Json.str))] byName
  Lookup.note (.databaseUsed "get_stores_by_zone" "success")
  Lookup.ofExcept (ofDocuments docs)

/-- The active stores of a zone, or all active stores when there are none. -/
def inZone (id : Json) : Lookup (List Store) := do
  match ← Lookup.ofExcept (zone? id) with
  | none => allActive
  | some zone =>
    let stores ← withZoneNames zone.names
    if stores.isEmpty then allActive else return stores

/-- The active store of a code. -/
def withCode (code : Json) : Lookup (Option Store) := do
  let doc ← Lookup.first? .stores
    [("code", Wanted.ofJson code), ("isActive", .value (.bool true))]
  match doc with
  | none => return none
  | some doc => Lookup.ofExcept (ofDocument doc)

/-- The directory of the stores in the database. -/
def directory : StoreDirectory := ⟨inZone, allActive, withCode⟩

/-! ## Options -/

/-- A store as an option. -/
def option (s : Store) : Fields :=
  [("id", .str s.code), ("title", .str s.name),
    ("description", if s.address = "" then .null else .str s.address)]

/-- A zone as an option. -/
def Zone.option (z : Zone) : Fields := [("id", .str z.id), ("title", .str z.title)]

/-- The options of a source, which must be known. -/
def options : Definition.OptionSource := fun source data =>
  if source = "stores_by_zone" then
    (·.map option) <$> inZone ((Table.get? data "selectedZone").getD .null)
  else if source = "all_stores" then (·.map option) <$> allActive
  else if source = "all_zones" then return zones.map Zone.option
  else throw (.unknownSource source)

end Dialogue.Store
