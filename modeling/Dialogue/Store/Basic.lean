import Dialogue.Checked.Fields
import Dialogue.Fault
import Dialogue.Json.Display
import Dialogue.Lookup

/-!
# Stores

The places where the business sells, as they are read from stored documents. A document without a
code is no store.

Main statement: `ofDocument_eq_none_iff`, which documents are left out.
-/

namespace Dialogue

/-- A place of the business. -/
structure Store where
  code : String
  name : String
  address : String
  zone : Option String
  isActive : Bool
  deriving DecidableEq

/-- The first of two values that is set, or else the second. -/
def Json.orIfUnset (a b : Json) : Json := if a.isTruthy then a else b

/-- The first characters of a list; a negative number leaves out as many at the end. -/
def takeSigned {α : Type} (n : Int) (l : List α) : List α :=
  match n with
  | .ofNat k => l.take k
  | .negSucc k => l.take (l.length - (k + 1))

namespace Store

/-- The store of a document. -/
def ofDocument (doc : Fields) : Except Fault (Option Store) :=
  let field (name : String) : Json := (Table.get? doc name).getD .null
  let code := field "code"
  if !code.isTruthy then .ok none
  else
    let active := (Checked.find? doc ["isActive", "is_active"]).getD (.bool true)
    some <$> Checked.orFault
      (Store.mk code.display
        <$> (Checked.asText ((field "name").orIfUnset (.str code.display))).under "name"
        <*> (Checked.asText ((field "address").orIfUnset (.str ""))).under "address"
        <*> (Checked.orNull Checked.asText
          ((field "zoneName").orIfUnset (field "zone_name"))).under "zone_name"
        <*> (Checked.asSwitch active).under "is_active")

/-- The address in at most `limit` characters, with dots where it is cut. -/
def shortAddress (s : Store) (limit : Int) : String :=
  if s.address.length ≤ limit then s.address
  else String.ofList (takeSigned (limit - 3) s.address.toList) ++ "..."

/-- A store as JSON. -/
def toJson (s : Store) : Json :=
  .obj [("code", .str s.code), ("name", .str s.name), ("address", .str s.address),
    ("zone_name", .ofText? s.zone), ("is_active", .bool s.isActive)]

theorem ofDocument_eq_none_iff (doc : Fields) :
    ofDocument doc = .ok none ↔ ((Table.get? doc "code").getD .null).isTruthy = false := by
  unfold ofDocument
  simp only
  split
  · simp_all
  · rename_i h
    simp only [Bool.not_eq_true', Bool.not_eq_false] at h
    simp only [h, Bool.true_eq_false, iff_false]
    intro hc
    generalize Checked.orFault _ = r at hc
    cases r <;> simp [Functor.map, Except.map] at hc

end Store

/-! ## Directories -/

/-- Where stores are looked up. Zones and codes are loose data, as conversations learn them. -/
structure StoreDirectory where
  byZone : Json → Lookup (List Store)
  active : Lookup (List Store)
  byCode : Json → Lookup (Option Store)

end Dialogue
