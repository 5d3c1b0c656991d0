import Dialogue.Json.Value
import Dialogue.Text.Bytes

/-!
# Requests and responses

A request names a method and a path. The path is parted at its slashes, and an escaped byte stands
for itself; what follows a question mark or a number sign is no part of it.

Main statement: `pathBytes_of_ne_percent`, any character but the percent sign stands for itself.
-/

namespace Dialogue.Admin

/-- A request. -/
structure Request where
  method : String
  path : String
  /-- The value sent along, if any. -/
  body : Option Json

/-- The answer to a request. -/
structure Answer where
  status : Nat
  body : Json

/-- An answer that names what is wrong. -/
def Answer.detail (status : Nat) (detail : Json) : Answer := ⟨status, .obj [("detail", detail)]⟩

/-! ## Paths -/

/-- The value of a hexadecimal digit. -/
def hexValue? (c : Char) : Option Nat :=
  if c.isDigit then some (c.toNat - 48)
  else if 'a' ≤ c ∧ c ≤ 'f' then some (c.toNat - 87)
  else if 'A' ≤ c ∧ c ≤ 'F' then some (c.toNat - 55)
  else none

/-- The byte that two hexadecimal digits write. -/
def byte? (a b : Char) : Option Nat := do
  some (16 * (← hexValue? a) + (← hexValue? b))

/-- The bytes of a path, where an escaped byte stands for itself. -/
def pathBytes : List Char → List Nat
  | [] => []
  | '%' :: a :: b :: cs =>
    match byte? a b with
    | some byte => byte :: pathBytes cs
    | none => '%'.toNat :: pathBytes (a :: b :: cs)
  | c :: cs => (String.utf8EncodeChar c).map UInt8.toNat ++ pathBytes cs

/-- Characters parted at every slash. -/
def splitSlashes : List Char → List (List Char)
  | [] => [[]]
  | c :: cs =>
    if c = '/' then [] :: splitSlashes cs
    else match splitSlashes cs with
      | [] => [[c]]
      | part :: rest => (c :: part) :: rest

/-- The parts of a path behind its first slash. -/
def pathParts (path : String) : List String :=
  let bare := path.toList.takeWhile fun c => c ≠ '?' && c ≠ '#'
  let parts := (splitSlashes (Text.decodeAll (pathBytes bare)).toList).map String.ofList
  match parts with
  | "" :: rest => rest
  | parts => parts

theorem pathBytes_of_ne_percent {c : Char} (h : c ≠ '%') (cs : List Char) :
    pathBytes (c :: cs) = (String.utf8EncodeChar c).map UInt8.toNat ++ pathBytes cs := by
  rw [pathBytes]
  intro a b cs' hc
  exact absurd hc h

end Dialogue.Admin
