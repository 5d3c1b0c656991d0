import Dialogue.Checked.Scalar
import Dialogue.Fault
import Dialogue.Json.Display

/-!
# Tables from pairs

A table can be given as a list of pairs. Whatever can be walked through counts as a list: a text is
the list of its characters, and an object that of its names. Of several values under one key the
last one counts, in the place of the first; keys are the same when they are equal as numbers.

Main statement: `ofPairs_append`, what the further pairs add.
-/

namespace Dialogue.Json

/-- The items of a value that can be walked through. -/
def walked? : Json → Option (List Json)
  | .arr items => some items
  | .str s => some (s.toList.map fun c => .str (String.singleton c))
  | .obj fields => some (fields.map fun (name, _) => .str name)
  | _ => none

/-- A key, with switches and whole numbers as integers. -/
def asKey : Json → Json
  | .bool b => .int (if b then 1 else 0)
  | .float x =>
    match x.toRatio? with
    | some (num, den) => if num.fmod den = 0 then .int (num.fdiv den) else .float x
    | none => .float x
  | key => key

/-- Puts a value under a key. -/
def putUnder (key value : Json) : List (Json × Json) → List (Json × Json)
  | [] => [(key, value)]
  | (k, old) :: rest =>
    if k.asKey = key.asKey then (k, value) :: rest else (k, old) :: putUnder key value rest

/-- The key and the value of a pair at a place in a list. -/
def pair (place : Nat) (item : Json) : Except Fault (Json × Json) :=
  match item.walked? with
  | none => .error (.noSequence place)
  | some [key, value] =>
    match key with
    | .arr _ | .obj _ => .error (.misused .looked key)
    | key => .ok (key, value)
  | some parts => .error (.noPair place parts.length)

/-- Puts the values of pairs under their keys; `place` is the number of the first pair. -/
def ofPairs : Nat → List (Json × Json) → List Json → Except Fault (List (Json × Json))
  | _, entries, [] => .ok entries
  | place, entries, item :: rest => do
    let (key, value) ← pair place item
    ofPairs (place + 1) (putUnder key value entries) rest

/-- The entries of a table that is given as an object or as pairs. What is unset has none. -/
def entries (value : Json) : Except Fault (List (Json × Json)) :=
  if !value.isTruthy then .ok []
  else match value with
    | .obj fields => .ok (fields.map fun (name, value) => (.str name, value))
    | value =>
      match value.walked? with
      | some items => ofPairs 0 [] items
      | none => .error (.misused .walked value)

/-- How a key shows in the path to a failure. -/
def keyText : Json → String
  | .bool b => if b then "1" else "0"
  | key => key.display

/-- The fields of a table; a key must be a text. -/
def asFields : List (Json × Json) → Checked Fields
  | [] => .good []
  | (key, value) :: rest =>
    (fun name rest => (name, value) :: rest)
      <$> ((Checked.asText key).under "[key]").under key.keyText
      <*> asFields rest

theorem ofPairs_append (place : Nat) (known : List (Json × Json)) (items more : List Json) :
    ofPairs place known (items ++ more) =
      ofPairs place known items >>= fun known => ofPairs (place + items.length) known more := by
  induction items generalizing place known with
  | nil => rfl
  | cons item rest ih =>
    simp only [List.cons_append, ofPairs, List.length_cons]
    cases pair place item with
    | error fault => rfl
    | ok entry =>
      show ofPairs (place + 1) _ (rest ++ more) = ofPairs (place + 1) _ rest >>= _
      rw [ih, Nat.add_right_comm, Nat.add_assoc]

end Dialogue.Json
