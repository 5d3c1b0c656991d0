import Dialogue.Json.Value
import Dialogue.Number.Shortest
import Dialogue.Text.Quoted

/-!
# Values inside a text

How a value reads when it is put into a sentence: a text stands for itself, and any other value is
shown in a notation with capitalised constants, where texts inside lists and objects are quoted.
-/

namespace Dialogue.Json

mutual

/-- The notation of a value, with texts in quotes. -/
def notated : Json → String
  | .null => "None"
  | .bool b => if b then "True" else "False"
  | .int i => toString i
  | .float x => x.text
  | .str s => Text.quoted s
  | .arr items => "[" ++ notatedItems items ++ "]"
  | .obj fields => "\x7b" ++ notatedFields fields ++ "\x7d"

/-- The notations of items, parted by a comma and a blank. -/
def notatedItems : List Json → String
  | [] => ""
  | [item] => notated item
  | item :: rest => notated item ++ ", " ++ notatedItems rest

/-- The notations of fields, parted by a comma and a blank. -/
def notatedFields : List (String × Json) → String
  | [] => ""
  | [(name, value)] => Text.quoted name ++ ": " ++ notated value
  | (name, value) :: rest =>
    Text.quoted name ++ ": " ++ notated value ++ ", " ++ notatedFields rest

end

/-- The text of a value: a text itself, and the notation of any other value. -/
def display : Json → String
  | .str s => s
  | value => value.notated

end Dialogue.Json
