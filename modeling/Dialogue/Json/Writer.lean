import Dialogue.Json.Value
import Dialogue.Number.Shortest

/-!
# Writing JSON text

Values are written without gaps. Strings keep their characters; only the quote, the backslash and
the controls are escaped. A number that is infinite or undefined has no JSON form and is written as
null.
-/

namespace Dialogue.Json

/-- A control character as an escape of four hexadecimal digits. -/
def unitEscape (c : Char) : List Char :=
  ['\\', 'u', '0', '0', Nat.digitChar (c.toNat / 16), Nat.digitChar (c.toNat % 16)]

/-- One character of a string. -/
def writeChar (c : Char) : List Char :=
  if c = '"' ∨ c = '\\' then ['\\', c]
  else if c = '\n' then ['\\', 'n']
  else if c = '\r' then ['\\', 'r']
  else if c = '\t' then ['\\', 't']
  else if c = '\x08' then ['\\', 'b']
  else if c = '\x0c' then ['\\', 'f']
  else if c.toNat < 32 then unitEscape c
  else [c]

/-- A string in quotes. -/
def writeString (s : String) : List Char := '"' :: s.toList.flatMap writeChar ++ ['"']

/-- A fractional number; null when it is infinite or undefined. -/
def writeFloat : Binary64 → List Char
  | .finite negative mantissa exponent => (Binary64.finite negative mantissa exponent).text.toList
  | _ => "null".toList

mutual

/-- The characters of a value. -/
def write : Json → List Char
  | .null => "null".toList
  | .bool b => (if b then "true" else "false").toList
  | .int i => (toString i).toList
  | .float x => writeFloat x
  | .str s => writeString s
  | .arr items => '[' :: writeItems items ++ [']']
  | .obj fields => '{' :: writeFields fields ++ ['}']

/-- The characters of the items of a list, parted by commas. -/
def writeItems : List Json → List Char
  | [] => []
  | [item] => write item
  | item :: rest => write item ++ ',' :: writeItems rest

/-- The characters of the fields of an object, parted by commas. -/
def writeFields : List (String × Json) → List Char
  | [] => []
  | [(name, value)] => writeString name ++ ':' :: write value
  | (name, value) :: rest => writeString name ++ ':' :: write value ++ ',' :: writeFields rest

end

/-- The text of a value. -/
def render (value : Json) : String := String.ofList (write value)

end Dialogue.Json
