/-!
# Bytes as text

Texts are stored as bytes, one to four for a character. Bytes that are no text can still be shown:
every longest beginning of a character that goes wrong becomes a replacement character.
-/

namespace Dialogue.Text

/-- A byte lies in a range. -/
def isWithin (low high : Nat) (byte : Nat) : Bool := low ≤ byte && byte ≤ high

/-- The number of further bytes of a character, the payload of its first byte, and the range of its
second byte. Overlong forms, surrogates and codes beyond the last have no range of their own. -/
def lead? (byte : Nat) : Option (Nat × Nat × Nat × Nat) :=
  if isWithin 0xc2 0xdf byte then some (1, byte - 0xc0, 0x80, 0xbf)
  else if byte = 0xe0 then some (2, 0, 0xa0, 0xbf)
  else if byte = 0xed then some (2, 0xd, 0x80, 0x9f)
  else if isWithin 0xe1 0xef byte then some (2, byte - 0xe0, 0x80, 0xbf)
  else if byte = 0xf0 then some (3, 0, 0x90, 0xbf)
  else if byte = 0xf4 then some (3, 4, 0x80, 0x8f)
  else if isWithin 0xf1 0xf3 byte then some (3, byte - 0xf0, 0x80, 0xbf)
  else none

/-- Reads `count` bytes that continue a character of which `code` is known, the first of them in the
given range. The second part is `none` when a byte is missing or out of range. -/
def continueChar : Nat → Nat → Nat → Nat → List Nat → List Nat × Option Nat
  | 0, code, _, _, bytes => (bytes, some code)
  | _ + 1, _, _, _, [] => ([], none)
  | count + 1, code, low, high, byte :: bytes =>
    if isWithin low high byte then
      continueChar count (64 * code + (byte - 0x80)) 0x80 0xbf bytes
    else (byte :: bytes, none)

/-- Reads the characters of bytes, at most `fuel` of them; `none` stands for a fault. -/
def readChars : Nat → List Nat → List (Option Char)
  | 0, _ | _, [] => []
  | fuel + 1, byte :: bytes =>
    if byte < 0x80 then some (Char.ofNat byte) :: readChars fuel bytes
    else match lead? byte with
      | none => none :: readChars fuel bytes
      | some (count, code, low, high) =>
        let (rest, read) := continueChar count code low high bytes
        read.map Char.ofNat :: readChars fuel rest

/-- The characters of bytes, where `none` stands for a fault. -/
def charsOf (bytes : List Nat) : List (Option Char) := readChars bytes.length bytes

/-- The text of bytes, when they are a text. -/
def decode? (bytes : List Nat) : Option String :=
  ((charsOf bytes).mapM fun c => c).map String.ofList

/-- The text of bytes, with replacement characters for what is no text. -/
def decodeAll (bytes : List Nat) : String :=
  String.ofList ((charsOf bytes).map (·.getD '\ufffd'))

theorem decode?_nil : decode? [] = some "" := rfl

end Dialogue.Text
