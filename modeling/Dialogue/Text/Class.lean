import Dialogue.Text.ClassTable

/-!
# Character classes

Letters, digits, numerals and word characters of every script, and the shape of an identifier.
Decimal digits carry their value: each of their runs is a whole number of blocks `0` to `9`.
-/

namespace Dialogue.Text

/-- A letter of any script. -/
def isLetter (c : Char) : Bool := inRuns letterRuns c.toNat

/-- A decimal digit of any script. -/
def isDecimal (c : Char) : Bool := inRuns decimalRuns c.toNat

/-- A digit: decimal, superscript, subscript or circled. -/
def isDigit (c : Char) : Bool := isDecimal c || inRuns superscriptRuns c.toNat

/-- The value of a decimal digit. -/
def decimalValue? (c : Char) : Option Nat := (offsetInRun decimalRuns c.toNat).map (· % 10)

/-- A letter or a numeral. -/
def isAlphanumeric (c : Char) : Bool := isLetter c || inRuns numeralRuns c.toNat

/-- A word character: a letter, a numeral or the underscore. -/
def isWord (c : Char) : Bool := isAlphanumeric c || c = '_'

/-- A character that has a printed form of its own. -/
def isPrintable (c : Char) : Bool := !inRuns unprintableRuns c.toNat

/-- A character that may open an identifier. -/
def isOpener (c : Char) : Bool :=
  (isLetter c && !inRuns letterNotOpenerRuns c.toNat) || inRuns openerRuns c.toNat

/-- A character that may stand in an identifier after the first place. -/
def isContinuer (c : Char) : Bool :=
  isOpener c || isDecimal c || inRuns continuerRuns c.toNat

/-- A nonempty run of identifier characters that starts with an opener. -/
def isIdentifier (s : String) : Bool :=
  match s.toList with
  | [] => false
  | c :: cs => isOpener c && cs.all isContinuer

end Dialogue.Text
