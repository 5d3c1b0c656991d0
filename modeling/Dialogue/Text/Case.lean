import Dialogue.Text.Runs
import Dialogue.Text.CaseTable

/-!
# Letter case

Lower, upper and title case forms of characters and texts. Two rules go beyond single characters:
the dotted capital I becomes an i with a dot above, and a capital sigma at the end of a word becomes
the final sigma.
-/

namespace Dialogue.Text

namespace CaseShift

/-- The moved code point, when `s` moves `c`. -/
def move? (s : CaseShift) (c : Nat) : Option Nat :=
  if s.first ≤ c ∧ c < s.first + s.count * s.step ∧ (c - s.first) % s.step = 0 then
    some ((c : Int) + s.delta).toNat
  else none

/-- The code point that `s` moves to `c`. -/
def source? (s : CaseShift) (c : Nat) : Option Nat :=
  let origin := (c : Int) - s.delta
  if 0 ≤ origin ∧ s.move? origin.toNat = some c then some origin.toNat else none

end CaseShift

/-- The first shift of a table that moves `c`. -/
def shiftIn (table : List CaseShift) (c : Nat) : Option Nat := table.findSome? (·.move? c)

/-- The one-to-one lower case form of a code point. -/
def lowerCode (c : Nat) : Nat := (shiftIn lowerShifts c).getD c

/-- The first code point of the upper case form of a code point. -/
def upperCode (c : Nat) : Nat :=
  (shiftIn upperShifts c).getD (((longUppers.lookup c).bind List.head?).getD c)

/-- A code point with a lower or upper case form other than itself. -/
def isCasedCode (c : Nat) : Bool := lowerCode c ≠ c || upperCode c ≠ c

/-- Every code point whose lower case form is `c`. -/
def codesLoweredTo (c : Nat) : List Nat :=
  (if lowerCode c = c then [c] else []) ++ lowerShifts.filterMap (·.source? c)

/-- The upper case form of a character. -/
def upperChar (c : Char) : List Char :=
  match longUppers.lookup c.toNat with
  | some codes => codes.map Char.ofNat
  | none => [Char.ofNat ((shiftIn upperShifts c.toNat).getD c.toNat)]

/-- The title case form of a character, which opens a capitalised word. -/
def titleChar (c : Char) : List Char :=
  match longTitles.lookup c.toNat, shiftIn titleShifts c.toNat with
  | some codes, _ => codes.map Char.ofNat
  | none, some code => [Char.ofNat code]
  | none, none => upperChar c

/-- The nearest character that is not skipped next to a sigma is a cased letter. -/
def meetsCased (cs : List Char) : Bool :=
  match cs.dropWhile fun c => inRuns caseIgnorableRuns c.toNat with
  | [] => false
  | c :: _ => inRuns casedRuns c.toNat

/-- Lower case forms of `cs`, where `before` holds the characters in front, nearest first. -/
def lowerChars : List Char → List Char → List Char
  | _, [] => []
  | before, c :: cs =>
    (if c = 'Σ' then [if meetsCased before && !meetsCased cs then 'ς' else 'σ']
      else if c = 'İ' then ['i', '\u0307']
      else [Char.ofNat (lowerCode c.toNat)]) ++ lowerChars (c :: before) cs

/-- A text in lower case. -/
def lower (s : String) : String := String.ofList (lowerChars [] s.toList)

/-- A text in upper case. -/
def upper (s : String) : String := String.ofList (s.toList.flatMap upperChar)

/-- A word with its first character in title case and the others in lower case. -/
def capitalize (s : String) : String :=
  match s.toList with
  | [] => ""
  | c :: cs => String.ofList (titleChar c ++ lowerChars [c] cs)

end Dialogue.Text
