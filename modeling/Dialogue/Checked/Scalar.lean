import Dialogue.Checked.Basic
import Dialogue.Json.Value
import Dialogue.Text.Blank
import Dialogue.Time.Reader

/-!
# Reading single values

Texts are taken as they are. Integers, switches and stamps are read leniently: from numbers that
stand for them, and from texts that write them.
-/

namespace Dialogue.Checked

open Dialogue.Text

/-- A text. -/
def asText : Json → Checked String
  | .str s => .good s
  | _ => flawed .notText

/-! ## Integers -/

/-- A blank other than the separator controls. -/
def isGapChar (c : Char) : Bool := isBlank c && !(28 ≤ c.toNat && c.toNat ≤ 31)

/-- Drops zeros in front of a number, and underscores among them; one zero stays when no other digit
follows. Nothing is returned where no number begins. -/
def dropZeros : List Char → Option (List Char)
  | '0' :: cs =>
    match cs.dropWhile fun c => c = '0' || c = '_' with
    | [] => some [('0' :: cs).getLast (by simp)]
    | '.' :: rest =>
      let skipped := '0' :: cs.takeWhile fun c => c = '0' || c = '_'
      some (skipped.getLast (by simp [skipped]) :: '.' :: rest)
    | c :: rest => if c.isDigit || c = '-' then some (c :: rest) else none
  | c :: cs => if c.isDigit || c = '-' then some (c :: cs) else none
  | [] => none

/-- Drops a point and the zeros behind it, when nothing else follows. -/
def dropZeroFraction (cs : List Char) : List Char :=
  match cs.dropWhile (· ≠ '.') with
  | '.' :: '0' :: zeros => if zeros.all (· = '0') then cs.takeWhile (· ≠ '.') else cs
  | _ => cs

/-- Drops underscores, when each of them stands between two other characters. -/
def dropUnderscores (cs : List Char) : Option (List Char) :=
  if cs.head? = some '_' ∨ cs.getLast? = some '_' ∨ (cs.zip cs.tail).contains ('_', '_') then none
  else some (cs.filter (· ≠ '_'))

/-- The number that digits write, without zeros in front. -/
def plainNumber? (cs : List Char) : Option Nat :=
  match cs with
  | [] => none
  | '0' :: _ :: _ => none
  | cs => if cs.all Char.isDigit then some (cs.foldl (fun n c => 10 * n + (c.toNat - 48)) 0)
    else none

/-- The integer that digits write behind an optional minus sign. -/
def signedNumber? : List Char → Option Int
  | '-' :: cs => (plainNumber? cs).map fun n => -(n : Int)
  | cs => (plainNumber? cs).map fun n => (n : Int)

/-- Drops a plus sign, unless a minus sign follows it. -/
def dropPlus : List Char → Option (List Char)
  | '+' :: '-' :: _ => none
  | '+' :: cs => some cs
  | cs => some cs

/-- The plain form of an integer: no plus sign, no zeros in front, no underscores, and no fraction
of zeros. -/
def plainForm? (s : String) : Option (List Char) := do
  match ← dropPlus (trimChars isGapChar s.toList) with
  | '-' :: cs => return '-' :: (← dropUnderscores (dropZeroFraction (← dropZeros cs)))
  | cs => dropUnderscores (dropZeroFraction (← dropZeros cs))

/-- No integer is written with more digits than this. -/
def mostDigits : Nat := 4300

/-- The digits in front, behind a minus sign. -/
def leadingDigits : List Char → List Char
  | '-' :: cs => cs.takeWhile Char.isDigit
  | cs => cs.takeWhile Char.isDigit

/-- More digits stand in front than an integer may have. -/
def isLong (cs : List Char) : Bool := mostDigits < (leadingDigits cs).length

/-- The integer that a text writes. Digits in front of a text, without a zero before them, tell that
it is too long whatever follows; in a text that needs to be brought into its plain form, too many
digits make it unreadable. -/
def writtenInteger (s : String) : Checked Int :=
  if isLong s.toList && (leadingDigits s.toList).head? ≠ some '0' then flawed .hugeInteger
  else match (plainForm? s).bind fun cs => if isLong cs then none else signedNumber? cs with
    | some i => .good i
    | none => flawed .unreadableInteger

/-- A machine integer. -/
def isMachineInteger (i : Int) : Bool := -(Nat.pow 2 63 : Int) ≤ i && i < Nat.pow 2 63

/-- An integer that a fractional number can stand for: a machine integer, the least one apart. -/
def isMachineMagnitude (i : Int) : Bool := i.natAbs < Nat.pow 2 63

/-- An integer: a number without fraction, a switch as 0 or 1, or a text that writes an integer. -/
def asInteger : Json → Checked Int
  | .int i => .good i
  | .bool b => .good (if b then 1 else 0)
  | .float x =>
    match x.toRatio? with
    | none => flawed .infiniteInteger
    | some (num, den) =>
      if num.fmod den ≠ 0 then flawed .fractionalInteger
      else if isMachineMagnitude (num.fdiv den) then .good (num.fdiv den)
      else flawed .hugeInteger
  | .str s => writtenInteger s
  | _ => flawed .notInteger

/-! ## Switches -/

/-- The switch that a word stands for, in any case. -/
def writtenSwitch? (s : String) : Option Bool :=
  let word := String.ofList (s.toList.map Char.toLower)
  if ["0", "off", "f", "false", "n", "no"].contains word then some false
  else if ["1", "on", "t", "true", "y", "yes"].contains word then some true
  else none

/-- The switch that a number stands for. A number that is no machine integer stands for none. -/
def numberedSwitch (i : Int) : Checked Bool :=
  if i = 0 then .good false
  else if i = 1 then .good true
  else if isMachineInteger i then flawed .unreadableSwitch
  else flawed .notSwitch

/-- A switch: a truth value, zero or one, or a word for either. -/
def asSwitch : Json → Checked Bool
  | .bool b => .good b
  | .int i => numberedSwitch i
  | .float x =>
    match x.toRatio? with
    | some (num, den) =>
      if num.fmod den = 0 ∧ isMachineMagnitude (num.fdiv den) then numberedSwitch (num.fdiv den)
      else flawed .notSwitch
    | none => flawed .notSwitch
  | .str s =>
    match writtenSwitch? s with
    | some b => .good b
    | none => flawed .unreadableSwitch
  | _ => flawed .notSwitch

/-! ## Choices and stamps -/

/-- A choice, read from one of the texts that `parse?` knows. -/
def asChoice {α : Type} (parse? : String → Option α) : Json → Checked α
  | .str s =>
    match parse? s with
    | some a => .good a
    | none => flawed .notChoice
  | _ => flawed .notChoice

/-- A stamp of the calendar, or the flaw of the data that give none. -/
def stampOr (flaw : Flaw) : Option Stamp → Checked Stamp
  | some s => if s.isDated then .good s else flawed .stampOutOfRange
  | none => flawed flaw

/-- A stamp: a written date and time, or a number of seconds, written or not. -/
def asStamp : Json → Checked Stamp
  | .int i =>
    if (Binary64.ofInt i).toRatio?.isNone then flawed .notStamp
    else stampOr .stampOutOfRange (Stamp.ofWhole? i)
  | .float x => stampOr .stampOutOfRange (Stamp.ofFraction? x)
  | .str s => stampOr .unreadableStamp ((Stamp.ofText? s).or (Stamp.ofNumeral? s))
  | _ => flawed .notStamp

/-- A stamp in a stored text, where a number that is no machine integer stands for none. -/
def asStoredStamp : Json → Checked Stamp
  | .int i => if isMachineInteger i then asStamp (.int i) else flawed .notStamp
  | value => asStamp value

end Dialogue.Checked
