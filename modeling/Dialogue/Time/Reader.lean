import Dialogue.Number.Binary64
import Dialogue.Time.Stamp

/-!
# Reading stamps

A stamp is written as a date, or as a date and a time of day with an optional offset, or as a number
of seconds since the start of 1970. Numbers of a large absolute value count milliseconds. A number
keeps its fraction to the microsecond.

What is read may lie in year 0, which comes before the calendar: `isDated` tells it apart.
-/

namespace Dialogue.Stamp

/-- The stamp lies in the calendar. -/
def isDated (s : Stamp) : Bool := 0 ≤ s.micros

/-! ## Written dates and times -/

/-- The number that digits write. -/
def valueOf (digits : List Char) : Nat := digits.foldl (fun n c => 10 * n + (c.toNat - 48)) 0

/-- Reads exactly `n` digits. -/
def readDigits : Nat → Nat → List Char → Option (Nat × List Char)
  | 0, value, cs => some (value, cs)
  | n + 1, value, c :: cs =>
    if c.isDigit then readDigits n (10 * value + (c.toNat - 48)) cs else none
  | _ + 1, _, [] => none

/-- Reads a date: four, two and two digits parted by dashes. -/
def readDate (cs : List Char) : Option (Date × List Char) := do
  let (year, cs) ← readDigits 4 0 cs
  let '-' :: cs := cs | none
  let (month, cs) ← readDigits 2 0 cs
  let '-' :: cs := cs | none
  let (day, cs) ← readDigits 2 0 cs
  if Date.isValid ⟨if year = 0 then 400 else year, month, day⟩ then
    some (⟨year, month, day⟩, cs)
  else none

/-- The first microsecond of a date. Every 400 years the calendar repeats, so a date of year 0 lies
as far before year 1 as one of year 400 before year 401. -/
def midnight (date : Date) : Int :=
  if date.year = 0 then
    ((({ date with year := 400 } : Date).dayNumber : Int) - 146097) * Time.day
  else date.dayNumber * Time.day

/-- Reads the digits of a fraction of a second as microseconds; digits beyond the sixth are dropped.
-/
def readFraction (cs : List Char) : Option (Nat × List Char) :=
  let digits := cs.takeWhile Char.isDigit
  if digits.isEmpty then none
  else
    some (valueOf ((digits ++ List.replicate 6 '0').take 6), cs.drop digits.length)

/-- Reads the seconds and their fraction, which may both be missing, in microseconds. A point or a
comma stands before the fraction. -/
def readSeconds (cs : List Char) : Option (Nat × List Char) :=
  match cs with
  | ':' :: cs => do
    let (seconds, cs) ← readDigits 2 0 cs
    if 59 < seconds then none
    match cs with
    | '.' :: cs | ',' :: cs =>
      let (micros, cs) ← readFraction cs
      some (seconds * 1000000 + micros, cs)
    | _ => some (seconds * 1000000, cs)
  | _ => some (0, cs)

/-- Reads a time of day in microseconds. -/
def readTime (cs : List Char) : Option (Nat × List Char) := do
  let (hours, cs) ← readDigits 2 0 cs
  let ':' :: cs := cs | none
  let (minutes, cs) ← readDigits 2 0 cs
  if 23 < hours ∨ 59 < minutes then none
  let (micros, cs) ← readSeconds cs
  some ((hours * 60 + minutes) * 60000000 + micros, cs)

/-- Reads an offset behind its sign, with or without a colon, in minutes. -/
def readOffset (cs : List Char) : Option (Nat × List Char) := do
  let (hours, cs) ← readDigits 2 0 cs
  let cs := match cs with
    | ':' :: cs => cs
    | cs => cs
  let (minutes, cs) ← readDigits 2 0 cs
  if 23 < hours ∨ 59 < minutes then none
  some (hours * 60 + minutes, cs)

/-- Reads the zone to the end of the text. The minus sign may be a hyphen or the sign itself. -/
def readZone (cs : List Char) : Option (Option Int) :=
  match cs with
  | [] => some none
  | ['Z'] | ['z'] => some (some 0)
  | '+' :: cs => do
    let (offset, []) ← readOffset cs | none
    some (some offset)
  | '-' :: cs | '−' :: cs => do
    let (offset, []) ← readOffset cs | none
    some (some (-(offset : Int)))
  | _ => none

/-- The stamp that a text writes as a date, or as a date and a time. -/
def ofText? (s : String) : Option Stamp := do
  let (date, cs) ← readDate s.toList
  match cs with
  | [] => some ⟨midnight date, none⟩
  | c :: cs =>
    if c ≠ 'T' ∧ c ≠ 't' ∧ c ≠ ' ' ∧ c ≠ '_' then none
    let (micros, cs) ← readTime cs
    some ⟨midnight date + micros, ← readZone cs⟩

/-! ## Numbers of seconds -/

/-- Greater numbers count milliseconds. -/
def greatestSeconds : Int := 20000000000

/-- The first second of year 0, counted from 1970. -/
def firstSecond : Int := -62167219200

/-- The last second of the year 9999, counted from 1970. -/
def lastSecond : Int := 253402300799

/-- The microseconds from year 1 to 1970. -/
def epoch : Int := 719162 * Time.day

/-- The stamp a number of seconds and microseconds after the start of 1970. -/
def ofSeconds? (seconds : Int) (micros : Int) : Option Stamp :=
  let t := seconds * Time.second + micros
  if t < firstSecond * Time.second ∨ (lastSecond + 1) * Time.second ≤ t then none
  else some ⟨epoch + t, some 0⟩

/-- The stamp of a whole number of seconds or milliseconds. -/
def ofWhole? (n : Int) : Option Stamp :=
  if n.natAbs ≤ greatestSeconds then ofSeconds? n 0
  else ofSeconds? (n.fdiv 1000) (n.fmod 1000 * 1000)

/-- A quotient rounded to the nearest integer, a half away from zero. -/
def roundHalfAway (num den : Nat) : Nat := (2 * num + den) / (2 * den)

/-- The number counts seconds. -/
def countsSeconds (x : Binary64) : Bool :=
  x.le (.ofInt greatestSeconds) && (Binary64.ofInt (-greatestSeconds)).le x

/-- The stamp of a number of seconds or milliseconds with a fraction: whole ones are rounded down,
and what is left is rounded to microseconds. -/
def ofFraction? (x : Binary64) : Option Stamp := do
  let whole ← x.toRatio?.map fun (num, den) => num.fdiv den
  let micros (unit : Int) : Option Int := do
    let (num, den) ← ((x.add (.ofInt (-whole))).mul (.ofInt unit)).toRatio?
    some (roundHalfAway num.natAbs den)
  if countsSeconds x then ofSeconds? whole (← micros 1000000)
  else ofSeconds? (whole.fdiv 1000) (whole.fmod 1000 * 1000 + (← micros 1000))

/-- The power of ten behind a number: none, or a letter, a sign and digits. -/
def exponent? : List Char → Option Int
  | [] => some 0
  | c :: cs => do
    if c ≠ 'e' ∧ c ≠ 'E' then none
    let (negative, digits) := match cs with
      | '-' :: digits => (true, digits)
      | '+' :: digits => (false, digits)
      | digits => (false, digits)
    if digits.isEmpty ∨ !digits.all Char.isDigit then none
    some (if negative then -(valueOf digits : Int) else valueOf digits)

/-- The stamp of a written number of seconds, behind its sign. Digits may be missing in front of the
point or behind it, but not both, and only a number with a point may have a power of ten. -/
def ofUnsigned? (negative : Bool) (cs : List Char) : Option Stamp := do
  let digits := cs.takeWhile Char.isDigit
  if Nat.pow 2 63 ≤ valueOf digits then none
  match cs.drop digits.length with
  | [] =>
    if digits.isEmpty then none
    ofWhole? (if negative then -(valueOf digits : Int) else valueOf digits)
  | '.' :: cs =>
    let fraction := cs.takeWhile Char.isDigit
    if digits.isEmpty ∧ fraction.isEmpty then none
    let exponent ← exponent? (cs.drop fraction.length)
    ofFraction? (.ofDecimal negative (valueOf (digits ++ fraction)) (exponent - fraction.length))
  | _ => none

/-- The stamp of a written number of seconds. -/
def ofNumeral? (s : String) : Option Stamp :=
  match s.toList with
  | '-' :: cs => ofUnsigned? true cs
  | '+' :: cs => ofUnsigned? false cs
  | cs => ofUnsigned? false cs

end Dialogue.Stamp
