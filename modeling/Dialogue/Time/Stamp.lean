import Dialogue.Time.Date

/-!
# Points in time

A stamp is a date and a time of day as written on a local clock, to the microsecond, together with
the clock's offset from universal time when it is known. An instant is a point in universal time.
Both are counted in microseconds from the start of year 1, so elapsed times are differences.

A stamp without an offset is read as universal time: `instant?_of_offset_none`.
-/

namespace Dialogue

/-- Microseconds from the start of year 1, in universal time. -/
abbrev Instant := Int

namespace Time

/-- Microseconds of a second. -/
def second : Int := 1000000

/-- Microseconds of a minute. -/
def minute : Int := 60 * second

/-- Microseconds of a day. -/
def day : Int := 86400 * second

/-- The first microsecond beyond the year 9999. -/
def limit : Int := 3652059 * day

/-- A point from the year 1 to the year 9999. -/
def inRange (t : Int) : Bool := 0 ≤ t && t < limit

end Time

/-- A local date and time of day, with the offset of the local clock in minutes if it is known. -/
structure Stamp where
  micros : Int
  offset : Option Int
  deriving DecidableEq

namespace Stamp

/-- An instant as a stamp in universal time. -/
def ofInstant (t : Instant) : Stamp := ⟨t, some 0⟩

/-- The point in time of a stamp, which may lie beyond the calendar by the offset. -/
def moment (s : Stamp) : Instant := s.micros - s.offset.getD 0 * Time.minute

/-- The instant of a stamp, when universal time is still between the years 1 and 9999 there. -/
def instant? (s : Stamp) : Option Instant :=
  match s.offset with
  | none => some s.micros
  | some _ => if Time.inRange s.moment then some s.moment else none

theorem instant?_of_offset_none (micros : Int) : instant? ⟨micros, none⟩ = some micros := rfl

theorem instant?_ofInstant {t : Instant} (h : Time.inRange t = true) :
    (ofInstant t).instant? = some t := by
  simp [ofInstant, instant?, moment, h]

/-! ## Text -/

/-- A number of at least `width` digits, with zeros in front. -/
def padded (width n : Nat) : String :=
  let digits := Nat.toDigits 10 n
  String.ofList (List.replicate (width - digits.length) '0' ++ digits)

/-- The date and the time of day; the fraction is left out when it is zero. -/
def clockText (micros : Int) : String :=
  let t := micros.toNat
  let d := Date.ofDayNumber (t / 86400000000)
  let seconds := t / 1000000 % 86400
  padded 4 d.year ++ "-" ++ padded 2 d.month ++ "-" ++ padded 2 d.day ++ "T" ++
    padded 2 (seconds / 3600) ++ ":" ++ padded 2 (seconds / 60 % 60) ++ ":" ++
    padded 2 (seconds % 60) ++
    (if t % 1000000 = 0 then "" else "." ++ padded 6 (t % 1000000))

/-- An offset as sign, hours and minutes. -/
def offsetText (offset : Int) : String :=
  (if offset < 0 then "-" else "+") ++ padded 2 (offset.natAbs / 60) ++ ":" ++
    padded 2 (offset.natAbs % 60)

/-- The text of a stamp: universal time ends in `Z`, a known offset follows, an unknown one does not
show. -/
def text (s : Stamp) : String :=
  clockText s.micros ++
    match s.offset with
    | none => ""
    | some 0 => "Z"
    | some offset => offsetText offset

/-- The text of a stamp with an offset of zero written out. -/
def fullText (s : Stamp) : String := clockText s.micros ++ (s.offset.map offsetText).getD ""

/-- The text of an instant with its offset of zero written out. -/
def instantText (t : Instant) : String := (ofInstant t).fullText

end Stamp

end Dialogue
