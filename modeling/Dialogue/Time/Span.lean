import Dialogue.Fault
import Dialogue.Number.Binary64
import Dialogue.Time.Stamp

/-!
# Lengths of time

A length of time is a number of microseconds. Only lengths of up to a billion days can be handled,
and adding one to a stamp fails where the result leaves the calendar.

Main statements: `plus_zero`, no time changes nothing; `moment_of_plus`, any other moves the moment
on by as much.
-/

namespace Dialogue

namespace Time

/-- Days beyond this cannot be counted in a machine integer. -/
def machineDays : Int := 2147483647

/-- A length of time has no more days than this, forwards or backwards. -/
def greatestDays : Int := 999999999

/-- A length of time, when it can be handled. -/
def length (micros : Int) : Except Fault Int :=
  let days := micros.fdiv day
  if machineDays < days ∨ days < -machineDays - 1 then .error .countlessDays
  else if greatestDays < days ∨ days < -greatestDays then .error (.tooManyDays days)
  else .ok micros

/-- The microseconds of a number of seconds with a fraction, a half to the even neighbour. -/
def ofSeconds? (x : Binary64) : Option Int := do
  let (num, den) ← x.toRatio?
  let whole := num.tdiv den
  let (num, den) ← ((x.add (.ofInt (-whole))).mul (.ofInt second)).toRatio?
  let rest : Int := Binary64.roundHalfEven num.natAbs den
  return whole * second + if num < 0 then -rest else rest

end Time

namespace Stamp

/-- The stamp some microseconds later on the same clock. -/
def plus (s : Stamp) (micros : Int) : Except Fault Stamp := do
  let micros := s.micros + (← Time.length micros)
  if Time.inRange micros then return { s with micros := micros } else throw .beyondCalendar

theorem plus_zero {s : Stamp} (h : Time.inRange s.micros = true) : s.plus 0 = .ok s := by
  have none : Time.length 0 = .ok 0 := rfl
  simp only [plus, none, bind, Except.bind, Int.add_zero, h]
  rfl

theorem moment_of_plus {s t : Stamp} {micros : Int} (h : s.plus micros = .ok t) :
    t.moment = s.moment + micros := by
  unfold plus at h
  cases passed : Time.length micros with
  | error fault =>
    rw [passed] at h
    cases h
  | ok length =>
    have same : length = micros := by
      unfold Time.length at passed
      grind
    rw [passed] at h
    simp only [bind, Except.bind] at h
    split at h
    · cases h
      show s.micros + length - s.offset.getD 0 * Time.minute =
        s.micros - s.offset.getD 0 * Time.minute + micros
      rw [same]
      omega
    · cases h

end Stamp

end Dialogue
