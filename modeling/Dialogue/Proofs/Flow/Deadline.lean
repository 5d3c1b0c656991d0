import Dialogue.Flow.Turn
import Dialogue.Proofs.Effect

/-!
# Deadlines

A position counts until the minutes of its flow have passed since the flow began, to the
microsecond. What the clock of the start showed makes no difference, as long as it is the same
moment. The deadline can be judged where the moment lies in the calendar and the minutes make a
length of time that can be handled, and nowhere else.

Main statements: `isActive_of_moment` and `isActive_of_sameMoment`; `isActive_returns_iff`, when
there is a verdict.
-/

namespace Dialogue

open Effect

namespace Time

/-- A length of time of less than a billion days, forwards or backwards. -/
def IsLength (micros : Int) : Prop :=
  -greatestDays * day ≤ micros ∧ micros < (greatestDays + 1) * day

theorem days_of_isLength {micros : Int} :
    IsLength micros ↔ -greatestDays ≤ micros.fdiv day ∧ micros.fdiv day ≤ greatestDays := by
  have below := Int.fmod_nonneg_of_pos micros (show 0 < day by decide)
  have above := Int.fmod_lt_of_pos micros (show 0 < day by decide)
  have whole := Int.mul_fdiv_add_fmod micros day
  have unit : day = 86400000000 := rfl
  rw [unit] at below above whole
  unfold IsLength greatestDays
  rw [unit]
  omega

/-- **A length of time can be handled** when it is one of less than a billion days. -/
theorem length_of_isLength {micros : Int} (short : IsLength micros) :
    length micros = .ok micros := by
  obtain ⟨above, below⟩ := days_of_isLength.1 short
  unfold length
  unfold greatestDays at above below
  rw [if_neg (by unfold machineDays; omega), if_neg (by unfold greatestDays; omega)]

theorem exists_fault_of_not_isLength {micros : Int} (long : ¬IsLength micros) :
    ∃ fault, length micros = .error fault := by
  rw [days_of_isLength] at long
  unfold length
  dsimp only
  split
  · exact ⟨_, rfl⟩
  · rw [if_pos (by omega)]
    exact ⟨_, rfl⟩

end Time

/-- The minutes that a position has: those of its flow, or the usual ones where no flow is
registered. -/
def Position.minutes (p : Position) (registry : Registry) (usualMinutes : Int) : Int :=
  ((registry.flow? (p.flow.getD "")).map Flow.minutes).getD usualMinutes

/-- The deadline of a position can be judged: no flow has begun, or it began at a moment of the
calendar and its minutes can be handled. -/
def Position.Judgeable (p : Position) (registry : Registry) (usualMinutes : Int) : Prop :=
  p.isSet = true → ∀ stamp ∈ p.startedAt, stamp.instant? ≠ none ∧
    Time.IsLength (p.minutes registry usualMinutes * Time.minute)

namespace Turn

variable {registry : Registry} {usualMinutes : Int} {p : Position} {stamp : Stamp}

theorem isActive_of_unset (unset : p.isSet = false) (now : Instant) :
    isActive registry usualMinutes now p = .ok false := by
  unfold isActive
  rw [unset]
  rfl

theorem isActive_of_timeless (set : p.isSet = true) (timeless : p.startedAt = none)
    (now : Instant) : isActive registry usualMinutes now p = .ok true := by
  unfold isActive Position.startInstant?
  rw [set, timeless]
  rfl

theorem isActive_of_undated (set : p.isSet = true) (began : p.startedAt = some stamp)
    (undated : stamp.instant? = none) (now : Instant) :
    isActive registry usualMinutes now p = .error .beyondCalendar := by
  unfold isActive Position.startInstant?
  rw [set, began]
  dsimp only
  rw [undated]
  rfl

/-- Where a flow has begun at some time, its minutes are counted from there. -/
theorem isActive_of_instant {start : Instant} (set : p.isSet = true)
    (began : p.startedAt = some stamp) (dated : stamp.instant? = some start) (now : Instant) :
    isActive registry usualMinutes now p =
      (fun limit : Int => decide (now - start ≤ limit)) <$>
        Time.length (p.minutes registry usualMinutes * Time.minute) := by
  unfold isActive Position.startInstant? Position.minutes
  rw [set, began]
  dsimp only
  rw [dated]
  cases registry.flow? (p.flow.getD "") <;> rfl

theorem instant?_of_moment (dated : Time.inRange stamp.moment = true) :
    stamp.instant? = some stamp.moment := by
  obtain ⟨micros, _ | offset⟩ := stamp
  · unfold Stamp.instant? Stamp.moment
    rw [Option.getD_none, Int.zero_mul, Int.sub_zero]
  · exact if_pos dated

/-- **The deadline is exact.** A position in a registered flow counts as long as no more than the
minutes of the flow have passed since the flow began. -/
theorem isActive_of_moment {code : String} {flow : Flow} (set : p.isSet = true)
    (inFlow : p.flow = some code) (registered : registry.flow? code = some flow)
    (began : p.startedAt = some stamp) (dated : Time.inRange stamp.moment = true)
    (short : Time.IsLength (flow.minutes * Time.minute)) (now : Instant) :
    isActive registry usualMinutes now p =
      .ok (decide (now - stamp.moment ≤ flow.minutes * Time.minute)) := by
  have minutes : p.minutes registry usualMinutes = flow.minutes := by
    unfold Position.minutes
    rw [inFlow, Option.getD_some, registered]
    rfl
  rw [isActive_of_instant set began (instant?_of_moment dated), minutes,
    Time.length_of_isLength short]
  rfl

/-- **What the clock showed makes no difference**: a start without an offset is read as universal
time, and starts with any offsets count as the same when they are the same moment. -/
theorem isActive_of_sameMoment {stamp' : Stamp} (same : stamp.moment = stamp'.moment)
    (dated : Time.inRange stamp.moment = true) (now : Instant) :
    isActive registry usualMinutes now { p with startedAt := some stamp } =
      isActive registry usualMinutes now { p with startedAt := some stamp' } := by
  have dated' : Time.inRange stamp'.moment = true := same ▸ dated
  -- The start has no part in whether the position is set.
  cases set : p.isSet with
  | false =>
    exact (isActive_of_unset (p := { p with startedAt := some stamp }) set now).trans
      (isActive_of_unset (p := { p with startedAt := some stamp' }) set now).symm
  | true =>
    rw [isActive_of_instant (p := { p with startedAt := some stamp }) set rfl
      (instant?_of_moment dated), isActive_of_instant (p := { p with startedAt := some stamp' }) set
      rfl (instant?_of_moment dated'), same]
    rfl

/-- **When there is a verdict.** Whether a position counts can be told exactly where its deadline
can be judged. -/
theorem isActive_returns_iff (registry : Registry) (usualMinutes : Int) (now : Instant)
    (p : Position) :
    (∃ active, isActive registry usualMinutes now p = .ok active) ↔
      p.Judgeable registry usualMinutes := by
  constructor
  · rintro ⟨active, returns⟩ set stamp began
    cases dated : stamp.instant? with
    | none =>
      rw [isActive_of_undated set began dated] at returns
      cases returns
    | some start =>
      refine ⟨nofun, Classical.byContradiction fun long => ?_⟩
      obtain ⟨fault, stops⟩ := Time.exists_fault_of_not_isLength long
      rw [isActive_of_instant set began dated, stops] at returns
      cases returns
  · intro judged
    cases set : p.isSet with
    | false => exact ⟨_, isActive_of_unset set now⟩
    | true =>
      cases began : p.startedAt with
      | none => exact ⟨_, isActive_of_timeless set began now⟩
      | some stamp =>
        obtain ⟨dated, short⟩ := judged set stamp began
        obtain ⟨start, dated⟩ := Option.ne_none_iff_exists'.1 dated
        rw [isActive_of_instant set began dated, Time.length_of_isLength short]
        exact ⟨_, rfl⟩

end Turn

end Dialogue
