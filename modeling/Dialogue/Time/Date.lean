/-!
# Calendar dates

The days of the years 1 to 9999 in the Gregorian calendar, counted from the first day of year 1.

Main statements: `dayNumber_ofDayNumber`, counting to a date and back loses nothing, and
`isValid_ofDayNumber`, every number of days below `3652059` is that of a date of the calendar.
-/

namespace Dialogue

/-- A day of the calendar. -/
structure Date where
  year : Nat
  month : Nat
  day : Nat
  deriving DecidableEq, Repr

namespace Date

/-- A year with a 29th of February. -/
def isLeap (year : Nat) : Bool := year % 4 = 0 && (year % 100 ≠ 0 || year % 400 = 0)

/-- The days of the years before `year`. -/
def daysBefore (year : Nat) : Nat :=
  let past := year - 1
  365 * past + past / 4 - past / 100 + past / 400

/-- The lengths of the months of a year. -/
def monthLengths (year : Nat) : List Nat :=
  [31, if isLeap year then 29 else 28, 31, 30, 31, 30, 31, 31, 30, 31, 30, 31]

/-- The number of days of a month; no days when there is no such month. -/
def daysInMonth (year month : Nat) : Nat := ((0 :: monthLengths year)[month]?).getD 0

/-- A date of the calendar between the years 1 and 9999. -/
def isValid (d : Date) : Bool :=
  1 ≤ d.year && d.year ≤ 9999 && 1 ≤ d.day && d.day ≤ daysInMonth d.year d.month

/-- The days of months of the given lengths. -/
def daysIn : List Nat → Nat
  | [] => 0
  | length :: rest => length + daysIn rest

/-- The days between the first day of year 1 and a date. -/
def dayNumber (d : Date) : Nat :=
  daysBefore d.year + daysIn ((monthLengths d.year).take (d.month - 1)) + (d.day - 1)

/-- The latest year up to `year` that has begun on day `n`. -/
def yearUpTo (n : Nat) : Nat → Nat
  | 0 => 0
  | year + 1 => if daysBefore (year + 1) ≤ n then year + 1 else yearUpTo n year

/-- The month and the day of a day of the year, given the lengths of the months that are left. -/
def inMonths : List Nat → Nat → Nat → Nat × Nat
  | [], month, day => (month, day + 1)
  | length :: rest, month, day =>
    if day < length then (month, day + 1) else inMonths rest (month + 1) (day - length)

/-- The date at a number of days after the first day of year 1. -/
def ofDayNumber (n : Nat) : Date :=
  -- no year is shorter than 365 days, so the search begins at most a few years late
  let year := yearUpTo n (n / 365 + 1)
  let (month, day) := inMonths (monthLengths year) 1 (n - daysBefore year)
  ⟨year, month, day⟩

/-! ## Counting days -/

theorem daysBefore_succ (year : Nat) (h : 1 ≤ year) :
    daysBefore (year + 1) = daysBefore year + if isLeap year then 366 else 365 := by
  obtain ⟨past, rfl⟩ := Nat.exists_eq_add_of_le' h
  have hfew : past / 100 ≤ past / 4 := Nat.div_le_div_left (by decide) (by decide)
  have hfour : (past + 1) / 4 = past / 4 + if (past + 1) % 4 = 0 then 1 else 0 := by
    split <;> omega
  have hhundred : (past + 1) / 100 = past / 100 + if (past + 1) % 100 = 0 then 1 else 0 := by
    split <;> omega
  have hcycle : (past + 1) / 400 = past / 400 + if (past + 1) % 400 = 0 then 1 else 0 := by
    split <;> omega
  simp only [daysBefore, isLeap, Nat.add_sub_cancel, hfour, hhundred, hcycle]
  by_cases h4 : (past + 1) % 4 = 0 <;> by_cases h100 : (past + 1) % 100 = 0 <;>
    by_cases h400 : (past + 1) % 400 = 0 <;> simp [h4, h100, h400] <;> omega

theorem daysIn_monthLengths (year : Nat) :
    daysIn (monthLengths year) = if isLeap year then 366 else 365 := by
  cases h : isLeap year <;> simp [monthLengths, daysIn, h]

theorem daysBefore_yearUpTo_le (n : Nat) : ∀ year, daysBefore (yearUpTo n year) ≤ n
  | 0 => by simp [yearUpTo, daysBefore]
  | year + 1 => by
    rw [yearUpTo]
    split
    · assumption
    · exact daysBefore_yearUpTo_le n year

theorem one_le_yearUpTo (n : Nat) : ∀ year, 1 ≤ yearUpTo n (year + 1)
  | 0 => by simp [yearUpTo, daysBefore]
  | year + 1 => by
    rw [yearUpTo]
    split
    · omega
    · exact one_le_yearUpTo n year

/-- The year after the one that is found has not begun yet, when that holds of the bound. -/
theorem lt_daysBefore_yearUpTo {n : Nat} :
    ∀ {year : Nat}, n < daysBefore (year + 1) → n < daysBefore (yearUpTo n year + 1)
  | 0, h => h
  | year + 1, h => by
    rw [yearUpTo]
    split
    · exact h
    · exact lt_daysBefore_yearUpTo (by omega)

theorem fst_inMonths_ge (months : List Nat) (month day : Nat) :
    month ≤ (inMonths months month day).1 := by
  induction months generalizing month day with
  | nil => simp [inMonths]
  | cons length rest ih =>
    rw [inMonths]
    split
    · simp
    · have := ih (month + 1) (day - length)
      omega

/-- The months that are passed and the days of the last one add up to the day of the year. -/
theorem daysIn_take_inMonths (months : List Nat) (month day : Nat) :
    daysIn (months.take ((inMonths months month day).1 - month)) +
      ((inMonths months month day).2 - 1) = day := by
  induction months generalizing month day with
  | nil => simp [inMonths, daysIn]
  | cons length rest ih =>
    rw [inMonths]
    split
    · simp [daysIn]
    · have hge := fst_inMonths_ge rest (month + 1) (day - length)
      have hsum := ih (month + 1) (day - length)
      have hpos : (inMonths rest (month + 1) (day - length)).1 - month =
          (inMonths rest (month + 1) (day - length)).1 - (month + 1) + 1 := by omega
      rw [hpos, List.take_succ_cons, daysIn]
      omega

/-- A day of the year lies within the month that it is found in. -/
theorem inMonths_bounds {months : List Nat} {day : Nat} (month : Nat) (h : day < daysIn months) :
    1 ≤ (inMonths months month day).2 ∧
      ∃ length, months[(inMonths months month day).1 - month]? = some length ∧
        (inMonths months month day).2 ≤ length := by
  induction months generalizing month day with
  | nil => simp [daysIn] at h
  | cons length rest ih =>
    rw [inMonths]
    split
    · exact ⟨by simp, length, by simp, by simpa⟩
    · have hge := fst_inMonths_ge rest (month + 1) (day - length)
      have hrest : day - length < daysIn rest := by
        rw [daysIn] at h
        omega
      obtain ⟨hpos, found, hfound, hle⟩ := ih (month + 1) hrest
      refine ⟨hpos, found, ?_, hle⟩
      have hstep : (inMonths rest (month + 1) (day - length)).1 - month =
          (inMonths rest (month + 1) (day - length)).1 - (month + 1) + 1 := by omega
      rw [hstep, List.getElem?_cons_succ]
      exact hfound

theorem dayNumber_ofDayNumber (n : Nat) : dayNumber (ofDayNumber n) = n := by
  have hyear := daysBefore_yearUpTo_le n (n / 365 + 1)
  have hsum := daysIn_take_inMonths (monthLengths (yearUpTo n (n / 365 + 1))) 1
    (n - daysBefore (yearUpTo n (n / 365 + 1)))
  simp only [dayNumber, ofDayNumber]
  omega

theorem daysBefore_le_add {year : Nat} (h : 1 ≤ year) (more : Nat) :
    daysBefore year ≤ daysBefore (year + more) := by
  induction more with
  | zero => exact Nat.le_refl _
  | succ more ih =>
    rw [← Nat.add_assoc, daysBefore_succ _ (by omega)]
    exact Nat.le_trans ih (Nat.le_add_right _ _)

theorem lt_daysBefore (n : Nat) : n < daysBefore (n / 365 + 1 + 1) := by
  have hfew : (n / 365 + 1) / 100 ≤ (n / 365 + 1) / 4 :=
    Nat.div_le_div_left (by decide) (by decide)
  simp only [daysBefore, Nat.add_sub_cancel]
  omega

theorem isValid_ofDayNumber {n : Nat} (h : n < 3652059) : (ofDayNumber n).isValid = true := by
  have hone := one_le_yearUpTo n (n / 365)
  have hle := daysBefore_yearUpTo_le n (n / 365 + 1)
  have hlt := lt_daysBefore_yearUpTo (lt_daysBefore n)
  have hyear : yearUpTo n (n / 365 + 1) ≤ 9999 := by
    refine Nat.le_of_not_lt fun hlate => ?_
    obtain ⟨more, hmore⟩ := Nat.exists_eq_add_of_le hlate
    have hmono : daysBefore 10000 ≤ daysBefore (10000 + more) :=
      daysBefore_le_add (by decide) more
    have hend : daysBefore 10000 = 3652059 := by decide +kernel
    rw [← hmore] at hmono
    omega
  rw [daysBefore_succ _ hone, ← daysIn_monthLengths] at hlt
  have hin : n - daysBefore (yearUpTo n (n / 365 + 1)) <
      daysIn (monthLengths (yearUpTo n (n / 365 + 1))) := by omega
  obtain ⟨hday, length, hlength, hle⟩ := inMonths_bounds 1 hin
  have hmonth := fst_inMonths_ge (monthLengths (yearUpTo n (n / 365 + 1))) 1
    (n - daysBefore (yearUpTo n (n / 365 + 1)))
  obtain ⟨k, hk⟩ := Nat.exists_eq_add_of_le' hmonth
  simp only [hk, Nat.add_sub_cancel] at hlength
  simp [isValid, ofDayNumber, daysInMonth, hone, hyear, hday, hk, hlength, hle]

end Date

end Dialogue
