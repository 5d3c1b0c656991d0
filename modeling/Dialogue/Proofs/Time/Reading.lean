import Dialogue.Proofs.Json.Decimals
import Dialogue.Proofs.Time.Reread

/-!
# Stamps that are read

Whatever data a stamp is read from, it is one that a clock can show: it lies between the years 1 and
9999, and its offset is less than a day. So its text can be read again.

Main statement: `isCivil_of_asStoredStamp`.
-/

namespace Dialogue

/-! ## Dates -/

namespace Date

/-- The days of the months before a month, and the days of that month, are days of the year. -/
theorem daysIn_take_le {lengths : List Nat} {k length : Nat} (found : lengths[k]? = some length) :
    daysIn (lengths.take k) + length ≤ daysIn lengths := by
  induction lengths generalizing k with
  | nil => simp at found
  | cons first rest ih =>
    cases k with
    | zero =>
      simp only [List.getElem?_cons_zero, Option.some.injEq] at found
      rw [List.take_zero, daysIn, daysIn, found]
      omega
    | succ k =>
      have later := ih (by simpa using found)
      rw [List.take_succ_cons, daysIn, daysIn]
      omega

/-- A date of the calendar comes before the year that follows it. -/
theorem dayNumber_lt {d : Date} (valid : d.isValid = true) :
    d.dayNumber < daysBefore (d.year + 1) := by
  unfold isValid at valid
  simp only [Bool.and_eq_true, decide_eq_true_eq] at valid
  obtain ⟨⟨⟨first, -⟩, day⟩, last⟩ := valid
  unfold daysInMonth at last
  cases month : d.month with
  | zero =>
    rw [month] at last
    simp only [List.getElem?_cons_zero, Option.getD_some] at last
    omega
  | succ k =>
    rw [month, List.getElem?_cons_succ] at last
    cases found : (monthLengths d.year)[k]? with
    | none =>
      rw [found, Option.getD_none] at last
      omega
    | some length =>
      rw [found, Option.getD_some] at last
      have within := daysIn_take_le found
      rw [daysIn_monthLengths] at within
      rw [daysBefore_succ _ first, dayNumber, month, Nat.add_sub_cancel]
      omega

/-- The calendar has so many days. -/
theorem dayNumber_lt_of_isValid {d : Date} (valid : d.isValid = true) : d.dayNumber < 3652059 := by
  have year : 1 ≤ d.year ∧ d.year ≤ 9999 := by
    unfold isValid at valid
    simp only [Bool.and_eq_true, decide_eq_true_eq] at valid
    exact valid.1.1
  obtain ⟨more, later⟩ := Nat.exists_eq_add_of_le (Nat.succ_le_succ year.2)
  calc d.dayNumber < daysBefore (d.year + 1) := dayNumber_lt valid
    _ ≤ daysBefore (d.year + 1 + more) := daysBefore_le_add (by omega) more
    _ = daysBefore 10000 := by rw [← later]
    _ = 3652059 := by decide +kernel

end Date

namespace Stamp

open Effect

/-! ## Written dates and times -/

/-- A date that is read begins before the end of the calendar, to the day. -/
theorem midnight_of_readDate {cs rest : List Char} {date : Date}
    (read : readDate cs = some (date, rest)) : midnight date + Time.day ≤ Time.limit := by
  unfold readDate at read
  simp only [Option.bind_eq_bind, Option.bind_eq_some_iff] at read
  obtain ⟨⟨year, cs₁⟩, -, read⟩ := read
  dsimp only at read
  split at read
  · simp only [Option.bind_eq_some_iff] at read
    obtain ⟨⟨month, cs₂⟩, -, read⟩ := read
    dsimp only at read
    split at read
    · simp only [Option.bind_eq_some_iff] at read
      obtain ⟨⟨day, cs₃⟩, -, read⟩ := read
      rw [Option.ite_none_right_eq_some] at read
      obtain ⟨valid, whole⟩ := read
      cases whole
      have before := Date.dayNumber_lt_of_isValid valid
      unfold midnight Time.limit Time.day Time.second
      split
      · next zero =>
        rw [if_pos zero] at before
        dsimp only at before ⊢
        omega
      · next other =>
        rw [if_neg other] at before
        omega
    · cases read
  · cases read

theorem readFraction_lt {cs rest : List Char} {micros : Nat}
    (read : readFraction cs = some (micros, rest)) : micros < 1000000 := by
  unfold readFraction at read
  dsimp only at read
  split at read
  · cases read
  · cases read
    have all : ∀ c ∈ (cs.takeWhile Char.isDigit ++ List.replicate 6 '0').take 6,
        c.isDigit = true := by
      intro c mem
      rcases List.mem_append.1 (List.mem_of_mem_take mem) with digit | zero
      · exact List.all_eq_true.1 List.all_takeWhile c digit
      · rw [List.eq_of_mem_replicate zero]
        rfl
    have six : ((cs.takeWhile Char.isDigit ++ List.replicate 6 '0').take 6).length = 6 := by
      rw [List.length_take, List.length_append, List.length_replicate]
      omega
    have small := Json.ofDigits_lt _ all
    rw [six] at small
    exact small

theorem readSeconds_lt {cs rest : List Char} {micros : Nat}
    (read : readSeconds cs = some (micros, rest)) : micros < 60000000 := by
  unfold readSeconds at read
  split at read
  · simp only [Option.bind_eq_bind, Option.bind_eq_some_iff] at read
    obtain ⟨⟨seconds, cs₁⟩, -, read⟩ := read
    dsimp only at read
    split at read
    · cases read
    · split at read
      · obtain ⟨⟨fraction, cs₂⟩, digits, whole⟩ := Option.bind_eq_some_iff.1 read
        have small := readFraction_lt digits
        cases whole
        omega
      · obtain ⟨⟨fraction, cs₂⟩, digits, whole⟩ := Option.bind_eq_some_iff.1 read
        have small := readFraction_lt digits
        cases whole
        omega
      · cases read
        omega
  · cases read
    decide

/-- A time of day is less than a day. -/
theorem readTime_lt {cs rest : List Char} {micros : Nat}
    (read : readTime cs = some (micros, rest)) : (micros : Int) < Time.day := by
  unfold readTime at read
  simp only [Option.bind_eq_bind, Option.bind_eq_some_iff] at read
  obtain ⟨⟨hours, cs₁⟩, -, read⟩ := read
  dsimp only at read
  split at read
  · simp only [Option.bind_eq_some_iff] at read
    obtain ⟨⟨minutes, cs₂⟩, -, read⟩ := read
    dsimp only at read
    split at read
    · cases read
    · simp only [Option.bind_eq_some_iff] at read
      obtain ⟨⟨seconds, cs₃⟩, behind, whole⟩ := read
      have small := readSeconds_lt behind
      cases whole
      unfold Time.day Time.second
      omega
  · cases read

/-- An offset is less than a day. -/
theorem readOffset_lt {cs rest : List Char} {offset : Nat}
    (read : readOffset cs = some (offset, rest)) : offset < 1440 := by
  unfold readOffset at read
  simp only [Option.bind_eq_bind, Option.bind_eq_some_iff] at read
  obtain ⟨⟨hours, cs₁⟩, -, ⟨minutes, cs₂⟩, -, read⟩ := read
  dsimp only at read
  split at read
  · cases read
  · cases read
    omega

theorem readZone_lt {cs : List Char} {offset? : Option Int} (read : readZone cs = some offset?) :
    ∀ offset ∈ offset?, offset.natAbs < 1440 := by
  have signed {cs : List Char} {close : Nat × List Char → Option (Option Int)}
      (size : ∀ p o, close p = some o → ∀ offset ∈ o, offset.natAbs = p.1)
      (read : (readOffset cs).bind close = some offset?) :
      ∀ offset ∈ offset?, offset.natAbs < 1440 := by
    obtain ⟨⟨n, rest⟩, digits, read⟩ := Option.bind_eq_some_iff.1 read
    intro offset mem
    rw [size _ _ read offset mem]
    exact readOffset_lt digits
  unfold readZone at read
  split at read
  · cases read
    rintro _ ⟨⟩
  · cases read
    rintro _ ⟨⟩
    decide
  · cases read
    rintro _ ⟨⟩
    decide
  · refine signed ?_ read
    rintro ⟨n, _ | _⟩ _ ⟨⟩ _ ⟨⟩
    exact Int.natAbs_natCast n
  · refine signed ?_ read
    rintro ⟨n, _ | _⟩ _ ⟨⟩ _ ⟨⟩
    exact (Int.natAbs_neg _).trans (Int.natAbs_natCast n)
  · refine signed ?_ read
    rintro ⟨n, _ | _⟩ _ ⟨⟩ _ ⟨⟩
    exact (Int.natAbs_neg _).trans (Int.natAbs_natCast n)
  · cases read

/-- A written date and time ends before the end of the calendar. -/
theorem isCivil_of_ofText? {text : String} {s : Stamp} (read : ofText? text = some s)
    (dated : s.isDated = true) : s.IsCivil := by
  have starts : 0 ≤ s.micros := by simpa [isDated] using dated
  unfold ofText? at read
  simp only [Option.bind_eq_bind, Option.bind_eq_some_iff] at read
  obtain ⟨⟨date, cs⟩, written, read⟩ := read
  have ends := midnight_of_readDate written
  dsimp only at read
  split at read
  · cases read
    refine ⟨?_, by rintro _ ⟨⟩⟩
    have long : 0 < Time.day := by decide
    simp only [Time.inRange, Bool.and_eq_true, decide_eq_true_eq] at starts ⊢
    omega
  · split at read
    · cases read
    · simp only [Option.bind_eq_some_iff] at read
      obtain ⟨⟨micros, cs₁⟩, time, offset?, zone, whole⟩ := read
      have short := readTime_lt time
      cases whole
      refine ⟨?_, readZone_lt zone⟩
      simp only [Time.inRange, Bool.and_eq_true, decide_eq_true_eq] at starts ⊢
      omega

/-! ## Numbers of seconds -/

theorem isCivil_of_ofSeconds? {seconds micros : Int} {s : Stamp}
    (read : ofSeconds? seconds micros = some s) (dated : s.isDated = true) : s.IsCivil := by
  have starts : 0 ≤ s.micros := by simpa [isDated] using dated
  unfold ofSeconds? at read
  dsimp only at read
  split at read
  · cases read
  · next inside =>
    cases read
    refine ⟨?_, ?_⟩
    · simp only [Time.inRange, Bool.and_eq_true, decide_eq_true_eq]
      unfold epoch lastSecond Time.limit Time.day Time.second at *
      dsimp only at starts
      omega
    · rintro _ ⟨⟩
      decide

theorem isCivil_of_ofWhole? {n : Int} {s : Stamp} (read : ofWhole? n = some s)
    (dated : s.isDated = true) : s.IsCivil := by
  unfold ofWhole? at read
  split at read
  · exact isCivil_of_ofSeconds? read dated
  · exact isCivil_of_ofSeconds? read dated

theorem isCivil_of_ofFraction? {x : Binary64} {s : Stamp} (read : ofFraction? x = some s)
    (dated : s.isDated = true) : s.IsCivil := by
  unfold ofFraction? at read
  simp only [Option.bind_eq_bind, Option.bind_eq_some_iff] at read
  obtain ⟨whole, -, read⟩ := read
  split at read
  · obtain ⟨micros, -, read⟩ := Option.bind_eq_some_iff.1 read
    exact isCivil_of_ofSeconds? read dated
  · obtain ⟨micros, -, read⟩ := Option.bind_eq_some_iff.1 read
    exact isCivil_of_ofSeconds? read dated

theorem isCivil_of_ofNumeral? {text : String} {s : Stamp} (read : ofNumeral? text = some s)
    (dated : s.isDated = true) : s.IsCivil := by
  have unsigned {negative : Bool} {cs : List Char} (read : ofUnsigned? negative cs = some s) :
      s.IsCivil := by
    unfold ofUnsigned? at read
    dsimp only at read
    split at read
    · cases read
    · split at read
      · split at read
        · cases read
        · exact isCivil_of_ofWhole? read dated
      · split at read
        · cases read
        · obtain ⟨power, -, read⟩ := Option.bind_eq_some_iff.1 read
          exact isCivil_of_ofFraction? read dated
      · cases read
  unfold ofNumeral? at read
  split at read <;> exact unsigned read

/-! ## Stamps -/

theorem of_stampOr {flaw : Flaw} {s? : Option Stamp} {s : Stamp}
    (read : Checked.stampOr flaw s? = .good s) : s? = some s ∧ s.isDated = true := by
  unfold Checked.stampOr at read
  split at read
  · split at read
    · next dated =>
      cases read
      exact ⟨rfl, dated⟩
    · cases read
  · cases read

theorem isCivil_of_asStamp {value : Json} {s : Stamp} (read : Checked.asStamp value = .good s) :
    s.IsCivil := by
  unfold Checked.asStamp at read
  split at read
  · split at read
    · cases read
    · obtain ⟨found, dated⟩ := of_stampOr read
      exact isCivil_of_ofWhole? found dated
  · obtain ⟨found, dated⟩ := of_stampOr read
    exact isCivil_of_ofFraction? found dated
  · obtain ⟨found, dated⟩ := of_stampOr read
    rcases Option.or_eq_some_iff.1 found with written | ⟨-, numeral⟩
    · exact isCivil_of_ofText? written dated
    · exact isCivil_of_ofNumeral? numeral dated
  · cases read

/-- **A stored stamp that is read is one that a clock can show.** -/
theorem isCivil_of_asStoredStamp {value : Json} {s : Stamp}
    (read : Checked.asStoredStamp value = .good s) : s.IsCivil := by
  unfold Checked.asStoredStamp at read
  split at read
  · split at read
    · exact isCivil_of_asStamp read
    · cases read
  · exact isCivil_of_asStamp read

/-- The text of a stamp that a clock can show is read as a stored stamp. -/
theorem asStoredStamp_text {s : Stamp} (civil : s.IsCivil) :
    Checked.asStoredStamp (.str s.text) = .good s := by
  unfold Checked.asStoredStamp
  exact asStamp_text civil

end Stamp

end Dialogue
