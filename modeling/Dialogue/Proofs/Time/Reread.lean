import Mathlib
import Dialogue.Checked.Scalar

/-!
# Reading stamps that were written

The text of a stamp is read back as the same stamp, whether its offset is known or not and whether
it has a fraction of a second or not. This holds of every stamp that a clock can show: one between
the years 1 and 9999, with an offset of less than a day.

Main statements: `ofText?_text` and `asStamp_text`.
-/

namespace Dialogue.Stamp

/-- A stamp that a clock can show. -/
structure IsCivil (s : Stamp) : Prop where
  inRange : Time.inRange s.micros = true
  offset : ∀ minutes ∈ s.offset, minutes.natAbs < 1440

/-! ## Digits -/

/-- Digits are read to their end. -/
theorem readDigits_append {digits : List Char} (all : ∀ c ∈ digits, c.isDigit = true)
    (value : Nat) (rest : List Char) :
    readDigits digits.length value (digits ++ rest) =
      some (Nat.ofDigitChars 10 digits value, rest) := by
  induction digits generalizing value with
  | nil => rfl
  | cons c digits ih =>
    rw [List.length_cons, List.cons_append, readDigits, if_pos (all c List.mem_cons_self),
      ih fun d h => all d (List.mem_cons_of_mem _ h), Nat.ofDigitChars_cons]
    rfl

theorem toList_padded (width n : Nat) :
    (padded width n).toList =
      List.replicate (width - (Nat.toDigits 10 n).length) '0' ++ Nat.toDigits 10 n :=
  String.toList_ofList

theorem isDigit_of_mem_padded {width n : Nat} {c : Char} (h : c ∈ (padded width n).toList) :
    c.isDigit = true := by
  rw [toList_padded] at h
  rcases List.mem_append.1 h with h | h
  · rw [List.eq_of_mem_replicate h]
    rfl
  · exact Nat.isDigit_of_mem_toDigits (by decide) (by decide) h

theorem length_padded {width n : Nat} (pos : 0 < width) (small : n < 10 ^ width) :
    (padded width n).toList.length = width := by
  have short : (Nat.toDigits 10 n).length ≤ width :=
    (Nat.length_toDigits_le_iff (by decide) pos).2 small
  rw [toList_padded, List.length_append, List.length_replicate]
  omega

theorem ofDigitChars_padded (width n : Nat) :
    Nat.ofDigitChars 10 (padded width n).toList 0 = n := by
  rw [toList_padded, Nat.ofDigitChars_append, Nat.ofDigitChars_replicate_zero, Nat.mul_zero,
    Nat.ofDigitChars_ten_toDigits]

/-- A number is read back from as many digits as were written. -/
theorem readDigits_padded {width n : Nat} (pos : 0 < width) (small : n < 10 ^ width)
    (rest : List Char) :
    readDigits width 0 ((padded width n).toList ++ rest) = some (n, rest) := by
  have all (c : Char) (h : c ∈ (padded width n).toList) : c.isDigit = true :=
    isDigit_of_mem_padded h
  have read := readDigits_append all 0 rest
  rw [length_padded pos small, ofDigitChars_padded] at read
  exact read

/-! ## Dates and times -/

theorem daysInMonth_le (year month : Nat) : Date.daysInMonth year month ≤ 31 := by
  unfold Date.daysInMonth Date.monthLengths
  cases found : (0 :: [31, if Date.isLeap year then 29 else 28, 31, 30, 31, 30, 31, 31, 30, 31, 30,
    31])[month]? with
  | none => simp
  | some days =>
    have mem := List.mem_of_getElem? found
    simp only [List.mem_cons, List.not_mem_nil, or_false] at mem
    rw [Option.getD_some]
    split at mem <;> omega

theorem month_le_of_isValid {date : Date} (valid : date.isValid = true) : date.month ≤ 12 := by
  unfold Date.isValid at valid
  simp only [Bool.and_eq_true, decide_eq_true_eq] at valid
  refine Nat.le_of_not_lt fun late => ?_
  -- A month beyond the twelfth has no days.
  have none_ : Date.daysInMonth date.year date.month = 0 := by
    unfold Date.daysInMonth
    rw [List.getElem?_eq_none (Nat.succ_le_of_lt late)]
    rfl
  omega

theorem readDate_padded {date : Date} (valid : date.isValid = true) (rest : List Char) :
    readDate ((padded 4 date.year).toList ++ '-' :: ((padded 2 date.month).toList ++
      '-' :: ((padded 2 date.day).toList ++ rest))) = some (date, rest) := by
  have month := month_le_of_isValid valid
  have days := daysInMonth_le date.year date.month
  have fields := valid
  unfold Date.isValid at fields
  simp only [Bool.and_eq_true, decide_eq_true_eq] at fields
  unfold readDate
  simp only [readDigits_padded (show 0 < 4 by decide) (show date.year < 10 ^ 4 by omega),
    readDigits_padded (show 0 < 2 by decide) (show date.month < 10 ^ 2 by omega),
    readDigits_padded (show 0 < 2 by decide) (show date.day < 10 ^ 2 by omega),
    Option.bind_eq_bind, Option.bind_some]
  rw [if_neg (show ¬ date.year = 0 by omega), if_pos valid]

/-- The text of a fraction of a second; none when the fraction is zero. -/
def fractionText (micros : Nat) : String :=
  if micros = 0 then "" else "." ++ padded 6 micros

/-- What may stand behind a time of day: no digit, no point and no comma. -/
def Ends (rest : List Char) : Prop := ∀ c ∈ rest.head?, c.isDigit = false ∧ c ≠ '.' ∧ c ≠ ','

theorem readFraction_padded {micros : Nat} (small : micros < 1000000) {rest : List Char}
    (ends : Ends rest) : readFraction ((padded 6 micros).toList ++ rest) = some (micros, rest) := by
  have length := length_padded (show 0 < 6 by decide) (show micros < 10 ^ 6 from small)
  have digits : ((padded 6 micros).toList ++ rest).takeWhile Char.isDigit =
      (padded 6 micros).toList := by
    rw [List.takeWhile_append_of_pos fun c h => isDigit_of_mem_padded h]
    cases rest with
    | nil => simp
    | cons c rest => simp [(ends c rfl).1]
  unfold readFraction
  dsimp only
  rw [digits, List.take_left' length, List.drop_left' rfl]
  have nonempty : (padded 6 micros).toList.isEmpty = false := by
    rw [List.isEmpty_eq_false_iff, ← List.length_pos_iff, length]
    decide
  rw [nonempty]
  simp only [Bool.false_eq_true, if_false]
  rw [show valueOf (padded 6 micros).toList = Nat.ofDigitChars 10 (padded 6 micros).toList 0 from
    rfl, ofDigitChars_padded]

theorem readSeconds_padded {seconds micros : Nat} (minute : seconds < 60)
    (small : micros < 1000000) {rest : List Char} (ends : Ends rest) :
    readSeconds (':' :: ((padded 2 seconds).toList ++ ((fractionText micros).toList ++ rest))) =
      some (seconds * 1000000 + micros, rest) := by
  unfold readSeconds
  simp only [readDigits_padded (show 0 < 2 by decide) (show seconds < 10 ^ 2 by omega),
    Option.bind_eq_bind, Option.bind_some]
  rw [if_neg (by omega)]
  unfold fractionText
  by_cases zero : micros = 0
  · rw [if_pos zero, zero, String.toList_empty, List.nil_append]
    split
    · exact absurd rfl (ends _ rfl).2.1
    · exact absurd rfl (ends _ rfl).2.2
    · rw [Nat.add_zero]
  · rw [if_neg zero, String.toList_append, show ".".toList = ['.'] from rfl]
    simp only [List.cons_append, List.nil_append, readFraction_padded small ends,
      Option.bind_some]

theorem readTime_padded {seconds micros : Nat} (day : seconds < 86400) (small : micros < 1000000)
    {rest : List Char} (ends : Ends rest) :
    readTime ((padded 2 (seconds / 3600)).toList ++ ':' ::
      ((padded 2 (seconds / 60 % 60)).toList ++ ':' :: ((padded 2 (seconds % 60)).toList ++
        ((fractionText micros).toList ++ rest)))) = some (seconds * 1000000 + micros, rest) := by
  unfold readTime
  simp only [readDigits_padded (show 0 < 2 by decide) (show seconds / 3600 < 10 ^ 2 by omega),
    readDigits_padded (show 0 < 2 by decide) (show seconds / 60 % 60 < 10 ^ 2 by omega),
    readSeconds_padded (show seconds % 60 < 60 by omega) small ends,
    Option.bind_eq_bind, Option.bind_some]
  rw [if_neg (by omega)]
  simp only [Option.some.injEq, Prod.mk.injEq, and_true]
  omega

/-! ## Zones -/

/-- The text behind a time of day. -/
def zoneText : Option Int → String
  | none => ""
  | some 0 => "Z"
  | some offset => offsetText offset

theorem ends_zoneText (offset : Option Int) : Ends (zoneText offset).toList := by
  unfold zoneText
  split
  · intro c hc
    cases hc
  · intro c hc
    cases hc
    decide
  · intro c hc
    unfold offsetText at hc
    rw [String.toList_append, String.toList_append, String.toList_append] at hc
    split at hc
    · cases hc
      decide
    · cases hc
      decide

theorem readZone_offset {offset : Int} (day : offset.natAbs < 1440) :
    readZone (offsetText offset).toList = some (some offset) := by
  have read : readOffset ((padded 2 (offset.natAbs / 60)).toList ++
      ':' :: (padded 2 (offset.natAbs % 60)).toList) = some (offset.natAbs, []) := by
    have minutes := readDigits_padded (show 0 < 2 by decide)
      (show offset.natAbs % 60 < 10 ^ 2 by omega) []
    rw [List.append_nil] at minutes
    unfold readOffset
    simp only [readDigits_padded (show 0 < 2 by decide) (show offset.natAbs / 60 < 10 ^ 2 by omega),
      minutes, Option.bind_eq_bind, Option.bind_some]
    rw [if_neg (by omega)]
    simp only [Option.some.injEq, Prod.mk.injEq, and_true]
    omega
  unfold offsetText
  simp only [String.toList_append, show ":".toList = [':'] from rfl, List.append_assoc,
    List.cons_append, List.nil_append]
  split
  · next negative =>
    simp only [show "-".toList = ['-'] from rfl, List.cons_append, List.nil_append]
    unfold readZone
    simp only [read, Option.bind_eq_bind, Option.bind_some]
    rw [Option.some.injEq, Option.some.injEq]
    omega
  · next positive =>
    simp only [show "+".toList = ['+'] from rfl, List.cons_append, List.nil_append]
    unfold readZone
    simp only [read, Option.bind_eq_bind, Option.bind_some]
    rw [Option.some.injEq, Option.some.injEq]
    omega

theorem readZone_text {s : Stamp} (civil : s.IsCivil) :
    readZone (zoneText s.offset).toList = some s.offset := by
  unfold zoneText
  split
  · next eq => rw [eq]; rfl
  · next eq => rw [eq]; rfl
  · next offset _ eq =>
    rw [eq]
    exact readZone_offset (civil.offset offset eq)

/-! ## Stamps -/

/-- The characters of a clock's text. -/
theorem toList_clockText (micros : Int) :
    (clockText micros).toList =
      let t := micros.toNat
      let date := Date.ofDayNumber (t / 86400000000)
      let seconds := t / 1000000 % 86400
      (padded 4 date.year).toList ++ '-' :: ((padded 2 date.month).toList ++
        '-' :: ((padded 2 date.day).toList ++ 'T' :: ((padded 2 (seconds / 3600)).toList ++
          ':' :: ((padded 2 (seconds / 60 % 60)).toList ++
            ':' :: ((padded 2 (seconds % 60)).toList ++
              (fractionText (t % 1000000)).toList))))) := by
  unfold clockText fractionText
  simp only [String.toList_append, show "-".toList = ['-'] from rfl,
    show ":".toList = [':'] from rfl, show "T".toList = ['T'] from rfl, List.append_assoc,
    List.cons_append, List.nil_append]

/-- **A written stamp is read back.** -/
theorem ofText?_text {s : Stamp} (civil : s.IsCivil) : ofText? s.text = some s := by
  have range := civil.inRange
  unfold Time.inRange Time.limit Time.day Time.second at range
  rw [Bool.and_eq_true, decide_eq_true_eq, decide_eq_true_eq] at range
  have early : s.micros.toNat / 86400000000 < 3652059 := by omega
  have valid := Date.isValid_ofDayNumber early
  have first : (Date.ofDayNumber (s.micros.toNat / 86400000000)).year ≠ 0 := by
    unfold Date.isValid at valid
    simp only [Bool.and_eq_true, decide_eq_true_eq] at valid
    omega
  have characters : s.text.toList = (clockText s.micros).toList ++ (zoneText s.offset).toList := by
    rw [← String.toList_append]
    rfl
  have read := readTime_padded (Nat.mod_lt (s.micros.toNat / 1000000) (show 86400 > 0 by decide))
    (Nat.mod_lt s.micros.toNat (show 1000000 > 0 by decide)) (ends_zoneText s.offset)
  unfold ofText?
  rw [characters, toList_clockText]
  simp only [List.append_assoc, List.cons_append, readDate_padded valid, Option.bind_eq_bind,
    Option.bind_some, read, readZone_text civil]
  rw [if_neg fun h => h.1 rfl]
  have whole : midnight (Date.ofDayNumber (s.micros.toNat / 86400000000)) +
      ((s.micros.toNat / 1000000 % 86400 * 1000000 + s.micros.toNat % 1000000 : Nat) : Int) =
        s.micros := by
    unfold midnight
    rw [if_neg first, Date.dayNumber_ofDayNumber]
    unfold Time.day Time.second
    omega
  rw [whole]

/-- A written stamp is read back from loose data. -/
theorem asStamp_text {s : Stamp} (civil : s.IsCivil) :
    Checked.asStamp (.str s.text) = .good s := by
  have range := civil.inRange
  unfold Time.inRange at range
  rw [Bool.and_eq_true] at range
  unfold Checked.asStamp
  simp only [ofText?_text civil, Checked.stampOr]
  exact if_pos range.1

end Dialogue.Stamp
