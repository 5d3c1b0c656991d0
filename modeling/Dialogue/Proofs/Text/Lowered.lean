import Mathlib.Data.List.Forall2
import Dialogue.Text.Case

/-!
# Lower case is settled

A code point in lower case stays as it is when it is lowered again, because no shift of the table
moves what another one leads to. This is checked for the shifts two by two: what the first leads to
lies in front of all that the second moves, or behind it, or always between two of them, where both
go in steps of two.

A text in lower case consists of one piece for each of its characters, and there are three shapes
of pieces.

Main statements: `lowerCode_lowerCode`, `isValidChar_lowerCode` and `exists_lowers`.
-/

namespace Dialogue.Text

namespace CaseShift

/-- How far the last code point that is moved lies behind the first. -/
def span (s : CaseShift) : Nat := (s.count - 1) * s.step

/-- Where the first code point is moved to. -/
def target (s : CaseShift) : Nat := ((s.first : Int) + s.delta).toNat

/-- Every code point that `s` leads to is a character. -/
def lands (s : CaseShift) : Bool :=
  decide (0 ≤ (s.first : Int) + s.delta) &&
    (Nat.blt (s.target + s.span) 0xd800 ||
      (Nat.blt 0xdfff s.target && Nat.blt (s.target + s.span) 0x110000))

/-- No code point that `s` leads to is moved by `t`. -/
def misses (s t : CaseShift) : Bool :=
  Nat.blt (s.target + s.span) t.first || Nat.blt (t.first + t.span) s.target ||
    ((Nat.beq s.span 0 || Nat.beq s.step 2) && Nat.beq t.step 2 &&
      !Nat.beq (s.target % 2) (t.first % 2))

/-- A test holds of every code point that `s` moves and of what `s` leads to. -/
def each (s : CaseShift) (test : Nat → Nat → Bool) : Bool :=
  (List.range (s.span + 1)).all fun n =>
    !Nat.beq (n % s.step) 0 || test (s.first + n) (s.target + n)

variable {s t : CaseShift} {c d : Nat}

/-- What a shift moves lies in its stretch, whole steps behind the first. -/
theorem stretch_of_move? (moves : s.move? c = some d) :
    ∃ n ≤ s.span, n % s.step = 0 ∧ c = s.first + n ∧ d = ((c : Int) + s.delta).toNat := by
  obtain ⟨⟨low, high, whole⟩, ⟨⟩⟩ := Option.ite_none_right_eq_some.1 moves
  obtain ⟨n, rfl⟩ := Nat.exists_eq_add_of_le low
  rw [Nat.add_sub_cancel_left] at whole
  refine ⟨n, ?_, whole, rfl, rfl⟩
  obtain ⟨k, rfl⟩ := Nat.dvd_of_mod_eq_zero whole
  have few : k < s.count := by
    refine Nat.lt_of_mul_lt_mul_left (a := s.step) ?_
    rw [Nat.mul_comm s.step s.count]
    omega
  rw [span, Nat.mul_comm]
  exact Nat.mul_le_mul_right _ (Nat.le_sub_one_of_lt few)

/-- Where a shift leads to. -/
theorem target_of_move? (lands : s.lands = true) (moves : s.move? c = some d) :
    ∃ n ≤ s.span, n % s.step = 0 ∧ c = s.first + n ∧ d = s.target + n := by
  obtain ⟨n, le, whole, rfl, rfl⟩ := stretch_of_move? moves
  have reachable : 0 ≤ (s.first : Int) + s.delta :=
    of_decide_eq_true (Bool.and_eq_true_iff.1 lands).1
  exact ⟨n, le, whole, rfl, by rw [target]; omega⟩

/-- What is tested at all steps of a shift holds of what it moves. -/
theorem test_of_each {test : Nat → Nat → Bool} (lands : s.lands = true) (each : s.each test = true)
    (moves : s.move? c = some d) : test c d = true := by
  obtain ⟨n, le, whole, rfl, rfl⟩ := target_of_move? lands moves
  have step := List.all_eq_true.1 each n (List.mem_range.2 (Nat.lt_succ_of_le le))
  rwa [whole, Nat.beq_refl, Bool.not_true, Bool.false_or] at step

/-- The check of two shifts is sound. -/
theorem move?_of_misses (lands : s.lands = true) (misses : s.misses t = true)
    (moves : s.move? c = some d) : t.move? d = none := by
  obtain ⟨n, le, whole, -, rfl⟩ := target_of_move? lands moves
  refine Option.eq_none_iff_forall_not_mem.2 fun e again => ?_
  obtain ⟨m, le', whole', meet, -⟩ := stretch_of_move? again
  simp only [CaseShift.misses, Bool.or_eq_true, Bool.and_eq_true, Nat.blt_eq, Nat.beq_eq,
    Bool.not_eq_true'] at misses
  rcases misses with (front | back) | ⟨⟨steps, step⟩, parity⟩
  · omega
  · omega
  · have apart := Nat.ne_of_beq_eq_false parity
    have even : n % 2 = 0 := by
      rcases steps with none_ | two
      · omega
      · rwa [two] at whole
    have even' : m % 2 = 0 := by rwa [step] at whole'
    omega

end CaseShift

theorem lands_of_mem : ∀ s ∈ lowerShifts, s.lands = true := by decide +kernel

theorem misses_lowerShifts : (lowerShifts.all fun s => lowerShifts.all s.misses) = true := by
  decide +kernel

theorem misses_of_mem {s t : CaseShift} (mem : s ∈ lowerShifts) (mem' : t ∈ lowerShifts) :
    s.misses t = true :=
  List.all_eq_true.1 (List.all_eq_true.1 misses_lowerShifts s mem) t mem'

/-- A code point is its own lower case form, or a shift leads to its form. -/
theorem lowerCode_cases (c : Nat) :
    lowerCode c = c ∨ ∃ s ∈ lowerShifts, s.move? c = some (lowerCode c) := by
  unfold lowerCode
  cases shifted : shiftIn lowerShifts c with
  | none => exact .inl rfl
  | some d => exact .inr (List.exists_of_findSome?_eq_some shifted)

/-- **Lower case is settled.** -/
theorem lowerCode_lowerCode (c : Nat) : lowerCode (lowerCode c) = lowerCode c := by
  rcases lowerCode_cases c with same | ⟨s, mem, moves⟩
  · rw [same, same]
  · have still : shiftIn lowerShifts (lowerCode c) = none :=
      List.findSome?_eq_none_iff.2 fun t mem' =>
        CaseShift.move?_of_misses (lands_of_mem s mem) (misses_of_mem mem mem') moves
    rw [lowerCode, still, Option.getD_none]

/-- **What holds of a code point and its lower case form.** -/
theorem holds_lowerCode {test : Nat → Nat → Bool} (each : lowerShifts.all (·.each test) = true)
    (c : Nat) (same : test c c = true) : test c (lowerCode c) = true := by
  rcases lowerCode_cases c with still | ⟨s, mem, moves⟩
  · rwa [still]
  · exact CaseShift.test_of_each (lands_of_mem s mem) (List.all_eq_true.1 each s mem) moves

/-- **The lower case form of a character** is a character. -/
theorem isValidChar_lowerCode (c : Char) : (lowerCode c.toNat).isValidChar := by
  rcases lowerCode_cases c.toNat with same | ⟨s, mem, moves⟩
  · rw [same]
    exact c.valid
  · have lands := lands_of_mem s mem
    obtain ⟨n, le, -, -, shape⟩ := CaseShift.target_of_move? lands moves
    simp only [CaseShift.lands, Bool.and_eq_true, Bool.or_eq_true, Nat.blt_eq] at lands
    rw [shape, Nat.isValidChar]
    omega

theorem toNat_ofNat_lowerCode (c : Char) :
    (Char.ofNat (lowerCode c.toNat)).toNat = lowerCode c.toNat := by
  rw [Char.ofNat, dif_pos (isValidChar_lowerCode c)]
  rfl

/-! ## Texts in lower case -/

/-- What a character may become in lower case. -/
inductive Lowers : Char → List Char → Prop
  | sigma {d : Char} (small : d = 'ς' ∨ d = 'σ') : Lowers 'Σ' [d]
  | dotted : Lowers 'İ' ['i', '\u0307']
  | other (c : Char) : Lowers c [Char.ofNat (lowerCode c.toNat)]

/-- **What each character becomes in lower case.** -/
theorem exists_lowers (before cs : List Char) :
    ∃ pieces, List.Forall₂ Lowers cs pieces ∧ lowerChars before cs = pieces.flatten := by
  induction cs generalizing before with
  | nil => exact ⟨[], .nil, rfl⟩
  | cons c cs ih =>
    obtain ⟨pieces, each, rest⟩ := ih (c :: before)
    rw [lowerChars, rest]
    by_cases isSigma : c = 'Σ'
    · -- The neighbours only choose between the two small forms.
      rw [if_pos isSigma, isSigma]
      refine ⟨_ :: pieces, .cons (.sigma ?_) each, rfl⟩
      split
      · exact .inl rfl
      · exact .inr rfl
    rw [if_neg isSigma]
    by_cases isDotted : c = 'İ'
    · rw [if_pos isDotted, isDotted]
      exact ⟨_ :: pieces, .cons .dotted each, rfl⟩
    · rw [if_neg isDotted]
      exact ⟨_ :: pieces, .cons (.other c) each, rfl⟩

end Dialogue.Text
