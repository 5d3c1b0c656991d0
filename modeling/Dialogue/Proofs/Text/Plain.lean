import Mathlib.Logic.Basic
import Dialogue.Proofs.Text.Lowered
import Dialogue.Text.Fold

/-!
# Plain forms are settled

A character is altered when it is a mark, a syllable or a listed character; any other one is its own
plain form. No plain form holds an altered character, and neither does the lower case form of a
character that is not altered. For the listed characters this is checked. So that the check compares
a few numbers, a set of code points is written as the number that has their bits.

Main statements: `plainChar_of_not_isAltered`, `not_isAltered_of_mem_plainChar` and
`not_isAltered_lowerCode`.
-/

namespace Dialogue.Text

/-! ## Sets of code points as numbers -/

namespace CodeSet

/-- What is in any of the sets. -/
def unite (sets : List Nat) : Nat := sets.foldr (· ||| ·) 0

/-- The `count` code points from `first` on. -/
def block (first count : Nat) : Nat := (1 <<< count - 1) <<< first

/-- The code points that run lengths describe. -/
def ofRuns : List Nat → Nat
  | outside :: inside :: rest => (block 0 inside ||| ofRuns rest <<< inside) <<< outside
  | _ => 0

variable {s t code first count : Nat} {sets runs : List Nat}

theorem testBit_unite : (unite sets).testBit code = true ↔ ∃ s ∈ sets, s.testBit code = true := by
  induction sets with
  | nil => simp [unite]
  | cons s sets ih =>
    have step : unite (s :: sets) = s ||| unite sets := rfl
    rw [step, Nat.testBit_or, Bool.or_eq_true, ih]
    simp

theorem testBit_block :
    (block first count).testBit code = true ↔ first ≤ code ∧ code - first < count := by
  simp [block, Nat.one_shiftLeft, Nat.testBit_shiftLeft, Nat.testBit_two_pow_sub_one]

theorem testBit_ofRuns : (ofRuns runs).testBit code = inRuns runs code := by
  fun_induction inRuns runs code with
  | case1 outside inside rest code before =>
    rw [ofRuns, Nat.testBit_shiftLeft, decide_eq_false (by omega), Bool.false_and]
  | case2 outside inside rest code behind within =>
    have first : (block 0 inside).testBit (code - outside) = true := testBit_block.2 (by omega)
    rw [ofRuns, Nat.testBit_shiftLeft, Nat.testBit_or, first, decide_eq_true (by omega)]
    rfl
  | case3 outside inside rest code behind beyond ih =>
    have first : (block 0 inside).testBit (code - outside) = false :=
      Bool.eq_false_iff.2 fun mem => by have := testBit_block.1 mem; omega
    rw [ofRuns, Nat.testBit_shiftLeft, Nat.testBit_or, first, Nat.testBit_shiftLeft,
      decide_eq_true (by omega), decide_eq_true (by omega), Nat.sub_sub, ih]
    rfl
  | case4 runs code short =>
    rw [ofRuns.eq_2 _ short, Nat.zero_testBit]

theorem testBit_of_apart (apart : s &&& t = 0) (mem : t.testBit code = true) :
    s.testBit code = false := by
  have none_ := congrArg (·.testBit code) apart
  simpa [Nat.testBit_and, mem] using none_

end CodeSet

open CodeSet

/-! ## Altered characters -/

/-- The code points of the listed characters. -/
def listedCodes : Nat := unite (plainRuns.map fun run => block run.first run.forms.length)

/-- The code points of the marks, of the syllables and of the listed characters. -/
def alteredCodes : Nat := unite [ofRuns markRuns, block 0xac00 11172, listedCodes]

/-- The code points of which the listed forms consist. -/
def listedFormCodes : Nat :=
  unite (plainRuns.map fun run => unite (run.forms.map fun form => unite (form.map (1 <<< ·))))

/-- The code points of which plain forms consist: the first ones, the letters of syllables, and
those of the listed forms. -/
def formCodes : Nat :=
  unite [block 0 128, block 0x1100 19, block 0x1161 21, block 0x11a8 27, listedFormCodes]

theorem alteredCodes_formCodes : alteredCodes &&& formCodes = 0 := by decide +kernel

/-- A mark, a syllable or a listed character. -/
def IsAltered (c : Char) : Prop := alteredCodes.testBit c.toNat = true

instance (c : Char) : Decidable (IsAltered c) := instDecidableEqBool _ _

variable {c d : Char} {code : Nat}

theorem testBit_alteredCodes : alteredCodes.testBit code = true ↔
    inRuns markRuns code = true ∨ (0xac00 ≤ code ∧ code ≤ 0xd7a3) ∨
      listedCodes.testBit code = true := by
  have syllable : (0xac00 ≤ code ∧ code - 0xac00 < 11172) ↔ 0xac00 ≤ code ∧ code ≤ 0xd7a3 := by
    omega
  rw [alteredCodes, testBit_unite, ← syllable, ← testBit_block, ← testBit_ofRuns]
  simp

theorem testBit_formCodes : formCodes.testBit code = true ↔
    code < 128 ∨ (0x1100 ≤ code ∧ code - 0x1100 < 19) ∨ (0x1161 ≤ code ∧ code - 0x1161 < 21) ∨
      (0x11a8 ≤ code ∧ code - 0x11a8 < 27) ∨ listedFormCodes.testBit code = true := by
  rw [formCodes, testBit_unite]
  simp [testBit_block]

theorem PlainRun.isSome_form?_iff {run : PlainRun} : (run.form? code).isSome = true ↔
    (block run.first run.forms.length).testBit code = true := by
  rw [testBit_block, form?]
  split
  · next behind => simp [behind]
  · next before => simp [before]

theorem isSome_listedPlain?_iff :
    (listedPlain? code).isSome = true ↔ listedCodes.testBit code = true := by
  rw [listedPlain?, List.findSome?_isSome_iff, listedCodes, testBit_unite]
  simp only [List.mem_map, exists_exists_and_eq_and, PlainRun.isSome_form?_iff]

/-- A listed form consists of codes of listed forms. -/
theorem testBit_listedFormCodes {form : List Nat} (listed : listedPlain? code = some form)
    {part : Nat} (mem : part ∈ form) : listedFormCodes.testBit part = true := by
  obtain ⟨run, within, found⟩ := List.exists_of_findSome?_eq_some listed
  obtain ⟨-, found⟩ := Option.ite_none_right_eq_some.1 found
  refine testBit_unite.2 ⟨_, List.mem_map_of_mem within, ?_⟩
  refine testBit_unite.2 ⟨_, List.mem_map_of_mem (List.mem_of_getElem? found), ?_⟩
  have self : (1 <<< part).testBit part = true := by simp [Nat.testBit_shiftLeft]
  exact testBit_unite.2 ⟨_, List.mem_map_of_mem mem, self⟩

/-- The letters of a syllable. -/
theorem testBit_hangulLetters (low : 0xac00 ≤ code) (high : code ≤ 0xd7a3) {letter : Nat}
    (mem : letter ∈ hangulLetters code) : formCodes.testBit letter = true := by
  rw [testBit_formCodes]
  unfold hangulLetters at mem
  dsimp only at mem
  split at mem
  · simp only [List.mem_cons, List.not_mem_nil, or_false] at mem
    omega
  · simp only [List.cons_append, List.nil_append, List.mem_cons, List.not_mem_nil, or_false] at mem
    omega

/-! ## Plain forms -/

/-- A code point of a form gives a character that is not altered. -/
theorem not_isAltered_ofNat (form : formCodes.testBit code = true) :
    ¬ IsAltered (Char.ofNat code) := by
  have apart {code : Nat} (form : formCodes.testBit code = true) :
      ¬ alteredCodes.testBit code = true :=
    Bool.eq_false_iff.1 (testBit_of_apart alteredCodes_formCodes form)
  by_cases valid : code.isValidChar
  · rw [IsAltered, Char.ofNat, dif_pos valid]
    exact apart form
  · -- What is no character is read as the first of all characters.
    rw [IsAltered, Char.ofNat, dif_neg valid]
    exact apart (testBit_formCodes.2 (.inl (by decide)))

/-- **A character that is not altered** is its own plain form. -/
theorem plainChar_of_not_isAltered (plain : ¬ IsAltered c) : plainChar c = [c] := by
  rw [IsAltered, testBit_alteredCodes, not_or, not_or, ← isSome_listedPlain?_iff] at plain
  obtain ⟨unmarked, single, unlisted⟩ := plain
  rw [Bool.not_eq_true, Option.isSome_eq_false_iff, Option.isNone_iff_eq_none] at unlisted
  unfold plainChar
  simp only [isMark, if_neg unmarked, if_neg single, unlisted, ite_self]

/-- **Plain forms hold no altered characters.** -/
theorem not_isAltered_of_mem_plainChar (mem : d ∈ plainChar c) : ¬ IsAltered d := by
  unfold plainChar at mem
  dsimp only at mem
  split at mem
  · next first =>
    have form := testBit_formCodes.2 (.inl first)
    rw [List.mem_singleton.1 mem, ← Char.ofNat_toNat c]
    exact not_isAltered_ofNat form
  split at mem
  · cases mem
  next unmarked =>
  split at mem
  · next syllable =>
    obtain ⟨letter, within, rfl⟩ := List.mem_map.1 mem
    exact not_isAltered_ofNat (testBit_hangulLetters syllable.1 syllable.2 within)
  next single =>
  split at mem
  · next form listed =>
    obtain ⟨part, within, rfl⟩ := List.mem_map.1 mem
    have parts := testBit_listedFormCodes listed within
    exact not_isAltered_ofNat (testBit_formCodes.2 (.inr (.inr (.inr (.inr parts)))))
  · next unlisted =>
    rw [List.mem_singleton.1 mem, IsAltered, testBit_alteredCodes, ← isSome_listedPlain?_iff]
    rintro (marked | syllable | listed)
    · exact unmarked marked
    · exact single syllable
    · rw [unlisted] at listed
      cases listed

/-- A mark is altered. -/
theorem isMark_of_not_isAltered (plain : ¬ IsAltered c) : isMark c = false :=
  Bool.eq_false_iff.2 fun marked => plain (testBit_alteredCodes.2 (.inl marked))

/-! ## Lower case forms -/

theorem lowerShifts_altered : (lowerShifts.all (·.each fun c d =>
    !alteredCodes.testBit d || alteredCodes.testBit c)) = true := by decide +kernel

/-- **The lower case form** of a character that is not altered is not altered either. -/
theorem not_isAltered_lowerCode (plain : ¬ IsAltered c) :
    ¬ IsAltered (Char.ofNat (lowerCode c.toNat)) := by
  have checked := holds_lowerCode lowerShifts_altered c.toNat (Bool.not_or_self _)
  rw [IsAltered] at plain ⊢
  rw [toNat_ofNat_lowerCode]
  rw [Bool.or_eq_true, Bool.not_eq_true'] at checked
  exact Bool.eq_false_iff.1 (checked.resolve_right plain)

end Dialogue.Text
