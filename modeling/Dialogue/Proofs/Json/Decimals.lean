import Mathlib.Algebra.Group.Nat.Defs
import Dialogue.Proofs.Json.Numbers

/-!
# Written numbers are read

A written number follows the grammar that numbers are read by: digits with no zero in front of
others, then perhaps a point and digits, then perhaps an exponent. A fractional number is written
with few digits in front of the point, so a reader that takes as many takes every number that is
written; of integers, it takes those that are short enough.

Main statements: `exists_readScalar_int` and `exists_readScalar_finite`.
-/

namespace Dialogue

/-! ## The shortest decimal -/

namespace Binary64

theorem power_pos {base : Nat} (pos : 0 < base) (k : Int) :
    0 < (power base k).1 ∧ 0 < (power base k).2 := by
  cases k with
  | ofNat k => exact ⟨Nat.pow_pos pos, Nat.one_pos⟩
  | negSucc k => exact ⟨Nat.one_pos, Nat.pow_pos pos⟩

/-- Zero does not read back as a positive number. -/
theorem gridPoint?_pos {mantissa places n : Nat} {exponent top grid : Int} (pos : 0 < mantissa)
    (found : gridPoint? mantissa exponent top places = some (n, grid)) : 0 < n := by
  have twos := power_pos (show 0 < 2 by decide) (exponent - 2)
  have tens := power_pos (show 0 < 10 by decide) (top - places + 1)
  unfold gridPoint? at found
  extract_lets point centre below above at found
  generalize power 2 (exponent - 2) = two at found twos
  generalize power 10 point = ten at found tens
  obtain ⟨p, q⟩ := two
  obtain ⟨g, h⟩ := ten
  dsimp -zeta only at found
  extract_lets unit step floor reads rest nearer at found
  have positive : 0 < below * unit := by
    refine Nat.mul_pos ?_ (Nat.mul_pos twos.1 tens.2)
    show 0 < if mantissa = Nat.pow 2 52 ∧ -1074 < exponent then centre - 1 else centre - 2
    split <;> omega
  have zero : reads 0 = false := by
    show (if mantissa % 2 = 0 then decide (below * unit ≤ 0 * step ∧ 0 * step ≤ above * unit)
      else decide (below * unit < 0 * step ∧ 0 * step < above * unit)) = false
    split <;> rw [decide_eq_false_iff_not] <;> omega
  have filled : reads floor = true → 0 < floor := by
    intro reading
    refine Nat.pos_of_ne_zero fun none_ => ?_
    rw [none_, zero] at reading
    cases reading
  split at found
  · next both =>
    have floorPos := filled (Bool.and_eq_true_iff.1 both).1
    rw [← (Prod.mk.inj (Option.some.inj found)).1]
    show 0 < if 2 * rest < step ∨ (2 * rest = step ∧ floor % 2 = 0) then floor else floor + 1
    split <;> omega
  · split at found
    · next reading =>
      rw [← (Prod.mk.inj (Option.some.inj found)).1]
      exact filled reading
    · split at found
      · rw [← (Prod.mk.inj (Option.some.inj found)).1]
        exact Nat.succ_pos floor
      · cases found

/-- The shortest decimal of a positive number has a digit other than zero, if one is found. -/
theorem shortest_pos {mantissa : Nat} (pos : 0 < mantissa) (exponent : Int) :
    0 < (shortest mantissa exponent).1 ∨ shortest mantissa exponent = (0, 0) := by
  unfold shortest
  dsimp only
  generalize log10From _ _ 700 310 = top
  cases found : (List.range 17).findSome? fun k => gridPoint? mantissa exponent top (k + 1) with
  | none => exact .inr rfl
  | some point =>
    obtain ⟨k, -, reads⟩ := List.exists_of_findSome?_eq_some found
    exact .inl (gridPoint?_pos pos reads)

end Binary64

namespace Json

open Effect

/-! ## The grammar -/

/-- Digits in front of a number: there are some, and a zero stands alone. -/
structure IsFront (digits : List Char) : Prop where
  all : AreDigits digits
  filled : digits ≠ []
  lead : digits.head? = some '0' → digits.length = 1

/-- A number without a sign, with at most so many digits in front. -/
inductive IsDecimal (most : Nat) : List Char → Prop
  | intro {digits fraction exponent : List Char} (front : IsFront digits)
      (few : digits.length ≤ most) (isFraction : IsFraction fraction) (places : fraction ≠ ['.'])
      (isExponent : IsExponent exponent) (power : exponent.length ≠ 2) :
      IsDecimal most (digits ++ (fraction ++ exponent))

/-- The limits of a reader that takes texts only, and numbers with at most so many digits in front.
-/
structure Limits.Allows (limits : Limits) (most : Nat) : Prop where
  whole : limits.allowsHalves = false
  isTooLong : ∀ fractional digits, limits.isTooLong fractional digits = decide (most < digits)

theorem IsDecimal.isUnsigned {most : Nat} {cs : List Char} (isDecimal : IsDecimal most cs) :
    IsUnsigned cs := by
  obtain ⟨front, -, isFraction, -, isExponent, -⟩ := isDecimal
  exact .intro front.all isFraction isExponent

theorem IsDecimal.mono {most more : Nat} {cs : List Char} (isDecimal : IsDecimal most cs)
    (le : most ≤ more) : IsDecimal more cs := by
  obtain ⟨front, few, isFraction, places, isExponent, power⟩ := isDecimal
  exact .intro front (Nat.le_trans few le) isFraction places isExponent power

theorem IsDecimal.ne_nil {most : Nat} {cs : List Char} (isDecimal : IsDecimal most cs) :
    cs ≠ [] := by
  obtain ⟨front, -, -, -, -, -⟩ := isDecimal
  simp [front.filled]

theorem exists_readFraction {fraction rest : List Char} (isFraction : IsFraction fraction)
    (places : fraction ≠ ['.']) (stop : ∀ c ∈ rest.head?, c.isDigit = false ∧ c ≠ '.') :
    ∃ read, readFraction (fraction ++ rest) = some (read, rest) := by
  cases isFraction with
  | absent =>
    refine ⟨none, ?_⟩
    rw [List.nil_append]
    unfold readFraction
    split
    · exact absurd rfl (stop '.' rfl).2
    · rfl
  | @point digits all =>
    refine ⟨some digits, ?_⟩
    rw [List.cons_append, readFraction, spanDigits_append all fun c hc => (stop c hc).1]
    cases digits with
    | nil => exact absurd rfl places
    | cons c digits => rfl

theorem exists_readExponentDigits {digits rest : List Char} (all : AreDigits digits)
    (filled : digits ≠ []) (closes : Closes rest) (negative : Bool) :
    ∃ read, readExponentDigits negative (digits ++ rest) = some (read, rest) := by
  rw [readExponentDigits, spanDigits_append all (isDigit_of_closes closes)]
  cases digits with
  | nil => exact absurd rfl filled
  | cons c digits => exact ⟨_, rfl⟩

theorem exists_readExponent {exponent rest : List Char} (isExponent : IsExponent exponent)
    (power : exponent.length ≠ 2) (closes : Closes rest) :
    ∃ read, readExponent (exponent ++ rest) = some (read, rest) := by
  cases isExponent with
  | absent =>
    refine ⟨none, ?_⟩
    cases rest with
    | nil => rfl
    | cons c rest =>
      have letter : ¬(c = 'e' ∨ c = 'E') := by
        rcases closes c rfl with rfl | rfl | rfl <;> decide
      simp only [List.nil_append, readExponent, if_neg letter]
  | @signed sign digits isSign all =>
    have filled : digits ≠ [] := by
      rintro rfl
      exact power rfl
    rcases isSign with rfl | rfl
    · exact exists_readExponentDigits all filled closes false
    · exact exists_readExponentDigits all filled closes true

/-- **A number of the grammar is read** when it is short enough. -/
theorem exists_readUnsigned {limits : Limits} {most : Nat} (allows : limits.Allows most)
    (negative : Bool) {cs rest : List Char} (isDecimal : IsDecimal most cs)
    (closes : Closes rest) :
    ∃ value, readUnsigned limits negative (cs ++ rest) = .ok (value, rest) := by
  obtain @⟨digits, fraction, exponent, front, few, isFraction, places, isExponent, power⟩ :=
    isDecimal
  have stop : ∀ c ∈ (exponent ++ rest).head?, c.isDigit = false ∧ c ≠ '.' := by
    intro c hc
    cases isExponent with
    | signed isSign all =>
      cases hc
      decide
    | absent => rcases closes c hc with rfl | rfl | rfl <;> decide
  obtain ⟨places?, fractionRead⟩ := exists_readFraction isFraction places stop
  obtain ⟨power?, exponentRead⟩ := exists_readExponent isExponent power closes
  have grammar : ¬((digits.isEmpty = true) ∨ (digits.head? = some '0' ∧ digits.length ≠ 1)) := by
    rintro (empty | ⟨zero, more⟩)
    · exact front.filled (List.isEmpty_iff.1 empty)
    · exact more (front.lead zero)
  have short (fractional : Bool) : limits.isTooLong fractional digits.length = false := by
    rw [allows.isTooLong, decide_eq_false_iff_not]
    omega
  rw [List.append_assoc, List.append_assoc, readUnsigned,
    spanDigits_append front.all (isDigit_of_head_tail isFraction isExponent closes)]
  simp only [if_neg grammar, fractionRead, exponentRead, orMalformed, short, bind, Except.bind,
    Bool.false_eq_true, if_false]
  split
  · exact ⟨_, rfl⟩
  · exact ⟨_, rfl⟩

/-! ## What is written -/

/-- The number that digits write is bounded by their number. -/
theorem ofDigits_lt (digits : List Char) (all : AreDigits digits) :
    ofDigits digits < 10 ^ digits.length := by
  have step (digits : List Char) (all : AreDigits digits) (n : Nat) :
      digits.foldl (fun n c => 10 * n + (c.toNat - 48)) n < (n + 1) * 10 ^ digits.length := by
    induction digits generalizing n with
    | nil => simp
    | cons c digits ih =>
      have digit : c.toNat - 48 < 10 := by
        have value := all c List.mem_cons_self
        rw [Char.isDigit, Bool.and_eq_true, decide_eq_true_eq, decide_eq_true_eq] at value
        have upper : c.toNat ≤ 57 := value.2
        omega
      have rest := ih (fun d h => all d (List.mem_cons_of_mem _ h)) (10 * n + (c.toNat - 48))
      rw [List.foldl_cons, List.length_cons]
      calc _ < (10 * n + (c.toNat - 48) + 1) * 10 ^ digits.length := rest
        _ ≤ ((n + 1) * 10) * 10 ^ digits.length := Nat.mul_le_mul_right _ (by omega)
        _ = (n + 1) * 10 ^ (digits.length + 1) := by
          rw [Nat.pow_succ, Nat.mul_assoc, Nat.mul_comm 10]
  simpa [ofDigits] using step digits all 0

/-- The decimal digits of a number do not begin with a zero, unless it is zero. -/
theorem head?_toDigits {n : Nat} (pos : 0 < n) : (Nat.toDigits 10 n).head? ≠ some '0' := by
  induction n using Nat.strongRecOn with
  | _ n ih =>
    rw [Nat.toDigits_eq_if (by decide)]
    split
    · next small =>
      have digit : ∀ k < 10, 0 < k → Nat.digitChar k ≠ '0' := by decide
      simpa using digit n small pos
    · next large =>
      have tens : 0 < n / 10 := by omega
      obtain ⟨c, digits, shape⟩ := List.exists_cons_of_ne_nil
        (show Nat.toDigits 10 (n / 10) ≠ [] from Nat.toDigits_ne_nil)
      have first := ih (n / 10) (by omega) tens
      rw [shape] at first ⊢
      exact first

theorem isFront_toDigits (n : Nat) : IsFront (Nat.toDigits 10 n) where
  all c h := Nat.isDigit_of_mem_toDigits (by decide) (by decide) h
  filled := Nat.toDigits_ne_nil
  lead zero := by
    rcases Nat.eq_zero_or_pos n with rfl | pos
    · rfl
    · exact absurd zero (head?_toDigits pos)

theorem isFront_zero : IsFront ['0'] := isFront_toDigits 0

theorem isDecimal_of_isFront {most : Nat} {digits : List Char} (front : IsFront digits)
    (few : digits.length ≤ most) : IsDecimal most digits := by
  simpa using IsDecimal.intro front few .absent (by simp) .absent (by simp)

theorem length_exponentText (e : Int) : (Binary64.exponentText e).toList.length ≠ 2 := by
  have filled : 0 < (toString e.natAbs).toList.length := by
    simpa using Nat.length_toDigits_pos
  unfold Binary64.exponentText
  simp only [String.toList_append, List.length_append]
  have minus : "e-".toList.length = 2 := rfl
  have plus : "e+".toList.length = 2 := rfl
  split
  · rw [minus]
    omega
  · rw [plus]
    omega

/-- A front with digits behind a point. -/
theorem isDecimal_point {most : Nat} {front behind : List Char} (isFront : IsFront front)
    (few : front.length ≤ most) (all : AreDigits behind) (filled : behind ≠ []) :
    IsDecimal most (front ++ '.' :: behind) := by
  have pointed := IsDecimal.intro isFront few (.point all)
    (fun same => filled (List.cons.inj same).2) .absent (by decide)
  rwa [List.append_nil] at pointed

section

variable {c : Char} {tail : List Char}

theorem isFront_of_ne (first : c ≠ '0') (all : AreDigits (c :: tail)) : IsFront (c :: tail) :=
  ⟨all, List.cons_ne_nil _ _, fun zero => absurd (Option.some.inj zero) first⟩

theorem areDigits_take (all : AreDigits (c :: tail)) (n : Nat) : AreDigits (c :: tail.take n) := by
  intro d h
  rcases List.mem_cons.1 h with rfl | h
  · exact all _ List.mem_cons_self
  · exact all d (List.mem_cons_of_mem _ (List.mem_of_mem_take h))

theorem areDigits_drop (all : AreDigits (c :: tail)) (n : Nat) : AreDigits (tail.drop n) :=
  fun d h => all d (List.mem_cons_of_mem _ (List.mem_of_mem_drop h))

/-- One digit in front of the point, and an exponent. -/
theorem isDecimal_exponent (first : c ≠ '0') (all : AreDigits (c :: tail)) (top : Int) :
    IsDecimal 16 (String.ofList ((c :: tail).take 1) ++
      (if (c :: tail).length = 1 then "" else "." ++ String.ofList ((c :: tail).drop 1)) ++
        Binary64.exponentText top).toList := by
  have shape : ("." ++ String.ofList ((c :: tail).drop 1)).toList = '.' :: tail := by simp
  rw [String.toList_append, String.toList_append, String.toList_ofList, List.append_assoc]
  refine .intro (isFront_of_ne first (areDigits_take all 0)) (by simp) ?_ ?_
    (isExponent_exponentText top) (length_exponentText top)
  · split
    · exact .absent
    · rw [shape]
      exact .point (areDigits_drop all 0)
  · split
    · simp
    · next more =>
      rw [shape]
      rintro none_
      rw [(List.cons.inj none_).2] at more
      exact more rfl

/-- Digits that do not begin with a zero are laid out as a number of the grammar, with at most
sixteen of them in front of the point. -/
theorem isDecimal_layout {digits : List Char} (all : AreDigits digits) (filled : digits ≠ [])
    (lead : digits.head? ≠ some '0') (top : Int) :
    IsDecimal 16 (Binary64.layout Binary64.plainStyle digits top).toList := by
  obtain ⟨c, tail, rfl⟩ := List.exists_cons_of_ne_nil filled
  have first : c ≠ '0' := fun zero => lead (by rw [zero]; rfl)
  unfold Binary64.layout Binary64.plainStyle
  dsimp only
  split
  · next near =>
    split
    · next k =>
      have shape : ("0." ++ String.ofList (List.replicate k '0' ++ c :: tail)).toList =
          ['0'] ++ '.' :: (List.replicate k '0' ++ c :: tail) := by
        simp
      rw [shape]
      exact isDecimal_point isFront_zero (by decide)
        (areDigits_append (areDigits_replicate k) all) (by simp)
    · next k =>
      have places : k < 16 := by
        have below : (k : Int) < 16 := near.2
        omega
      split
      · next fits =>
        have shape : (String.ofList
            (c :: tail ++ List.replicate (k + 1 - (c :: tail).length) '0') ++ ".0").toList =
            (c :: (tail ++ List.replicate (k + 1 - (c :: tail).length) '0')) ++ '.' :: ['0'] := by
          simp
        rw [shape]
        refine isDecimal_point (isFront_of_ne first ?_) ?_ (areDigits_replicate 1) (by decide)
        · exact areDigits_append all (areDigits_replicate _)
        · simp only [List.length_cons, List.length_append, List.length_replicate] at fits ⊢
          omega
      · next long =>
        have shape : (String.ofList ((c :: tail).take (k + 1)) ++ "." ++
            String.ofList ((c :: tail).drop (k + 1))).toList =
            (c :: tail.take k) ++ '.' :: tail.drop k := by
          simp
        rw [shape]
        refine isDecimal_point (isFront_of_ne first (areDigits_take all k)) ?_
          (areDigits_drop all k) fun none_ => ?_
        · simp only [List.length_cons, List.length_take]
          omega
        · have empty := congrArg List.length none_
          simp only [List.length_cons, List.length_drop, List.length_nil] at long empty
          omega
  · exact isDecimal_exponent first all top

end

/-- Dropping the zeros at the end of digits leaves the first digit, when it is not zero. -/
theorem head?_trimZeros {digits : List Char} (filled : digits ≠ [])
    (lead : digits.head? ≠ some '0') :
    (Binary64.trimZeros digits).1 ≠ [] ∧ (Binary64.trimZeros digits).1.head? ≠ some '0' := by
  obtain ⟨c, tail, rfl⟩ := List.exists_cons_of_ne_nil filled
  have first : c ≠ '0' := fun zero => lead (by rw [zero]; rfl)
  have kept : (Binary64.trimZeros (c :: tail)).1 =
      c :: (tail.reverse.dropWhile (· = '0')).reverse := by
    unfold Binary64.trimZeros
    dsimp only
    rw [List.reverse_cons, List.dropWhile_append]
    split
    · next empty =>
      rw [List.isEmpty_iff.1 empty, List.dropWhile_cons, if_neg (by simpa using first)]
      rfl
    · rw [List.reverse_append]
      rfl
  rw [kept]
  exact ⟨List.cons_ne_nil _ _, fun zero => first (Option.some.inj zero)⟩

/-- A fractional number without its sign follows the grammar. -/
theorem isDecimal_shortest {mantissa : Nat} (pos : 0 < mantissa) (exponent : Int) :
    IsDecimal 16 (Binary64.layout Binary64.plainStyle
      (Binary64.trimZeros (Nat.toDigits 10 (Binary64.shortest mantissa exponent).1)).1
      ((Binary64.shortest mantissa exponent).2 +
        (Binary64.trimZeros (Nat.toDigits 10 (Binary64.shortest mantissa exponent).1)).2 +
        (Binary64.trimZeros (Nat.toDigits 10 (Binary64.shortest mantissa exponent).1)).1.length -
          1)).toList := by
  rcases Binary64.shortest_pos pos exponent with filled | zero
  · have all : AreDigits (Nat.toDigits 10 (Binary64.shortest mantissa exponent).1) :=
      fun c h => Nat.isDigit_of_mem_toDigits (by decide) (by decide) h
    obtain ⟨ne_nil, lead⟩ := head?_trimZeros Nat.toDigits_ne_nil (head?_toDigits filled)
    exact isDecimal_layout (areDigits_trimZeros all) ne_nil lead _
  · rw [zero]
    exact .intro isFront_zero (by decide) (.point (areDigits_replicate 1)) (by decide) .absent
      (by decide)

/-! ## Reading what is written -/

/-- A number of the grammar is read with a sign and without one. -/
theorem exists_readScalar {limits : Limits} {most : Nat} (allows : limits.Allows most)
    {cs rest : List Char} (isDecimal : IsDecimal most cs) (closes : Closes rest) :
    (∃ value, readScalar limits (cs ++ rest) = .ok (value, rest)) ∧
      ∃ value, readScalar limits ('-' :: cs ++ rest) = .ok (value, rest) := by
  obtain ⟨c, tail, rfl, lead⟩ := exists_lead isDecimal.isUnsigned isDecimal.ne_nil
  have plain := exists_readUnsigned allows false isDecimal closes
  have negative := exists_readUnsigned allows true isDecimal closes
  rw [List.cons_append] at plain negative
  rw [List.cons_append, List.cons_append, List.cons_append, readScalar_lead limits lead,
    readScalar_minus limits lead]
  exact ⟨plain, negative⟩

/-- **A written integer is read** when it is short enough. -/
theorem exists_readScalar_int {limits : Limits} {most : Nat} (allows : limits.Allows most)
    {i : Int} (short : (Nat.toDigits 10 i.natAbs).length ≤ most) {rest : List Char}
    (closes : Closes rest) :
    ∃ value, readScalar limits ((toString i).toList ++ rest) = .ok (value, rest) := by
  have decimal := isDecimal_of_isFront (isFront_toDigits i.natAbs) short
  cases i with
  | ofNat n =>
    have shape : (toString (Int.ofNat n)).toList = Nat.toDigits 10 n := by
      show (toString n).toList = _
      simp
    rw [shape]
    exact (exists_readScalar allows decimal closes).1
  | negSucc n =>
    have shape : (toString (Int.negSucc n)).toList = '-' :: Nat.toDigits 10 (n + 1) := by
      show ("-" ++ toString (n + 1)).toList = _
      simp
    rw [shape]
    exact (exists_readScalar allows decimal closes).2

/-- **A written fractional number is read** by a reader that takes sixteen digits. -/
theorem exists_readScalar_finite {limits : Limits} {most : Nat} (allows : limits.Allows most)
    (sixteen : 16 ≤ most) (negative : Bool) (mantissa : Nat) (exponent : Int) {rest : List Char}
    (closes : Closes rest) :
    ∃ value, readScalar limits ((Binary64.finite negative mantissa exponent).text.toList ++ rest) =
      .ok (value, rest) := by
  have signed {text : String} (isDecimal : IsDecimal 16 text.toList) :
      ∃ value, readScalar limits (((if negative then "-" else "") ++ text).toList ++ rest) =
        .ok (value, rest) := by
    have both := exists_readScalar allows (isDecimal.mono sixteen) closes
    cases negative with
    | false => simpa using both.1
    | true => simpa using both.2
  unfold Binary64.text
  dsimp only
  split
  · exact signed (.intro isFront_zero (by decide) (.point (areDigits_replicate 1)) (by decide)
      .absent (by decide))
  · next filled => exact signed (isDecimal_shortest (Nat.pos_of_ne_zero filled) exponent)

end Json

end Dialogue
