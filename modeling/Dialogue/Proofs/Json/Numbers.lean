import Dialogue.Json.Reader
import Dialogue.Json.Writer
import Dialogue.Proofs.Effect

/-!
# Where written numbers end

A written number is a run of digits, a fraction and an exponent, where any of them may be left out.
Whatever number a reader makes of it, it takes the whole number and leaves what stands behind it.

Main statements: `isNumber_finite` and `isNumber_int`, what is written has this form, and
`rest_of_readScalar_number`, where the reader stops.
-/

namespace Dialogue.Json

open Effect

/-- What may stand behind a value: nothing, a comma, or a closing bracket or brace. -/
def Closes (rest : List Char) : Prop := ∀ c ∈ rest.head?, c = ',' ∨ c = ']' ∨ c = '\x7d'

/-- Digits and nothing else. -/
def AreDigits (cs : List Char) : Prop := ∀ c ∈ cs, c.isDigit = true

/-- A point and digits, or nothing. -/
inductive IsFraction : List Char → Prop
  | absent : IsFraction []
  | point {digits : List Char} (all : AreDigits digits) : IsFraction ('.' :: digits)

/-- A signed exponent, or nothing. -/
inductive IsExponent : List Char → Prop
  | absent : IsExponent []
  | signed {sign : Char} {digits : List Char} (isSign : sign = '+' ∨ sign = '-')
      (all : AreDigits digits) : IsExponent ('e' :: sign :: digits)

/-- Digits, a fraction and an exponent. -/
inductive IsUnsigned : List Char → Prop
  | intro {digits fraction exponent : List Char} (all : AreDigits digits)
      (isFraction : IsFraction fraction) (isExponent : IsExponent exponent) :
      IsUnsigned (digits ++ (fraction ++ exponent))

/-- A character that a number without a sign begins with. -/
def IsLead (c : Char) : Prop := c.isDigit = true ∨ c = '.' ∨ c = 'e'

theorem orMalformed_eq_ok_iff {α : Type} {part : Option (α × List Char)} {read : α × List Char} :
    orMalformed part = .ok read ↔ part = some read := by
  cases part with
  | none => simp [orMalformed, malformed]
  | some part => simp [orMalformed]

/-! ## Reading to the end -/

theorem spanDigits_append {digits rest : List Char} (all : AreDigits digits)
    (stop : ∀ c ∈ rest.head?, c.isDigit = false) :
    spanDigits (digits ++ rest) = (digits, rest) := by
  unfold spanDigits
  rw [List.takeWhile_append_of_pos all, List.dropWhile_append_of_pos all]
  cases rest with
  | nil => simp
  | cons c cs => simp [stop c rfl]

theorem isDigit_of_closes {rest : List Char} (closes : Closes rest) :
    ∀ c ∈ rest.head?, c.isDigit = false := by
  intro c hc
  rcases closes c hc with rfl | rfl | rfl <;> rfl

/-- Behind the digits of a number no digit follows. -/
theorem isDigit_of_head_tail {fraction exponent rest : List Char} (isFraction : IsFraction fraction)
    (isExponent : IsExponent exponent) (closes : Closes rest) :
    ∀ c ∈ (fraction ++ (exponent ++ rest)).head?, c.isDigit = false := by
  intro c hc
  cases isFraction with
  | point all =>
    cases hc
    rfl
  | absent =>
    cases isExponent with
    | signed isSign all =>
      cases hc
      rfl
    | absent => exact isDigit_of_closes closes c hc

theorem rest_of_readFraction {fraction rest rest' : List Char} {read : Option (List Char)}
    (isFraction : IsFraction fraction) (stop : ∀ c ∈ rest.head?, c.isDigit = false ∧ c ≠ '.')
    (done : readFraction (fraction ++ rest) = some (read, rest')) : rest' = rest := by
  cases isFraction with
  | absent =>
    rw [List.nil_append] at done
    unfold readFraction at done
    split at done
    · exact absurd rfl (stop '.' rfl).2
    · cases done
      rfl
  | point all =>
    rw [List.cons_append, readFraction, spanDigits_append all fun c hc => (stop c hc).1] at done
    split at done
    · simp at done
    · next h =>
      cases h
      cases done
      rfl

theorem rest_of_readExponentDigits {negative : Bool} {digits rest rest' : List Char}
    {read : Option Int} (all : AreDigits digits) (closes : Closes rest)
    (done : readExponentDigits negative (digits ++ rest) = some (read, rest')) : rest' = rest := by
  rw [readExponentDigits, spanDigits_append all (isDigit_of_closes closes)] at done
  split at done
  · simp at done
  · next h =>
    cases h
    cases done
    rfl

theorem rest_of_readExponent {exponent rest rest' : List Char} {read : Option Int}
    (isExponent : IsExponent exponent) (closes : Closes rest)
    (done : readExponent (exponent ++ rest) = some (read, rest')) : rest' = rest := by
  cases isExponent with
  | absent =>
    rw [List.nil_append] at done
    cases rest with
    | nil =>
      cases done
      rfl
    | cons c rest =>
      have letter : ¬(c = 'e' ∨ c = 'E') := by
        rcases closes c rfl with rfl | rfl | rfl <;> decide
      simp only [readExponent, if_neg letter] at done
      cases done
      rfl
  | signed isSign all =>
    rcases isSign with rfl | rfl
    · exact rest_of_readExponentDigits all closes done
    · exact rest_of_readExponentDigits all closes done

/-- A number without a sign is read to its end. -/
theorem rest_of_readUnsigned {limits : Limits} {negative : Bool} {cs rest rest' : List Char}
    {value : Json} (isUnsigned : IsUnsigned cs) (closes : Closes rest)
    (done : readUnsigned limits negative (cs ++ rest) = .ok (value, rest')) : rest' = rest := by
  obtain @⟨digits, fraction, exponent, all, isFraction, isExponent⟩ := isUnsigned
  rw [List.append_assoc, List.append_assoc, readUnsigned,
    spanDigits_append all (isDigit_of_head_tail isFraction isExponent closes)] at done
  have stop : ∀ c ∈ (exponent ++ rest).head?, c.isDigit = false ∧ c ≠ '.' := by
    intro c hc
    cases isExponent with
    | signed isSign all =>
      cases hc
      decide
    | absent => rcases closes c hc with rfl | rfl | rfl <;> decide
  dsimp only at done
  split at done
  · simp [malformed] at done
  · obtain ⟨⟨places, rest₁⟩, read, done⟩ := bind_eq_ok_iff.1 done
    obtain rfl := rest_of_readFraction isFraction stop (orMalformed_eq_ok_iff.1 read)
    obtain ⟨⟨power, rest₂⟩, read, done⟩ := bind_eq_ok_iff.1 done
    obtain rfl := rest_of_readExponent isExponent closes (orMalformed_eq_ok_iff.1 read)
    dsimp only at done
    split at done
    -- Which number is made of it depends on the sizes; what is left does not.
    · obtain ⟨_, stopped, _⟩ := bind_eq_ok_iff.1 done
      cases stopped
    · split at done
      · cases done
        rfl
      · cases done
        rfl

/-! ## What is written -/

theorem areDigits_append {cs ds : List Char} (hc : AreDigits cs) (hd : AreDigits ds) :
    AreDigits (cs ++ ds) := by
  intro c h
  exact (List.mem_append.1 h).elim (hc c) (hd c)

theorem areDigits_replicate (n : Nat) : AreDigits (List.replicate n '0') := by
  intro c h
  rw [List.eq_of_mem_replicate h]
  rfl

theorem areDigits_nat (n : Nat) : AreDigits (toString n).toList := by
  intro c h
  have mem : c ∈ Nat.toDigits 10 n := by simpa using h
  exact Nat.isDigit_of_mem_toDigits (by decide) (by decide) mem

theorem isExponent_exponentText (e : Int) : IsExponent (Binary64.exponentText e).toList := by
  unfold Binary64.exponentText
  rw [String.toList_append, String.toList_append]
  have zero : AreDigits (if e.natAbs < 10 then "0" else "").toList := by
    split
    · exact areDigits_replicate 1
    · simp [AreDigits]
  have all := areDigits_append zero (areDigits_nat e.natAbs)
  rw [List.append_assoc]
  split
  · exact .signed (.inr rfl) all
  · exact .signed (.inl rfl) all

/-- The digits of a fractional number are laid out as a number without a sign. -/
theorem isUnsigned_layout (style : Binary64.DecimalStyle) {digits : List Char}
    (all : AreDigits digits) (top : Int) :
    IsUnsigned (Binary64.layout style digits top).toList := by
  have take (n : Nat) : AreDigits (digits.take n) := fun c h => all c (List.mem_of_mem_take h)
  have drop (n : Nat) : AreDigits (digits.drop n) := fun c h => all c (List.mem_of_mem_drop h)
  unfold Binary64.layout
  dsimp only
  split
  · split
    · next k _ =>
      have shape : ("0." ++ String.ofList (List.replicate k '0' ++ digits)).toList =
          List.replicate 1 '0' ++ (('.' :: (List.replicate k '0' ++ digits)) ++ []) := by
        simp
      rw [shape]
      exact .intro (areDigits_replicate 1)
        (.point (areDigits_append (areDigits_replicate k) all)) .absent
    · next k _ =>
      split
      · have shape :
            (String.ofList (digits ++ List.replicate (k + 1 - digits.length) '0') ++ ".0").toList =
            (digits ++ List.replicate (k + 1 - digits.length) '0') ++
              (('.' :: List.replicate 1 '0') ++ []) := by
          simp
        rw [shape]
        exact .intro (areDigits_append all (areDigits_replicate _))
          (.point (areDigits_replicate 1)) .absent
      · have shape : (String.ofList (digits.take (k + 1)) ++ "." ++
            String.ofList (digits.drop (k + 1))).toList =
            digits.take (k + 1) ++ (('.' :: digits.drop (k + 1)) ++ []) := by
          simp
        rw [shape]
        exact .intro (take (k + 1)) (.point (drop (k + 1))) .absent
  · rw [String.toList_append, String.toList_append, String.toList_ofList, List.append_assoc]
    refine .intro (take 1) ?_ (isExponent_exponentText top)
    split
    · exact .absent
    · have shape : ("." ++ String.ofList (digits.drop 1)).toList = '.' :: digits.drop 1 := by simp
      rw [shape]
      exact .point (drop 1)

theorem layout_ne_nil (style : Binary64.DecimalStyle) (digits : List Char) (top : Int) :
    (Binary64.layout style digits top).toList ≠ [] := by
  unfold Binary64.layout
  dsimp only
  split
  · split
    · simp
    · split <;> simp
  · unfold Binary64.exponentText
    split <;> simp

/-- A number with or without a sign; it is not empty. -/
inductive IsNumber : List Char → Prop
  | plain {cs : List Char} (isUnsigned : IsUnsigned cs) (filled : cs ≠ []) : IsNumber cs
  | negative {cs : List Char} (isUnsigned : IsUnsigned cs) (filled : cs ≠ []) :
      IsNumber ('-' :: cs)

theorem isUnsigned_of_areDigits {cs : List Char} (all : AreDigits cs) : IsUnsigned cs := by
  simpa using IsUnsigned.intro all .absent .absent

theorem isNumber_int (i : Int) : IsNumber (toString i).toList := by
  have filled (n : Nat) : (toString n).toList ≠ [] := by simp
  cases i with
  | ofNat n => exact .plain (isUnsigned_of_areDigits (areDigits_nat n)) (filled n)
  | negSucc n =>
    have shape : (toString (Int.negSucc n)).toList = '-' :: (toString (n + 1)).toList := by
      show ("-" ++ toString (n + 1)).toList = _
      simp
    rw [shape]
    exact .negative (isUnsigned_of_areDigits (areDigits_nat (n + 1))) (filled (n + 1))

theorem areDigits_trimZeros {cs : List Char} (all : AreDigits cs) :
    AreDigits (Binary64.trimZeros cs).1 := by
  intro c h
  have mem := (List.dropWhile_sublist _).subset (List.mem_reverse.1 h)
  exact all c (List.mem_reverse.1 mem)

/-- A sign in front of a number without one. -/
theorem isNumber_sign {text : String} (isUnsigned : IsUnsigned text.toList)
    (filled : text.toList ≠ []) (negative : Bool) :
    IsNumber ((if negative then "-" else "") ++ text).toList := by
  cases negative with
  | false =>
    have shape : ((if false then "-" else "") ++ text).toList = text.toList := by simp
    rw [shape]
    exact .plain isUnsigned filled
  | true =>
    have shape : ((if true then "-" else "") ++ text).toList = '-' :: text.toList := by simp
    rw [shape]
    exact .negative isUnsigned filled

theorem isNumber_finite (negative : Bool) (mantissa : Nat) (exponent : Int) :
    IsNumber (Binary64.finite negative mantissa exponent).text.toList := by
  unfold Binary64.text
  dsimp only
  split
  · refine isNumber_sign ?_ (by simp) negative
    exact .intro (areDigits_replicate 1) (.point (areDigits_replicate 1)) .absent
  · have all : AreDigits (Nat.toDigits 10 (Binary64.shortest mantissa exponent).1) :=
      fun c h => Nat.isDigit_of_mem_toDigits (by decide) (by decide) h
    exact isNumber_sign (isUnsigned_layout _ (areDigits_trimZeros all) _)
      (layout_ne_nil _ _ _) negative

/-! ## Reading what is written -/

/-- A number without a sign begins with a digit, a point or an exponent. -/
theorem exists_lead {cs : List Char} (isUnsigned : IsUnsigned cs) (filled : cs ≠ []) :
    ∃ c rest, cs = c :: rest ∧ IsLead c := by
  obtain @⟨digits, fraction, exponent, all, isFraction, isExponent⟩ := isUnsigned
  cases digits with
  | cons c digits => exact ⟨c, _, rfl, .inl (all c List.mem_cons_self)⟩
  | nil =>
    cases isFraction with
    | point all => exact ⟨'.', _, rfl, .inr (.inl rfl)⟩
    | absent =>
      cases isExponent with
      | signed isSign all => exact ⟨'e', _, rfl, .inr (.inr rfl)⟩
      | absent => exact absurd rfl filled

theorem ne_of_isLead {c d : Char} (lead : IsLead c)
    (other : d.isDigit = false ∧ d ≠ '.' ∧ d ≠ 'e') : c ≠ d := by
  rintro rfl
  rcases lead with digit | point | power
  · rw [other.1] at digit
    simp at digit
  · exact other.2.1 point
  · exact other.2.2 power

theorem readScalar_lead (limits : Limits) {c : Char} (lead : IsLead c) (cs : List Char) :
    readScalar limits (c :: cs) = readUnsigned limits false (c :: cs) := by
  have quote : c ≠ '"' := ne_of_isLead lead (by decide)
  have null : c ≠ 'n' := ne_of_isLead lead (by decide)
  have true_ : c ≠ 't' := ne_of_isLead lead (by decide)
  have false_ : c ≠ 'f' := ne_of_isLead lead (by decide)
  have undefined : c ≠ 'N' := ne_of_isLead lead (by decide)
  have infinite : c ≠ 'I' := ne_of_isLead lead (by decide)
  have sign : c ≠ '-' := ne_of_isLead lead (by decide)
  simp [readScalar, quote, null, true_, false_, undefined, infinite, sign]

theorem readScalar_minus (limits : Limits) {c : Char} (lead : IsLead c) (cs : List Char) :
    readScalar limits ('-' :: c :: cs) = readUnsigned limits true (c :: cs) := by
  have letter : c ≠ 'I' := ne_of_isLead lead (by decide)
  simp [readScalar, letter]

/-- **A number is read to its end**, and no further. -/
theorem rest_of_readScalar_number {limits : Limits} {cs rest rest' : List Char} {value : Json}
    (isNumber : IsNumber cs) (closes : Closes rest)
    (done : readScalar limits (cs ++ rest) = .ok (value, rest')) : rest' = rest := by
  cases isNumber with
  | plain isUnsigned filled =>
    obtain ⟨c, tail, rfl, lead⟩ := exists_lead isUnsigned filled
    rw [List.cons_append, readScalar_lead limits lead] at done
    exact rest_of_readUnsigned isUnsigned closes done
  | negative isUnsigned filled =>
    obtain ⟨c, tail, rfl, lead⟩ := exists_lead isUnsigned filled
    rw [List.cons_append, List.cons_append, readScalar_minus limits lead] at done
    exact rest_of_readUnsigned isUnsigned closes done

end Dialogue.Json
