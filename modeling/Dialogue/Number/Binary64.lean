/-!
# Binary floating point numbers

Numbers with 53 significant bits, kept exactly: a finite number is `± mantissa * 2 ^ exponent` with
a mantissa below `2 ^ 53` and an exponent from -1074 to 971. Arithmetic computes the exact result
and rounds it once, to the nearest number and to the even mantissa when two are equally near.

Main statement: `ofRatio_zero`; all else follows the definition of `ofRatio`.
-/

namespace Dialogue

/-- A floating point number with 53 significant bits. -/
inductive Binary64 where
  | nan
  | infinite (negative : Bool)
  | finite (negative : Bool) (mantissa : Nat) (exponent : Int)
  deriving DecidableEq

namespace Binary64

/-- `num / den` to the nearest integer, a half to the even neighbour. -/
def roundHalfEven (num den : Nat) : Nat :=
  let q := num / den
  let twice := 2 * (num % den)
  if twice < den then q
  else if den < twice then q + 1
  else if q % 2 = 0 then q else q + 1

/-- `num / den / 2 ^ e` as a quotient of natural numbers. -/
def scaled (num den : Nat) : Int → Nat × Nat
  | .ofNat e => (num, den * Nat.pow 2 e)
  | .negSucc e => (num * Nat.pow 2 (e + 1), den)

/-- The number nearest to `± num / den`, for a nonzero `den`. -/
def ofRatio (negative : Bool) (num den : Nat) : Binary64 :=
  if num = 0 then .finite negative 0 (-1074)
  else
    let guess : Int := max (-1074) ((num.log2 : Int) - (den.log2 : Int) - 53)
    let trial := scaled num den guess
    let steps : Nat := if trial.1 / trial.2 < Nat.pow 2 53 then 0 else
      if trial.1 / trial.2 < Nat.pow 2 54 then 1 else 2
    let exponent := guess + steps
    let final := scaled num den exponent
    let mantissa := roundHalfEven final.1 final.2
    let (mantissa, exponent) :=
      if mantissa = Nat.pow 2 53 then (Nat.pow 2 52, exponent + 1) else (mantissa, exponent)
    if 971 < exponent then .infinite negative else .finite negative mantissa exponent

/-- The number nearest to `± digits * 10 ^ e`; far exponents are settled without large powers. -/
def ofDecimal (negative : Bool) (digits : Nat) (e : Int) : Binary64 :=
  if digits = 0 then .finite negative 0 (-1074)
  else
    let magnitude := (Nat.toDigits 10 digits).length + e
    if 400 < magnitude then .infinite negative
    else if magnitude < -400 then .finite negative 0 (-1074)
    else match e with
      | .ofNat k => ofRatio negative (digits * Nat.pow 10 k) 1
      | .negSucc k => ofRatio negative digits (Nat.pow 10 (k + 1))

/-- The number nearest to an integer. -/
def ofInt (i : Int) : Binary64 := ofRatio (i < 0) i.natAbs 1

/-- A finite number as a signed numerator over a positive denominator. -/
def toRatio? : Binary64 → Option (Int × Nat)
  | .finite negative mantissa exponent =>
    let sign : Int := if negative then -1 else 1
    match exponent with
    | .ofNat e => some (sign * (mantissa * Nat.pow 2 e : Nat), 1)
    | .negSucc e => some (sign * mantissa, Nat.pow 2 (e + 1))
  | _ => none

/-- The number nearest to a signed quotient. -/
def ofSigned (num : Int) (den : Nat) : Binary64 := ofRatio (num < 0) num.natAbs den

/-- The rounded sum of two finite numbers. -/
def add (x y : Binary64) : Binary64 :=
  match x.toRatio?, y.toRatio? with
  | some (a, b), some (c, d) => ofSigned (a * d + c * b) (b * d)
  | _, _ => .nan

/-- The rounded product of two finite numbers. -/
def mul (x y : Binary64) : Binary64 :=
  match x.toRatio?, y.toRatio? with
  | some (a, b), some (c, d) => ofSigned (a * c) (b * d)
  | _, _ => .nan

/-- Comparison of two finite numbers by value. -/
def le (x y : Binary64) : Bool :=
  match x.toRatio?, y.toRatio? with
  | some (a, b), some (c, d) => a * d ≤ c * b
  | _, _ => false

/-- The number is not zero; what is no number counts as not zero. -/
def isNonzero : Binary64 → Bool
  | .finite _ mantissa _ => mantissa ≠ 0
  | _ => true

theorem ofRatio_zero (negative : Bool) (den : Nat) :
    ofRatio negative 0 den = .finite negative 0 (-1074) := by
  simp [ofRatio]

end Binary64

end Dialogue
