import Dialogue.Number.Binary64

/-!
# The shortest decimal that reads back

A finite number is written with the fewest digits that round back to it, and with the digits nearest
to it among those. The search asks, for one digit, two digits and so on, whether one of the two
neighbours of the number on that decimal grid lies in the interval of reals that round to it; the
ends of the interval belong to it when the mantissa is even.
-/

namespace Dialogue.Binary64

/-- `2 ^ k` and `10 ^ k` for integers `k`, as quotients. -/
def power (base : Nat) : Int → Nat × Nat
  | .ofNat k => (Nat.pow base k, 1)
  | .negSucc k => (1, Nat.pow base (k + 1))

/-- The floor of the decimal logarithm of `num / den`, searched downwards from `start`. -/
def log10From (num den : Nat) : Nat → Int → Int
  | 0, start => start
  | fuel + 1, start =>
    let (p, q) := power 10 start
    if p * den ≤ num * q then start else log10From num den fuel (start - 1)

/-- The digits and the exponent of the grid point of `places` digits that reads back, if any. -/
def gridPoint? (mantissa : Nat) (exponent : Int) (top : Int) (places : Nat) :
    Option (Nat × Int) :=
  let grid := top - places + 1
  let (p, q) := power 2 (exponent - 2)
  let (g, h) := power 10 grid
  -- in units of a quarter of the last bit: the number, its two ends, and a grid step
  let centre := 4 * mantissa
  let below := if mantissa = Nat.pow 2 52 ∧ -1074 < exponent then centre - 1 else centre - 2
  let above := centre + 2
  let unit := p * h
  let step := g * q
  let floor := centre * unit / step
  let reads (k : Nat) : Bool :=
    if mantissa % 2 = 0 then below * unit ≤ k * step ∧ k * step ≤ above * unit
    else below * unit < k * step ∧ k * step < above * unit
  let rest := centre * unit - floor * step
  let nearer := if 2 * rest < step ∨ (2 * rest = step ∧ floor % 2 = 0) then floor else floor + 1
  if reads floor && reads (floor + 1) then some (nearer, grid)
  else if reads floor then some (floor, grid)
  else if reads (floor + 1) then some (floor + 1, grid)
  else none

/-- The shortest decimal `digits * 10 ^ e` that rounds to a positive number. -/
def shortest (mantissa : Nat) (exponent : Int) : Nat × Int :=
  let (num, den) := match exponent with
    | .ofNat e => (mantissa * Nat.pow 2 e, 1)
    | .negSucc e => (mantissa, Nat.pow 2 (e + 1))
  let top := log10From num den 700 310
  ((List.range 17).findSome? fun k => gridPoint? mantissa exponent top (k + 1)).getD
    (0, 0)

/-- Digits without the zeros at their end, and how many were dropped. -/
def trimZeros : List Char → List Char × Nat
  | cs => (cs.reverse.dropWhile (· = '0') |>.reverse, (cs.reverse.takeWhile (· = '0')).length)

/-- Decimal exponents from here on are written in scientific notation, and those at most `lowest`.
-/
structure DecimalStyle where
  lowest : Int
  highest : Int

/-- Positional from `0.0001` to below `10 ^ 16`, scientific elsewhere. -/
def plainStyle : DecimalStyle := ⟨-4, 16⟩

/-- The exponent of scientific notation: a sign and at least two digits. -/
def exponentText (e : Int) : String :=
  (if e < 0 then "e-" else "e+") ++ (if e.natAbs < 10 then "0" else "") ++ toString e.natAbs

/-- A nonempty list of digits `d₁ d₂ …` read as `d₁.d₂… * 10 ^ top`, in the given style. -/
def layout (style : DecimalStyle) (digits : List Char) (top : Int) : String :=
  let count := digits.length
  if style.lowest ≤ top ∧ top < style.highest then
    match top with
    | .negSucc k => "0." ++ String.ofList (List.replicate k '0' ++ digits)
    | .ofNat k =>
      if count ≤ k + 1 then String.ofList (digits ++ List.replicate (k + 1 - count) '0') ++ ".0"
      else String.ofList (digits.take (k + 1)) ++ "." ++ String.ofList (digits.drop (k + 1))
  else
    String.ofList (digits.take 1) ++
      (if count = 1 then "" else "." ++ String.ofList (digits.drop 1)) ++ exponentText top

/-- The text of a number: the shortest decimal that reads back, with a point or an exponent. -/
def text : Binary64 → String
  | .nan => "nan"
  | .infinite negative => if negative then "-inf" else "inf"
  | .finite negative mantissa exponent =>
    let sign := if negative then "-" else ""
    if mantissa = 0 then sign ++ "0.0"
    else
      let (n, e) := shortest mantissa exponent
      let all := Nat.toDigits 10 n
      let (digits, dropped) := trimZeros all
      sign ++ layout plainStyle digits (e + dropped + digits.length - 1)

end Dialogue.Binary64
