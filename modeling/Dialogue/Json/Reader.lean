import Dialogue.Json.Value

/-!
# Except Trouble (JSON × List Char) text

A reader takes characters from the front of a text and returns what is left. Texts follow the usual
grammar; the words `NaN`, `Infinity` and `-Infinity` stand for numbers too. Of two fields with one
name the later value counts, in the earlier place. How deep values may be nested and how long
numbers may be is up to the caller; the number of characters bounds the recursion, since every call
takes at least one.

Main statement: `read_eq_ok_iff`, a whole text is a value with nothing but gaps behind it.
-/

namespace Dialogue.Json

/-! ## Limits -/

/-- What a caller allows beyond the grammar. -/
structure Limits where
  /-- Lists and objects that are not empty may be nested this deep. -/
  depth : Nat
  /-- Whether a number is too long, by its having a fraction or an exponent, and the digits in front
  of them. -/
  isTooLong : Bool → Nat → Bool := fun _ _ => false
  /-- A string may hold half a surrogate pair. It is no text then, and is read as a list of null. -/
  allowsHalves : Bool := false

/-- Why a text cannot be read. -/
inductive Trouble where
  | malformed
  | tooDeep (inList : Bool)
  | tooLong (digits : Nat)
  deriving DecidableEq

/-- Gives up on a text that does not follow the grammar. -/
def malformed {α : Type} : Except Trouble (α × List Char) := .error .malformed

/-- A part that is there, or else a text that does not follow the grammar. -/
def orMalformed {α : Type} : Option (α × List Char) → Except Trouble (α × List Char)
  | some part => .ok part
  | none => malformed

/-! ## Parts -/

/-- Blank, tab, line feed or carriage return. -/
def isGap (c : Char) : Bool := c = ' ' || c = '\t' || c = '\n' || c = '\r'

/-- The value of a hexadecimal digit in either case. -/
def hexDigit? (c : Char) : Option Nat :=
  if '0' ≤ c ∧ c ≤ '9' then some (c.toNat - 48)
  else if 'a' ≤ c ∧ c ≤ 'f' then some (c.toNat - 87)
  else if 'A' ≤ c ∧ c ≤ 'F' then some (c.toNat - 55)
  else none

/-- The value of four hexadecimal digits. -/
def hexUnit? (a b c d : Char) : Option Nat := do
  some (((← hexDigit? a) * 16 + (← hexDigit? b)) * 256 + (← hexDigit? c) * 16 + (← hexDigit? d))

/-- The character of a single-letter escape. -/
def escaped? (c : Char) : Option Char :=
  if c = '"' ∨ c = '\\' ∨ c = '/' then some c
  else if c = 'n' then some '\n'
  else if c = 't' then some '\t'
  else if c = 'r' then some '\r'
  else if c = 'b' then some '\x08'
  else if c = 'f' then some '\x0c'
  else none

/-- Reads the code points and surrogates of a string behind its opening quote, to the closing quote.
-/
def readCodes : List Char → Option (List Nat × List Char)
  | '"' :: rest => some ([], rest)
  | '\\' :: 'u' :: a :: b :: c :: d :: rest => do
    let unit ← hexUnit? a b c d
    let (codes, rest) ← readCodes rest
    some (unit :: codes, rest)
  | '\\' :: c :: rest => do
    let e ← escaped? c
    let (codes, rest) ← readCodes rest
    some (e.toNat :: codes, rest)
  | c :: rest =>
    if c.toNat < 32 ∨ c = '\\' then none
    else do
      let (codes, rest) ← readCodes rest
      some (c.toNat :: codes, rest)
  | [] => none

/-- The character of a code point; a surrogate has none. -/
def charOf? (code : Nat) : Option Char :=
  if 0xd800 ≤ code ∧ code ≤ 0xdfff then none else some (Char.ofNat code)

/-- Joins surrogates in pairs. Half a pair is no character. -/
def joinPairs : List Nat → List (Option Char)
  | [] => []
  | [code] => [charOf? code]
  | high :: low :: rest =>
    if 0xd800 ≤ high ∧ high ≤ 0xdbff ∧ 0xdc00 ≤ low ∧ low ≤ 0xdfff then
      some (Char.ofNat (0x10000 + (high - 0xd800) * 0x400 + (low - 0xdc00))) :: joinPairs rest
    else charOf? high :: joinPairs (low :: rest)

/-- Reads the characters of a string behind its opening quote. -/
def readString (cs : List Char) : Except Trouble (List (Option Char) × List Char) :=
  orMalformed ((readCodes cs).map fun (codes, rest) => (joinPairs codes, rest))

/-- The text of a string, when all its parts are characters. -/
def wholeText? (cs : List (Option Char)) : Option String := (cs.mapM id).map String.ofList

/-- Reads a string as a value. -/
def readText (limits : Limits) (cs : List Char) : Except Trouble (Json × List Char) := do
  let (s, rest) ← readString cs
  match wholeText? s with
  | some text => return (.str text, rest)
  | none => if limits.allowsHalves then return (.arr [.null], rest) else malformed

/-- Reads a string as a name. A mark stands in it for half a surrogate pair. -/
def readName (limits : Limits) (cs : List Char) : Except Trouble (String × List Char) := do
  let (s, rest) ← readString cs
  match wholeText? s with
  | some text => return (text, rest)
  | none =>
    if limits.allowsHalves then return (String.ofList (s.map (·.getD '\ufffd')), rest)
    else malformed

/-- The number written by decimal digits. -/
def ofDigits (cs : List Char) : Nat := cs.foldl (fun n c => 10 * n + (c.toNat - 48)) 0

/-- The digits at the front, and the rest. -/
def spanDigits (cs : List Char) : List Char × List Char :=
  (cs.takeWhile Char.isDigit, cs.dropWhile Char.isDigit)

/-- Reads the fraction digits behind a point, if there is a point. -/
def readFraction : List Char → Option (Option (List Char) × List Char)
  | '.' :: rest =>
    match spanDigits rest with
    | ([], _) => none
    | (digits, rest) => some (some digits, rest)
  | rest => some (none, rest)

/-- Reads the digits of an exponent behind its sign. -/
def readExponentDigits (negative : Bool) (cs : List Char) : Option (Option Int × List Char) :=
  match spanDigits cs with
  | ([], _) => none
  | (digits, rest) =>
    let e : Int := ofDigits digits
    some (some (if negative then -e else e), rest)

/-- Reads an exponent, if there is one. -/
def readExponent : List Char → Option (Option Int × List Char)
  | c :: rest =>
    if c = 'e' ∨ c = 'E' then
      match rest with
      | '-' :: rest => readExponentDigits true rest
      | '+' :: rest => readExponentDigits false rest
      | rest => readExponentDigits false rest
    else some (none, c :: rest)
  | [] => some (none, [])

/-- Reads a number behind its sign: an integer, or a fractional number rounded once. -/
def readUnsigned (limits : Limits) (negative : Bool) (cs : List Char) :
    Except Trouble (Json × List Char) := do
  let (digits, rest) := spanDigits cs
  if digits.isEmpty ∨ (digits.head? = some '0' ∧ digits.length ≠ 1) then malformed
  else
    let (fraction, rest) ← orMalformed (readFraction rest)
    let (exponent, rest) ← orMalformed (readExponent rest)
    let fractional := fraction.isSome || exponent.isSome
    if limits.isTooLong fractional digits.length then throw (.tooLong digits.length)
    if fractional then
      let places := fraction.getD []
      return (.float (.ofDecimal negative (ofDigits (digits ++ places))
        (exponent.getD 0 - places.length)), rest)
    else
      let n : Int := ofDigits digits
      return (.int (if negative then -n else n), rest)

/-- Drops a word from the front and gives a value for it. -/
def word (text : String) (value : Json) (cs : List Char) : Except Trouble (Json × List Char) :=
  if text.toList.isPrefixOf cs then .ok (value, cs.drop text.length) else malformed

/-- Reads a value that is neither a list nor an object. -/
def readScalar (limits : Limits) : List Char → Except Trouble (Json × List Char)
  | '"' :: rest => readText limits rest
  | 'n' :: rest => word "ull" .null rest
  | 't' :: rest => word "rue" (.bool true) rest
  | 'f' :: rest => word "alse" (.bool false) rest
  | 'N' :: rest => word "aN" (.float .nan) rest
  | 'I' :: rest => word "nfinity" (.float (.infinite false)) rest
  | '-' :: 'I' :: rest => word "nfinity" (.float (.infinite true)) rest
  | '-' :: rest => readUnsigned limits true rest
  | cs => readUnsigned limits false cs

/-! ## Values -/

mutual

/-- Reads a value behind any gaps; `depth` bounds the nesting. -/
def readValue (limits : Limits) : Nat → Nat → List Char → Except Trouble (Json × List Char)
  | 0, _, _ => malformed
  | fuel + 1, depth, cs =>
    match cs.dropWhile isGap with
    | '[' :: rest =>
      match depth, rest.dropWhile isGap with
      | _, ']' :: rest => .ok (.arr [], rest)
      | 0, _ => .error (.tooDeep true)
      | depth + 1, rest => do
        let (items, rest) ← readItems limits fuel depth rest
        return (.arr items, rest)
    | '\x7b' :: rest =>
      match depth, rest.dropWhile isGap with
      | _, '\x7d' :: rest => .ok (.obj [], rest)
      | 0, _ => .error (.tooDeep false)
      | depth + 1, rest => do
        let (fields, rest) ← readFields limits fuel depth [] rest
        return (.obj fields, rest)
    | rest => readScalar limits rest

/-- Reads the items of a list to its closing bracket. -/
def readItems (limits : Limits) :
    Nat → Nat → List Char → Except Trouble (List Json × List Char)
  | 0, _, _ => malformed
  | fuel + 1, depth, cs => do
    let (item, rest) ← readValue limits fuel depth cs
    match rest.dropWhile isGap with
    | ',' :: rest => do
      let (items, rest) ← readItems limits fuel depth rest
      return (item :: items, rest)
    | ']' :: rest => return ([item], rest)
    | _ => malformed

/-- Reads the fields of an object to its closing brace, behind the fields `known`. -/
def readFields (limits : Limits) :
    Nat → Nat → Fields → List Char → Except Trouble (Fields × List Char)
  | 0, _, _, _ => malformed
  | fuel + 1, depth, known, cs =>
    match cs.dropWhile isGap with
    | '"' :: rest => do
      let (name, rest) ← readName limits rest
      match rest.dropWhile isGap with
      | ':' :: rest => do
        let (value, rest) ← readValue limits fuel depth rest
        let known := known.set name value
        match rest.dropWhile isGap with
        | ',' :: rest => readFields limits fuel depth known rest
        | '\x7d' :: rest => return (known, rest)
        | _ => malformed
      | _ => malformed
    | _ => malformed

end

/-- The value that a whole text writes. -/
def read (limits : Limits) (s : String) : Except Trouble Json :=
  match readValue limits (s.length + 1) limits.depth s.toList with
  | .ok (value, rest) => if rest.all isGap then .ok value else .error .malformed
  | .error trouble => .error trouble

/-- The value that a whole text writes, if it can be read. -/
def parse? (limits : Limits) (s : String) : Option Json := (read limits s).toOption

/-- A whole text is a value with nothing but gaps behind it. -/
theorem read_eq_ok_iff (limits : Limits) (s : String) (value : Json) :
    read limits s = .ok value ↔
      ∃ rest, readValue limits (s.length + 1) limits.depth s.toList = .ok (value, rest) ∧
        rest.all isGap = true := by
  unfold read
  split
  · next found rest h =>
    rw [h]
    constructor
    · intro good
      split at good
      · next gaps => cases good; exact ⟨rest, rfl, gaps⟩
      · simp at good
    · rintro ⟨_, good, gaps⟩
      cases good
      rw [if_pos gaps]
  · next trouble h => simp [h]

end Dialogue.Json
