import Dialogue.Regex.Syntax
import Dialogue.Text.Blank
import Dialogue.Text.Case
import Dialogue.Text.Class

/-!
# Tests of single characters

What it means that a character passes the test of a leaf. Where case is ignored, a character stands
for its lower case form and for the few others that are the same letter. A test in which nothing has
a case is the same with and without that option, so `Mode.suited` drops it there, and a leaf that
ignores case is one in which case plays a part.
-/

namespace Dialogue.Regex

open Dialogue.Text

/-! ## Case -/

/-- The code points that ignoring case identifies beyond a common lower case form. -/
def caseKin : List (List Nat) := [
  [0x69, 0x131], [0x73, 0x17f], [0xb5, 0x3bc], [0x345, 0x3b9, 0x1fbe], [0x390, 0x1fd3],
  [0x3b0, 0x1fe3], [0x3b2, 0x3d0], [0x3b5, 0x3f5], [0x3b8, 0x3d1], [0x3ba, 0x3f0],
  [0x3c0, 0x3d6], [0x3c1, 0x3f1], [0x3c2, 0x3c3], [0x3c6, 0x3d5], [0x432, 0x1c80],
  [0x434, 0x1c81], [0x43e, 0x1c82], [0x441, 0x1c83], [0x442, 0x1c84, 0x1c85], [0x44a, 0x1c86],
  [0x463, 0x1c87], [0x1c88, 0xa64b], [0x1e61, 0x1e9b], [0xfb05, 0xfb06]]

/-- The code point together with its kin. -/
def kinOf (code : Nat) : List Nat := (caseKin.find? (·.contains code)).getD [code]

namespace Mode

/-- The lower case form in a mode. -/
def lower (mode : Mode) (code : Nat) : Nat :=
  if mode.ascii then (if 65 ≤ code ∧ code ≤ 90 then code + 32 else code) else lowerCode code

/-- Whether case matters for a code point in a mode. -/
def isCased (mode : Mode) (code : Nat) : Bool :=
  if mode.ascii then (65 ≤ code && code ≤ 90) || (97 ≤ code && code ≤ 122) else isCasedCode code

/-- The code points that have the lower case form `code` or one of its kin. -/
def sources (mode : Mode) (code : Nat) : List Nat :=
  if mode.ascii then
    (if 65 ≤ code ∧ code ≤ 90 then [] else [code]) ++
      (if 97 ≤ code ∧ code ≤ 122 then [code - 32] else [])
  else (kinOf code).flatMap codesLoweredTo

end Mode

/-- Membership in a character class. -/
def Category.holds (ascii : Bool) : Category → Char → Bool
  | .digit, c => if ascii then c.isDigit else isDecimal c
  | .blank, c => if ascii then c = ' ' || (9 ≤ c.toNat && c.toNat ≤ 13) else isBlank c
  | .word, c => if ascii then c.isAlphanum || c = '_' else isWord c

/-! ## Code points and ranges -/

/-- Whether a code point equals a written one. -/
def sameCode (mode : Mode) (written code : Nat) : Bool :=
  if mode.ignoreCase && mode.isCased written then
    if mode.ascii then mode.lower code = mode.lower written
    else (kinOf (mode.lower written)).contains (mode.lower code)
  else code = written

/-- Whether a code point lies in a written range. Ignoring case, the range stands for all its
members up to `0xffff` in every case, and beyond for itself and the capitals it holds. -/
def inSpan (mode : Mode) (low high code : Nat) : Bool :=
  if mode.ignoreCase then
    let lowered := mode.lower code
    ((mode.sources lowered).any fun source =>
      low ≤ source && source ≤ high && source < 0x10000) ||
    (0x10000 ≤ high && ((low ≤ lowered && lowered ≤ high) ||
      (low ≤ upperCode lowered && upperCode lowered ≤ high)))
  else low ≤ code && code ≤ high

namespace SetItem

/-- Whether a character belongs to one item of a set. -/
def holds (mode : Mode) (c : Char) : SetItem → Bool
  | .one written =>
    if mode.ignoreCase && 0x10000 ≤ written then mode.lower c.toNat = written
    else sameCode mode written c.toNat
  | .span low high => inSpan mode low high c.toNat
  | .category kind negated => kind.holds mode.ascii c != negated

/-- Whether case matters for an item. Beyond `0xffff` it is taken to matter always. -/
def isCased (mode : Mode) : SetItem → Bool
  | .one code => 0x10000 ≤ code || mode.isCased code
  | .span low high => 0x10000 ≤ high || (List.range' low (high + 1 - low)).any mode.isCased
  | .category _ _ => false

end SetItem

/-! ## Tests -/

namespace CharTest

/-- Whether a character passes a test. -/
def holds (mode : Mode) (c : Char) : CharTest → Bool
  | .code written negated => sameCode mode written c.toNat != negated
  | .any => true
  | .anyButNewline => c ≠ '\n'
  | .set items negated => items.any (·.holds mode c) != negated

/-- Whether the character at a place passes a test. Behind the last character none does. -/
def holdsAt (text : Array Char) (test : CharTest) (mode : Mode) (place : Nat) : Bool :=
  match text[place]? with
  | some c => test.holds mode c
  | none => false

/-- Whether case matters for a test. -/
def isCased (mode : Mode) : CharTest → Bool
  | .code written _ => mode.isCased written
  | .any | .anyButNewline => false
  | .set items _ => items.any (·.isCased mode)

/-- A set of members, or a single character where it has no other. -/
def ofItems (items : List SetItem) (negated : Bool) : CharTest :=
  match items.eraseDups with
  | [.one written] => .code written negated
  | items => .set items negated

/-- How many characters from a place on pass a test, up to a limit. -/
def countAt (text : Array Char) (test : CharTest) (mode : Mode) : Nat → Nat → Nat
  | 0, _ => 0
  | limit + 1, place =>
    if test.holdsAt text mode place then test.countAt text mode limit (place + 1) + 1 else 0

theorem countAt_le (text : Array Char) (test : CharTest) (mode : Mode) (limit place : Nat) :
    test.countAt text mode limit place ≤ limit := by
  induction limit generalizing place with
  | zero => exact Nat.le_refl 0
  | succ limit ih =>
    rw [countAt]
    split
    · exact Nat.succ_le_succ (ih (place + 1))
    · exact Nat.zero_le _

end CharTest

/-- The mode for a test: without regard for case where no case plays a part. -/
def Mode.suited (mode : Mode) (test : CharTest) : Mode :=
  { mode with ignoreCase := mode.ignoreCase && test.isCased mode }

/-- A leaf that tests one character, in the mode that suits the test. -/
def Node.leaf (test : CharTest) (mode : Mode) : Node := .char test (mode.suited test)

/-- A code point without case is the same in every mode. -/
theorem sameCode_suited (mode : Mode) (written code : Nat) (negated : Bool) :
    sameCode (mode.suited (.code written negated)) written code = sameCode mode written code := by
  have cased : (mode.suited (.code written negated)).isCased written = mode.isCased written := rfl
  have lower : (mode.suited (.code written negated)).lower = mode.lower := rfl
  have ascii : (mode.suited (.code written negated)).ascii = mode.ascii := rfl
  rw [sameCode, sameCode, cased, lower, ascii]
  cases h : mode.isCased written <;> simp [Mode.suited, CharTest.isCased, h]

end Dialogue.Regex
