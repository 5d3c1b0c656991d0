import Dialogue.Text.Blank
import Dialogue.Text.Case
import Dialogue.Text.PlainTable

/-!
# Folding

Texts are folded to be compared without regard to case, accents, surrounding blanks and typographic
variants. Folding trims, lowers the case, replaces every character by its compatibility
decomposition and drops the combining marks, in this order: capitals and blanks that only the
decomposition brings to light stay. Because the marks go, their order in the decomposition is of no
account, and each lowered character folds on its own: `toList_fold`.
-/

namespace Dialogue.Text

/-- The plain form of a code point of the run. -/
def PlainRun.form? (run : PlainRun) (code : Nat) : Option (List Nat) :=
  if run.first ≤ code then run.forms[code - run.first]? else none

/-- The listed plain form of a code point. -/
def listedPlain? (code : Nat) : Option (List Nat) := plainRuns.findSome? (·.form? code)

/-- A Hangul syllable as its two or three letters. -/
def hangulLetters (code : Nat) : List Nat :=
  let index := code - 0xac00
  let letters := [0x1100 + index / 588, 0x1161 + index % 588 / 28]
  if index % 28 = 0 then letters else letters ++ [0x11a7 + index % 28]

/-- A combining mark. -/
def isMark (c : Char) : Bool := inRuns markRuns c.toNat

/-- The compatibility decomposition of a character without its combining marks. -/
def plainChar (c : Char) : List Char :=
  let code := c.toNat
  if code < 128 then [c]
  else if isMark c then []
  else if 0xac00 ≤ code ∧ code ≤ 0xd7a3 then (hangulLetters code).map Char.ofNat
  else match listedPlain? code with
    | some plain => plain.map Char.ofNat
    | none => [c]

/-- A text trimmed, in lower case, decomposed and without combining marks. -/
def fold (s : String) : String :=
  String.ofList ((lower (strip s)).toList.flatMap plainChar)

theorem toList_fold (s : String) :
    (fold s).toList = (lowerChars [] (trimChars isBlank s.toList)).flatMap plainChar := by
  simp [fold, lower]

end Dialogue.Text
