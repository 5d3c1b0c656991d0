import Dialogue.Text.NameTable

/-!
# Characters by name

A character can be found by its name. A Hangul syllable is named for its letters, an ideograph for
its code point, and the members of some other series for their code points or their numbers; these
names are computed, and all others are in tables. The names of syllables and of unified ideographs
are written in capitals, and all other names in any case.
-/

namespace Dialogue.Text

/-! ## Computed names -/

/-- The value of a hexadecimal digit in either case. -/
def hexDigit? (c : Char) : Option Nat :=
  if c.isDigit then some (c.toNat - 48)
  else if 'A' ≤ c ∧ c ≤ 'F' then some (c.toNat - 55)
  else if 'a' ≤ c ∧ c ≤ 'f' then some (c.toNat - 87)
  else none

/-- The number that hexadecimal digits write. -/
def hexNumber? (digits : List Char) : Option Nat :=
  digits.foldl (fun n c => do return 16 * (← n) + (← hexDigit? c)) (some 0)

/-- The text behind the beginning of a name, when the name begins so. -/
def behind? (beginning name : String) : Option (List Char) :=
  if beginning.toList.isPrefixOf name.toList then some (name.toList.drop beginning.length) else none

/-- A number lies in one of several stretches. -/
def isInside (stretches : List (Nat × Nat)) (n : Nat) : Bool :=
  stretches.any fun (first, last) => first ≤ n && n ≤ last

/-- Unified ideographs. -/
def ideographs : List (Nat × Nat) := [
  (0x3400, 0x4dbf), (0x4e00, 0x9fff), (0x20000, 0x2a6df), (0x2a700, 0x2b738), (0x2b740, 0x2b81d),
  (0x2b820, 0x2cea1), (0x2ceb0, 0x2ebe0), (0x30000, 0x3134a)]

/-- The unified ideograph of a name, which ends in four or five capital digits. -/
def ideograph? (name : String) : Option Nat := do
  let digits ← behind? "CJK UNIFIED IDEOGRAPH-" name
  let code ← hexNumber? digits
  if (digits.length = 4 || digits.length = 5) && !digits.any Char.isLower &&
      isInside ideographs code
    then some code else none

/-- The names of the first letters of syllables. -/
def leadNames : List String := [
  "G", "GG", "N", "D", "DD", "R", "M", "B", "BB", "S", "SS", "", "J", "JJ", "C", "K", "T", "P", "H"]

/-- The names of the vowels of syllables. -/
def vowelNames : List String := [
  "A", "AE", "YA", "YAE", "EO", "E", "YEO", "YE", "O", "WA", "WAE", "OE", "YO", "U", "WEO", "WE",
  "WI", "YU", "EU", "YI", "I"]

/-- The names of the last letters of syllables. -/
def tailNames : List String := [
  "", "G", "GG", "GS", "N", "NJ", "NH", "D", "L", "LG", "LM", "LB", "LS", "LT", "LP", "LH", "M",
  "B", "BS", "S", "SS", "NG", "J", "C", "K", "T", "P", "H"]

/-- The letters of all syllables, in order. -/
def syllableNames : List String :=
  leadNames.flatMap fun lead => vowelNames.flatMap fun vowel => tailNames.map fun tail =>
    lead ++ vowel ++ tail

/-- The Hangul syllable of a name. -/
def syllable? (name : String) : Option Nat := do
  let letters ← behind? "HANGUL SYLLABLE " name
  let place ← syllableNames.idxOf? (String.ofList letters)
  some (0xac00 + place)

/-- Series whose members are named for their code points. -/
def series : List (String × List (Nat × Nat)) := [
  ("CJK COMPATIBILITY IDEOGRAPH-", [(0xf900, 0xfa6d), (0xfa70, 0xfad9), (0x2f800, 0x2fa1d)]),
  ("KHITAN SMALL SCRIPT CHARACTER-", [(0x18b00, 0x18cd5)]),
  ("NUSHU CHARACTER-", [(0x1b170, 0x1b2fb)])]

/-- The member of a series of a name in capitals. -/
def member? (name : String) : Option Nat :=
  series.findSome? fun (beginning, stretches) => do
    let digits ← behind? beginning name
    let code ← hexNumber? digits
    if digits.head? ≠ some '0' && isInside stretches code then some code else none

/-- The variation selector of a name in capitals; the selectors are numbered. -/
def selector? (name : String) : Option Nat := do
  let digits ← (behind? "VARIATION SELECTOR-" name).or (behind? "VS" name)
  let number ← (List.range' 1 256).find? fun n => (toString n).toList = digits
  some (if number ≤ 16 then 0xfe00 + number - 1 else 0xe0100 + number - 17)

/-! ## Listed names -/

/-- The frequent words, each in its place. -/
def frequentWord : Array String := (frequentWords.flatMap (·.splitOn " ")).toArray

/-- A word of a listed name in full. -/
def fullWord (word : String) : String :=
  match word.toList with
  | [a, b] =>
    if a.isLower && b.isLower then frequentWord.getD (26 * (a.toNat - 97) + (b.toNat - 97)) ""
    else word
  | _ => word

/-- A listed entry without its code point, and the code point if it is written. -/
def splitCode (entry : String) : Option Nat × String :=
  match entry.splitOn "=" with
  | [code, rest] => (hexNumber? code.toList, rest)
  | _ => (none, entry)

/-- The words of a listed name: some of those before it, and its own. -/
def nextWords (before : List String) (name : String) : List String :=
  match name.toList with
  | [] => []
  | kept :: own =>
    before.take (kept.toNat - 48) ++
      (((String.ofList own).splitOn " ").filter (· ≠ "")).map fullWord

/-- The code point of a name among listed ones, of which the first comes behind `before` and has the
code point `next` unless one is written. -/
def findListed (words : List String) : List String → List String → Nat → Option Nat
  | [], _, _ => none
  | entry :: rest, before, next =>
    let (written, name) := splitCode entry
    let code := written.getD next
    let current := nextWords before name
    if current = words then some code else findListed words rest current (code + 1)

/-- The code point of a listed name in capitals. -/
def listed? (name : String) : Option Nat :=
  findListed (name.splitOn " ") (nameRows.flatMap (·.splitOn ",")) [] 0

/-- The code point of a further name in capitals. -/
def otherListed? (name : String) : Option Nat :=
  (otherNameRows.flatMap (·.splitOn ",")).findSome? fun entry =>
    let (code, written) := splitCode entry
    if written = name then code else none

/-- The code point of the character of a name. -/
def codeNamed? (name : String) : Option Nat :=
  let capitals := String.ofList (name.toList.map Char.toUpper)
  (syllable? name).or <| (ideograph? name).or <| (member? capitals).or <| (selector? capitals).or <|
    (listed? capitals).or (otherListed? capitals)

end Dialogue.Text
