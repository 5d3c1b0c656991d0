import Dialogue.Regex.Alternatives
import Dialogue.Regex.Fault
import Dialogue.Regex.Search
import Dialogue.Text.Name

/-!
# Reading regular expressions

A pattern is read token by token, where a backslash and the character behind it are one token. The
reader keeps what is left of the pattern, the place it has reached, the groups seen so far and the
options in force, and stops at the first fault. A lone backslash at the end is found as soon as it
comes next, so it is reported before any fault of the token in front of it.

Groups may be nested up to a depth. Every call takes at least one token or descends into a group, so
five times the length of the pattern bounds the recursion.
-/

namespace Dialogue.Regex

open Dialogue.Text

/-- The options that a pattern can turn on and off. -/
structure Options where
  ignoreCase : Bool
  multiline : Bool
  dotAll : Bool
  verbose : Bool
  ascii : Bool
  unicode : Bool
  template : Bool
  deriving DecidableEq

namespace Options

/-- No option. -/
def none : Options := ⟨false, false, false, false, false, false, false⟩

/-- The options of either side. -/
def union (a b : Options) : Options :=
  ⟨a.ignoreCase || b.ignoreCase, a.multiline || b.multiline, a.dotAll || b.dotAll,
    a.verbose || b.verbose, a.ascii || b.ascii, a.unicode || b.unicode, a.template || b.template⟩

/-- Some option stands on both sides. -/
def meets (a b : Options) : Bool :=
  (a.ignoreCase && b.ignoreCase) || (a.multiline && b.multiline) || (a.dotAll && b.dotAll) ||
    (a.verbose && b.verbose) || (a.ascii && b.ascii) || (a.unicode && b.unicode) ||
    (a.template && b.template)

/-- The options inside a group that adds some and removes others; a character mode replaces one. -/
def within (outer added removed : Options) : Options :=
  let typed := added.ascii || added.unicode
  { ignoreCase := (outer.ignoreCase || added.ignoreCase) && !removed.ignoreCase
    multiline := (outer.multiline || added.multiline) && !removed.multiline
    dotAll := (outer.dotAll || added.dotAll) && !removed.dotAll
    verbose := (outer.verbose || added.verbose) && !removed.verbose
    ascii := if typed then added.ascii else outer.ascii
    unicode := if typed then added.unicode else outer.unicode
    template := outer.template }

/-- How leaves compare characters under these options. -/
def mode (o : Options) : Mode := ⟨o.ignoreCase, o.ascii⟩

end Options

/-- A character, or a backslash and a character. -/
inductive Token where
  | plain (c : Char)
  | escape (c : Char)
  deriving DecidableEq

/-- The characters of a token. -/
def Token.text : Token → String
  | .plain c => String.ofList [c]
  | .escape c => String.ofList ['\\', c]

/-- What the reader knows at a point of the pattern. -/
structure Scan where
  /-- The part of the pattern from the next token on. -/
  rest : List Char
  /-- The number of characters in front of the next token. -/
  place : Nat
  /-- The number of the next group. -/
  nextGroup : Nat
  /-- The least and the greatest width of every closed group. -/
  widths : GroupWidths
  /-- The numbers of the named groups. -/
  names : List (String × Nat)
  /-- The first group number inside the outermost lookbehind that is open. -/
  lookbehind : Option Nat
  /-- Groups that a condition refers to, with the place of the first reference. -/
  conditions : List (Nat × Nat)
  /-- The options in force. -/
  options : Options
  /-- How deep the groups that are open are nested. -/
  depth : Nat

/-- A fault without the pattern: a cause and its place, or a fault that has neither. -/
inductive Stop where
  | malformed (cause : Cause) (place : Option Nat)
  | repetitionTooLarge
  | reachTooLarge
  | nestedTooDeep
  | asciiAndUnicode

/-- A step of the reader. -/
abbrev Step := StateT Scan (Except Stop)

namespace Step

/-- Stops at a place. -/
def failAt {α : Type} (place : Nat) (cause : Cause) : Step α :=
  throw (.malformed cause (some place))

/-- Stops `back` characters in front of the next token. -/
def fail {α : Type} (cause : Cause) (back : Nat) : Step α := do
  failAt ((← get).place - back) cause

/-- The depth that the reader can follow. -/
def deepest : Nat := 980

/-- Goes down some levels for a step, as far as the reader can follow. -/
def within {α : Type} (levels : Nat) (step : Step α) : Step α := do
  let outer := (← get).depth
  if deepest < outer + levels then throw .nestedTooDeep
  modify fun s => { s with depth := outer + levels }
  let result ← step
  modify fun s => { s with depth := outer }
  return result

/-- The next token. -/
def peek : Step (Option Token) := do
  match (← get).rest with
  | [] => return none
  | '\\' :: c :: _ => return some (.escape c)
  | c :: _ => return some (.plain c)

/-- Stops when nothing but a backslash is left. -/
def checkTail : Step Unit := do
  let s ← get
  if s.rest = ['\\'] then failAt s.place .escapeAtEnd

/-- Takes the next token. -/
def take : Step (Option Token) := do
  let token ← peek
  let size := match token with
    | some (.escape _) => 2
    | some (.plain _) => 1
    | none => 0
  modify fun s => { s with rest := s.rest.drop size, place := s.place + size }
  checkTail
  return token

/-- Takes the next token when it is the character `c`. -/
def accept (c : Char) : Step Bool := do
  if (← peek) = some (.plain c) then
    let _ ← take
    return true
  else return false

/-- Takes up to `n` characters that satisfy `p`. -/
def takeWhile (p : Char → Bool) : Nat → Step (List Char)
  | 0 => return []
  | n + 1 => do
    match ← peek with
    | some (.plain c) =>
      if p c then
        let _ ← take
        return c :: (← takeWhile p n)
      else return []
    | _ => return []

/-- Takes the tokens up to a terminator; `what` names them in a fault. -/
def takeName (terminator : Char) (what : String) : Nat → String → Step String
  | 0, name => return name
  | fuel + 1, name => do
    match ← take with
    | none =>
      if name = "" then fail (.missing what) 0
      else fail (.unterminatedName terminator) name.length
    | some token =>
      if token = .plain terminator then
        if name = "" then fail (.missing what) 1 else return name
      else takeName terminator what fuel (name ++ token.text)

/-- The name up to a terminator. -/
def name (terminator : Char) (what : String) : Step String := do
  takeName terminator what ((← get).rest.length + 1) ""

end Step

open Step

/-! ## Escapes -/

/-- A hexadecimal digit in either case. -/
def isHexDigit (c : Char) : Bool :=
  c.isDigit || ('a' ≤ c && c ≤ 'f') || ('A' ≤ c && c ≤ 'F')

/-- An octal digit. -/
def isOctalDigit (c : Char) : Bool := '0' ≤ c && c ≤ '7'

/-- The value of a digit in any base up to sixteen. -/
def digitValue (c : Char) : Nat :=
  if c.isDigit then c.toNat - 48 else if 'a' ≤ c then c.toNat - 87 else c.toNat - 55

/-- The number that digits write in a base. -/
def inBase (base : Nat) (cs : List Char) : Nat := cs.foldl (fun n c => base * n + digitValue c) 0

/-- The control character that an escape letter stands for. -/
def controlEscape? (c : Char) : Option Nat :=
  if c = 'a' then some 7 else if c = 'b' then some 8 else if c = 'f' then some 12
  else if c = 'n' then some 10 else if c = 'r' then some 13 else if c = 't' then some 9
  else if c = 'v' then some 11 else if c = '\\' then some 92 else none

/-- The class that an escape letter stands for. -/
def categoryEscape? (c : Char) : Option SetItem :=
  if c = 'd' then some (.category .digit false) else if c = 'D' then some (.category .digit true)
  else if c = 's' then some (.category .blank false)
  else if c = 'S' then some (.category .blank true)
  else if c = 'w' then some (.category .word false)
  else if c = 'W' then some (.category .word true) else none

/-- The anchor that an escape letter stands for. -/
def anchorEscape? (c : Char) : Option Anchor :=
  if c = 'A' then some .textStart else if c = 'Z' then some .textEnd
  else if c = 'b' then some .wordEdge else if c = 'B' then some .noWordEdge else none

/-- The escape text of a letter and the digits behind it. -/
def escapeText (c : Char) (digits : List Char) : String := String.ofList ('\\' :: c :: digits)

/-- Stops at an escape that ends here. -/
def failEscape {α : Type} (cause : String → Cause) (c : Char) (digits : List Char) : Step α :=
  fail (cause (escapeText c digits)) (digits.length + 2)

/-- Reads the code of `\x`, `\u` or `\U`, which takes exactly `count` hexadecimal digits. -/
def readHexEscape (c : Char) (count : Nat) : Step Nat := do
  let digits ← Step.takeWhile isHexDigit count
  if digits.length ≠ count then failEscape .incompleteEscape c digits
  let code := inBase 16 digits
  if 0x10ffff < code then failEscape .badEscape c digits
  return code

/-- Reads the code of `\N{name}`. -/
def readNamedEscape : Step Nat := do
  if !(← accept '\x7b') then fail (.missing "\x7b") 0
  let written ← Step.name '\x7d' "character name"
  match codeNamed? written with
  | some code => return code
  | none => fail (.undefinedCharacter written) (written.length + 4)

/-- Reads a code that letters and digits write the same way everywhere, if `c` begins one. -/
def readCodeEscape? (c : Char) : Step (Option Nat) := do
  if c = 'x' then return some (← readHexEscape c 2)
  else if c = 'u' then return some (← readHexEscape c 4)
  else if c = 'U' then return some (← readHexEscape c 8)
  else if c = 'N' then return some (← readNamedEscape)
  else return none

/-- A character that stands for itself behind a backslash; letters do not. -/
def readPlainEscape (c : Char) : Step Nat := do
  if c.isAlpha then failEscape .badEscape c []
  return c.toNat

/-- Reads an escape inside a character set. -/
def readSetEscape (c : Char) : Step SetItem := do
  match controlEscape? c, categoryEscape? c with
  | some code, _ => return .one code
  | none, some item => return item
  | none, none =>
    match ← readCodeEscape? c with
    | some code => return .one code
    | none =>
      if isOctalDigit c then
        let digits ← Step.takeWhile isOctalDigit 2
        let code := inBase 8 (c :: digits)
        if 0o377 < code then failEscape .octalTooLarge c digits
        return .one code
      else if c.isDigit then failEscape .badEscape c []
      else return .one (← readPlainEscape c)

/-- A group that is closed. -/
def isClosed (s : Scan) (group : Nat) : Bool := (s.widths.lookup group).isSome

/-- Inside a lookbehind, refuses groups that are open or were opened there. -/
def checkLookbehind (group : Nat) : Step Unit := do
  let s ← get
  match s.lookbehind with
  | none => return ()
  | some first =>
    if !isClosed s group then fail .openGroup 0
    if first ≤ group then fail .lookbehindGroup 0

/-- A leaf that compares one code point. -/
def codeLeaf (options : Options) (code : Nat) : Node := .leaf (.code code false) options.mode

/-- Reads a reference by number, or an octal code of three digits, behind its first digit. -/
def readNumberEscape (c : Char) : Step Node := do
  let options := (← get).options
  let second ← Step.takeWhile Char.isDigit 1
  let octal := isOctalDigit c && !second.isEmpty && second.all isOctalDigit
  let third ← if octal then Step.takeWhile isOctalDigit 1 else pure []
  let digits := second ++ third
  if !third.isEmpty then
    let code := inBase 8 (c :: digits)
    if 0o377 < code then failEscape .octalTooLarge c digits
    return codeLeaf options code
  let group := inBase 10 (c :: digits)
  let s ← get
  if group < s.nextGroup then
    if !isClosed s group then failEscape (fun _ => .openGroup) c digits
    checkLookbehind group
    return .reference group options.mode
  fail (.invalidGroup group) (digits.length + 1)

/-- Reads an escape outside a character set; an anchor cannot be repeated. -/
def readEscape (c : Char) : Step (Node × Bool) := do
  let options := (← get).options
  match anchorEscape? c, categoryEscape? c, controlEscape? c with
  | some anchor, _, _ => return (.anchor anchor options.mode, true)
  | none, some item, _ => return (.leaf (.set [item] false) options.mode, false)
  | none, none, some code => return (codeLeaf options code, false)
  | none, none, none =>
    match ← readCodeEscape? c with
    | some code => return (codeLeaf options code, false)
    | none =>
      if c = '0' then
        let digits ← Step.takeWhile isOctalDigit 2
        return (codeLeaf options (inBase 8 (c :: digits)), false)
      else if c.isDigit then return (← readNumberEscape c, false)
      else return (codeLeaf options (← readPlainEscape c), false)

/-! ## Character sets -/

/-- Reads one end of a range or one member of a set. -/
def readSetItem : Token → Step SetItem
  | .escape c => readSetEscape c
  | .plain c => return .one c.toNat

/-- Reads the members of a set to the closing bracket; `start` is the place of the opening one. -/
def readSetItems (start : Nat) : Nat → List SetItem → Step (List SetItem)
  | 0, items => return items.reverse
  | fuel + 1, items => do
    match ← take with
    | none => failAt start .unterminatedSet
    | some first =>
      if first = .plain ']' && !items.isEmpty then return items.reverse
      let low ← readSetItem first
      if !(← accept '-') then readSetItems start fuel (low :: items)
      else
        match ← take with
        | none => failAt start .unterminatedSet
        | some (.plain ']') => return (.one 45 :: low :: items).reverse
        | some second => do
          let high ← readSetItem second
          let bad : Step (List SetItem) := fail (.badRange first.text second.text)
            (first.text.length + 1 + second.text.length)
          match low, high with
          | .one a, .one b =>
            if b < a then bad else readSetItems start fuel (.span a b :: items)
          | _, _ => bad

/-- Reads a set behind its opening bracket. -/
def readSet : Step Node := do
  let start := (← get).place - 1
  let options := (← get).options
  let negated ← accept '^'
  let items ← readSetItems start ((← get).rest.length + 1) []
  return .leaf (.ofItems items negated) options.mode

/-! ## Flags -/

/-- The option of a flag letter. -/
def flag? (c : Char) : Option Options :=
  if c = 'i' then some { Options.none with ignoreCase := true }
  else if c = 'm' then some { Options.none with multiline := true }
  else if c = 's' then some { Options.none with dotAll := true }
  else if c = 'x' then some { Options.none with verbose := true }
  else if c = 'a' then some { Options.none with ascii := true }
  else if c = 'u' then some { Options.none with unicode := true }
  else if c = 't' then some { Options.none with template := true }
  else none

/-- Stops at a token that is no flag: a letter is an unknown flag, anything else a missing `what`.
-/
def failFlag {α : Type} (token : Token) (what : String) : Step α :=
  match token with
  | .plain c => fail (if isLetter c then .unknownFlag else .missing what) 1
  | .escape _ => fail (.missing what) 2

/-- Reads the flags to turn on, from the letter `c` on, to the character that ends them. -/
def readFlagsOn : Nat → Options → Char → Step (Options × Char)
  | 0, added, c => return (added, c)
  | fuel + 1, added, c => do
    if c = 'L' then fail .localeFlag 0
    let flag := (flag? c).getD .none
    let added := added.union flag
    if (flag.ascii && added.unicode) || (flag.unicode && added.ascii) then
      fail .incompatibleFlags 0
    match ← take with
    | none => fail (.missing "-, : or )") 0
    | some (.plain next) =>
      if next = ')' ∨ next = '-' ∨ next = ':' then return (added, next)
      else if next = 'L' ∨ (flag? next).isSome then readFlagsOn fuel added next
      else failFlag (.plain next) "-, : or )"
    | some token => failFlag token "-, : or )"

/-- Reads the flags to turn off, from the letter `c` on, to the colon. -/
def readFlagsOff : Nat → Options → Char → Step Options
  | 0, removed, _ => return removed
  | fuel + 1, removed, c => do
    let flag := (flag? c).getD .none
    if c = 'L' || flag.ascii || flag.unicode then fail .typeFlagOff 0
    let removed := removed.union flag
    match ← take with
    | none => fail (.missing ":") 0
    | some (.plain ':') => return removed
    | some (.plain next) =>
      if next = 'L' ∨ (flag? next).isSome then readFlagsOff fuel removed next
      else failFlag (.plain next) ":"
    | some token => failFlag token ":"

/-- Reads flags behind their first character: those for the whole pattern are put into force and
give nothing, those for a group give what it adds and removes. -/
def readFlags (c : Char) : Step (Option (Options × Options)) := do
  let fuel := (← get).rest.length + 1
  let (added, next) ← if c = '-' then pure (Options.none, '-') else readFlagsOn fuel .none c
  if next = ')' then
    modify fun s => { s with options := s.options.union added }
    return none
  if added.template then fail .globalFlagOn 1
  if next ≠ '-' then return some (added, .none)
  match ← take with
  | none => fail (.missing "flag") 0
  | some (.plain first) =>
    if first = 'L' ∨ (flag? first).isSome then
      let removed ← readFlagsOff fuel .none first
      if removed.template then fail .globalFlagOff 1
      if added.meets removed then fail .flagOnAndOff 1
      return some (added, removed)
    else failFlag (.plain first) "flag"
  | some token => failFlag token "flag"

/-! ## Repetitions -/

/-- What stands in front of a quantifier. -/
inductive Kind where
  | anchor
  | repetition
  | other
  deriving DecidableEq

/-- A piece of a row and its kind. -/
structure Piece where
  node : Node
  kind : Kind

/-- The counts of a quantifier in braces, or nothing when the brace stands for itself. -/
def readCounts : Step (Option (Nat × Option Nat)) := do
  let before ← get
  if (← peek) = some (.plain '\x7d') then return none
  let fuel := before.rest.length
  let low ← Step.takeWhile Char.isDigit fuel
  let comma ← accept ','
  let high ← if comma then Step.takeWhile Char.isDigit fuel else pure low
  if !(← accept '\x7d') then
    set before
    return none
  let least := inBase 10 low
  if widthLimit ≤ least then throw .repetitionTooLarge
  if high.isEmpty then return some (least, none)
  let most := inBase 10 high
  if widthLimit ≤ most then throw .repetitionTooLarge
  if most < least then failAt before.place .minAboveMax
  return some (least, some most)

/-- Reads the mark behind a quantifier. -/
def readGreed : Step Greed := do
  if ← accept '?' then return .lazy
  if ← accept '+' then return .possessive
  return .greedy

/-- Repeats the last piece of a row; `place` is where the quantifier starts. -/
def repeatLast (place : Nat) (least : Nat) (most : Option Nat) (row : List Piece) :
    Step (List Piece) := do
  match row with
  | [] => failAt place .nothingToRepeat
  | last :: rest =>
    match last.kind with
    | .anchor => failAt place .nothingToRepeat
    | .repetition => failAt place .multipleRepeat
    | .other =>
      return ⟨.repeated (← readGreed) least most last.node, .repetition⟩ :: rest

/-! ## Groups -/

/-- Opens a group, under a name when there is one. -/
def openGroup (name : Option String) : Step Nat := do
  let s ← get
  let group := s.nextGroup
  match name with
  | none => set { s with nextGroup := group + 1 }
  | some name =>
    match s.names.lookup name with
    | some earlier => fail (.redefinedGroup name group earlier) (name.length + 1)
    | none => set { s with nextGroup := group + 1, names := (name, group) :: s.names }
  return group

/-- Closes a group around an expression. -/
def closeGroup (group : Nat) (body : Node) : Step Unit :=
  modify fun s => { s with widths := (group, body.width s.widths) :: s.widths }

/-- Reads a group name and checks that it is an identifier. -/
def groupName (terminator : Char) : Step String := do
  let name ← Step.name terminator "group name"
  if !isIdentifier name then fail (.badGroupName name) (name.length + 1)
  return name

/-- The number of a named group. -/
def groupNamed (name : String) : Step Nat := do
  match (← get).names.lookup name with
  | some group => return group
  | none => fail (.unknownGroup name) (name.length + 1)

/-- Reads decimal digits of any script, where single underscores may stand between digits. -/
def decimalNumber? : List Char → Option Nat → Option Nat
  | [], n => n
  | '_' :: c :: rest, some n => do decimalNumber? rest (some (10 * n + (← decimalValue? c)))
  | c :: rest, n => do decimalNumber? rest (some (10 * n.getD 0 + (← decimalValue? c)))

/-- The number that a text writes, between blanks and behind a plus sign. -/
def writtenNumber? (s : String) : Option Nat :=
  match (strip s).toList with
  | '+' :: rest => decimalNumber? rest none
  | '-' :: rest => if decimalNumber? rest none = some 0 then some 0 else none
  | rest => decimalNumber? rest none

/-- No pattern has as many groups as this. -/
def groupLimit : Nat := 1073741823

/-- Reads the group that a condition asks for. -/
def conditionGroup : Step Nat := do
  let written ← Step.name ')' "group name"
  let back := written.length + 1
  if isIdentifier written then groupNamed written
  else
    match writtenNumber? written with
    | none => fail (.badGroupName written) back
    | some 0 => fail .badGroupNumber back
    | some group =>
      if groupLimit ≤ group then fail (.invalidGroup group) back
      modify fun s =>
        if (s.conditions.lookup group).isSome then s
        else { s with conditions := s.conditions ++ [(group, s.place - back)] }
      return group

/-- Skips a comment to its closing parenthesis; `start` is the place of the opening one. -/
def skipComment (start : Nat) : Nat → Step Unit
  | 0 => return ()
  | fuel + 1 => do
    match ← peek with
    | none => failAt start .unterminatedComment
    | some _ => if (← take) = some (.plain ')') then return () else skipComment start fuel

/-- Skips the rest of a line. -/
def skipLine : Nat → Step Unit
  | 0 => return ()
  | fuel + 1 => do
    match ← take with
    | none | some (.plain '\n') => return ()
    | some _ => skipLine fuel

/-- Reads a closing parenthesis; `start` is the place of the opening one. -/
def expectClose (start : Nat) : Step Unit := do
  if !(← accept ')') then failAt start .unterminatedGroup

/-- Blanks that verbose patterns ignore. -/
def isLayout (c : Char) : Bool := c = ' ' || (9 ≤ c.toNat && c.toNat ≤ 13)

/-- A row of pieces, the last one first, as an expression. -/
def rowOf (pieces : List Piece) : Node := .row (pieces.reverse.flatMap (·.node.items))

mutual

/-- Reads alternatives; `top` holds outside all groups. They go down a level, and each of them goes
down another. -/
def readAlternatives (top : Bool) : Nat → Step Node
  | 0 => return .empty
  | fuel + 1 => Step.within 2 do
    let first ← readRow top fuel []
    let others ← readOthers fuel
    return alternatives (← get).options.mode first others
termination_by structural fuel => fuel

/-- Reads the further alternatives, each behind a bar. -/
def readOthers : Nat → Step (List Node)
  | 0 => return []
  | fuel + 1 => do
    if ← accept '|' then
      let next ← readRow false fuel []
      return next :: (← readOthers fuel)
    else return []
termination_by structural fuel => fuel

/-- Reads pieces to a bar, a closing parenthesis or the end. Options for the whole pattern may stand
only at the very front, where `front` holds and no piece has been read. -/
def readRow (front : Bool) : Nat → List Piece → Step Node
  | 0, pieces => return rowOf pieces
  | fuel + 1, pieces => do
    match ← peek with
    | none | some (.plain '|') | some (.plain ')') => return rowOf pieces
    | some token =>
      let place := (← get).place
      let options := (← get).options
      let _ ← take
      match token with
      | .escape c =>
        let (node, isAnchor) ← readEscape c
        readRow front fuel (⟨node, if isAnchor then .anchor else .other⟩ :: pieces)
      | .plain c =>
        if options.verbose && isLayout c then readRow front fuel pieces
        else if options.verbose && c = '#' then
          skipLine ((← get).rest.length + 1)
          readRow front fuel pieces
        else if c = '[' then
          readRow front fuel (⟨← readSet, .other⟩ :: pieces)
        else if c = '.' then
          let test := if options.dotAll then CharTest.any else .anyButNewline
          readRow front fuel (⟨.char test options.mode, .other⟩ :: pieces)
        else if c = '^' then
          let anchor := if options.multiline then Anchor.lineStart else .textStart
          readRow front fuel (⟨.anchor anchor options.mode, .anchor⟩ :: pieces)
        else if c = '$' then
          let anchor := if options.multiline then Anchor.lineEnd else .lastLineEnd
          readRow front fuel (⟨.anchor anchor options.mode, .anchor⟩ :: pieces)
        else if c = '(' then
          match ← readGroup front pieces.isEmpty place fuel with
          | some node => readRow front fuel (⟨node, .other⟩ :: pieces)
          | none => readRow front fuel pieces
        else if c = '?' then readRow front fuel (← repeatLast place 0 (some 1) pieces)
        else if c = '*' then readRow front fuel (← repeatLast place 0 none pieces)
        else if c = '+' then readRow front fuel (← repeatLast place 1 none pieces)
        else if c = '\x7b' then
          match ← readCounts with
          | some (least, most) => readRow front fuel (← repeatLast place least most pieces)
          | none => readRow front fuel (⟨codeLeaf options c.toNat, .other⟩ :: pieces)
        else readRow front fuel (⟨codeLeaf options c.toNat, .other⟩ :: pieces)
termination_by structural fuel _ => fuel

/-- Reads what stands behind an opening parenthesis at `start`: an expression, or nothing for
comments and for options of the whole pattern. -/
def readGroup (front bare : Bool) (start : Nat) : Nat → Step (Option Node)
  | 0 => return none
  | fuel + 1 => do
    if !(← accept '?') then
      return some (← readCapture none start fuel)
    match ← take with
    | none => fail .endOfPattern 0
    | some (.escape c) => fail (.unknownExtension (Token.escape c).text) 3
    | some (.plain c) =>
      if c = 'P' then readNamed start fuel
      else if c = ':' then
        let body ← readAlternatives false fuel
        expectClose start
        return some body
      else if c = '#' then
        skipComment start ((← get).rest.length + 1)
        return none
      else if c = '=' ∨ c = '!' then
        let body ← readAlternatives false fuel
        expectClose start
        return some (if c = '!' && body.items.isEmpty then .never else .ahead (c = '!') body)
      else if c = '<' then readBehind start fuel
      else if c = '(' then
        let group ← conditionGroup
        checkLookbehind group
        readCondition group start fuel
      else if c = '>' then
        let body ← readAlternatives false fuel
        expectClose start
        return some (.atomic body)
      else if c = '-' ∨ c = 'L' ∨ (flag? c).isSome then
        match ← readFlags c with
        | none =>
          if front && bare then return none
          else failAt start .lateFlags
        | some (added, removed) =>
          let outer := (← get).options
          modify fun s => { s with options := outer.within added removed }
          let body ← readAlternatives false fuel
          expectClose start
          modify fun s => { s with options := outer }
          return some (.wrapped body)
      else fail (.unknownExtension (String.singleton c)) 2
termination_by structural fuel => fuel

/-- Reads a captured group. -/
def readCapture (name : Option String) (start : Nat) : Nat → Step Node
  | 0 => return .empty
  | fuel + 1 => do
    let group ← openGroup name
    let body ← readAlternatives false fuel
    expectClose start
    closeGroup group body
    return .group group body
termination_by structural fuel => fuel

/-- Reads a named group or a reference by name. -/
def readNamed (start : Nat) : Nat → Step (Option Node)
  | 0 => return none
  | fuel + 1 => do
    if ← accept '<' then
      let name ← groupName '>'
      return some (← readCapture (some name) start fuel)
    if ← accept '=' then
      let name ← groupName ')'
      let group ← groupNamed name
      if !isClosed (← get) group then fail .openGroup (name.length + 1)
      checkLookbehind group
      return some (.reference group (← get).options.mode)
    match ← take with
    | none => fail .endOfPattern 0
    | some token => fail (.unknownExtension ("P" ++ token.text)) (token.text.length + 2)
termination_by structural fuel => fuel

/-- Reads a lookbehind behind its angle bracket. -/
def readBehind (start : Nat) : Nat → Step (Option Node)
  | 0 => return none
  | fuel + 1 => do
    match ← take with
    | none => fail .endOfPattern 0
    | some token =>
      if token ≠ .plain '=' ∧ token ≠ .plain '!' then
        fail (.unknownExtension ("<" ++ token.text)) (token.text.length + 2)
      let outer := (← get).lookbehind
      if outer.isNone then modify fun s => { s with lookbehind := some s.nextGroup }
      let body ← readAlternatives false fuel
      if outer.isNone then modify fun s => { s with lookbehind := none }
      expectClose start
      if token = .plain '!' && body.items.isEmpty then return some .never
      let (low, high) := body.width (← get).widths
      return some (.behind (token = .plain '!') low high body)
termination_by structural fuel => fuel

/-- Reads the one or two branches of a condition. -/
def readCondition (group : Nat) (start : Nat) : Nat → Step (Option Node)
  | 0 => return none
  | fuel + 1 => do
    let yes ← Step.within 1 (readRow false fuel [])
    if !(← accept '|') then
      expectClose start
      return some (.ifGroup group yes .empty)
    let no ← Step.within 1 (readRow false fuel [])
    if (← peek) = some (.plain '|') then fail .thirdBranch 0
    expectClose start
    return some (.ifGroup group yes no)
termination_by structural fuel => fuel

end

/-! ## Patterns -/

/-- The name of a repetition operator, as template patterns report it. -/
def Greed.operator : Greed → String
  | .greedy => "MAX_REPEAT"
  | .lazy => "MIN_REPEAT"
  | .possessive => "POSSESSIVE_REPEAT"

/-- The first node that cannot be carried out: a repetition in a template pattern, or a lookbehind
of open width. -/
def unsupported? (template : Bool) : Node → Option Cause
  | .repeated greed _ _ body =>
    if template then some (.templateRepeat greed.operator) else unsupported? template body
  | .behind _ low high body =>
    if low ≠ high then some .lookbehindWidth else unsupported? template body
  | .cat a b | .alt a b | .ifGroup _ a b => (unsupported? template a).or (unsupported? template b)
  | .choice body | .wrapped body | .group _ body | .atomic body | .ahead _ body =>
    unsupported? template body
  | .empty | .never | .char _ _ | .anchor _ _ | .reference _ _ => none

/-- A lookbehind reaches back less far than this. -/
def reachLimit : Nat := 2147483648

/-- Some lookbehind reaches back too far. -/
def reachesTooFar : Node → Bool
  | .behind _ low _ body => reachLimit ≤ low || reachesTooFar body
  | .cat a b | .alt a b | .ifGroup _ a b => reachesTooFar a || reachesTooFar b
  | .repeated _ _ _ body | .choice body | .wrapped body | .group _ body | .atomic body
  | .ahead _ body => reachesTooFar body
  | .empty | .never | .char _ _ | .anchor _ _ | .reference _ _ => false

/-- Reads a whole pattern. -/
def readPattern (size : Nat) : Step Pattern := do
  checkTail
  let node ← readAlternatives true (5 * size + 5)
  let s ← get
  if s.options.ascii && s.options.unicode then throw .asciiAndUnicode
  if !s.rest.isEmpty then fail .unbalancedParenthesis 0
  match s.conditions.find? fun condition => s.nextGroup ≤ condition.1 with
  | some (group, place) => failAt place (.invalidGroup group)
  | none =>
    match unsupported? s.options.template node with
    | some cause => throw (.malformed cause none)
    | none =>
      if reachesTooFar node then throw .reachTooLarge
      return ⟨node, (node.width s.widths).1, s.options.ascii⟩

/-- The expression that a pattern writes. -/
def compile (pattern : String) (ignoreCase : Bool) : Except Fault Pattern :=
  let options := { Options.none with ignoreCase := ignoreCase }
  match (readPattern pattern.length).run ⟨pattern.toList, 0, 1, [], [], none, [], options, 0⟩ with
  | .ok (p, _) => .ok p
  | .error (.malformed cause place) => .error (.malformed pattern cause place)
  | .error .repetitionTooLarge => .error .repetitionTooLarge
  | .error .reachTooLarge => .error .reachTooLarge
  | .error .nestedTooDeep => .error .nestedTooDeep
  | .error .asciiAndUnicode => .error .asciiAndUnicode

/-- Whether a pattern matches somewhere in a text. A match in which a group closes before it opens
is none that can be told. -/
def search (pattern : String) (ignoreCase : Bool) (s : String) : Except Fault Bool := do
  let p ← compile pattern ignoreCase
  match p.find? s.toList.toArray with
  | some registers => if registers.isTwisted then throw .twistedGroup else return true
  | none => return false

end Dialogue.Regex
