import Dialogue.Regex.Character
import Dialogue.Regex.Registers

/-!
# Matching regular expressions

A match is searched by backtracking. A node is run from a place with a continuation that says how
the match goes on; the first way through, in the order of preference, is the answer. A run ends with
the registers whether it matched or not, because what a failed attempt leaves there can be seen: a
possessive repetition goes on from the place that was reached last, even by its last round, which
failed.

The node knows what follows it, when that is a plain test of one character, so that a repetition of
single characters gives them back only where that character stands.

A repetition beyond its least count stops after a round that ended where the round before it ended.
Rounds can end further back than they began, so a bound by the square of the number of places cuts
off what would not come to an end.

Main statements: `run_cat`, `run_choice` and the other equations, one for every kind of node.
-/

namespace Dialogue.Regex

open Dialogue.Text

/-! ## Places -/

/-- Exactly one of the neighbours of a place is a word character. -/
def isWordEdge (text : Array Char) (ascii : Bool) (place : Nat) : Bool :=
  let isWordAt (i : Nat) : Bool := text[i]?.any fun c => Category.word.holds ascii c
  (0 < place && isWordAt (place - 1)) != isWordAt place

/-- Whether an anchor holds at a place. In the empty text there is no edge, nor the lack of one. -/
def Anchor.holdsAt (text : Array Char) (mode : Mode) (place : Nat) : Anchor → Bool
  | .textStart => place = 0
  | .lineStart => place = 0 || text[place - 1]? = some '\n'
  | .textEnd => place = text.size
  | .lineEnd => place = text.size || text[place]? = some '\n'
  | .lastLineEnd => place = text.size || (place + 1 = text.size && text[place]? = some '\n')
  | .wordEdge => !text.isEmpty && isWordEdge text mode.ascii place
  | .noWordEdge => !text.isEmpty && !isWordEdge text mode.ascii place

/-- Whether the text from `low` to `high` stands again at a place, up to `mode`. -/
def repeatsAt (text : Array Char) (mode : Mode) (low place : Nat) : Nat → Bool
  | 0 => true
  | n + 1 =>
    match text[low]?, text[place]? with
    | some a, some b =>
      (a = b || (mode.ignoreCase && mode.lower a.toNat = mode.lower b.toNat)) &&
        repeatsAt text mode (low + 1) (place + 1) n
    | _, _ => false

/-! ## What comes next -/

/-- Characters are compared as they are. -/
def CharTest.isPlain (mode : Mode) : CharTest → Bool
  | .code _ negated => !negated && !mode.ignoreCase
  | .set _ _ => !mode.ignoreCase
  | .any | .anyButNewline => false

/-- The plain test that a node begins with, given the one behind it. -/
def Node.lead (behind : Option (CharTest × Mode)) : Node → Option (CharTest × Mode)
  | .empty => behind
  | .char test mode => if test.isPlain mode then some (test, mode) else none
  | .cat first second => first.lead (second.lead behind)
  | .wrapped body => body.lead behind
  | _ => none

/-- Whether the plain test that a node begins with rules a place out. -/
def Node.refuses (text : Array Char) (node : Node) (place : Nat) : Bool :=
  match node.lead none with
  | some (test, mode) => !test.holdsAt text mode place
  | none => false

/-- Whether what follows can begin at a place, as far as a single written character tells. -/
def admits (text : Array Char) (next : Option (CharTest × Mode)) (place : Nat) : Bool :=
  match next with
  | some (.code written negated, mode) =>
    CharTest.holdsAt text (.code written negated) mode place
  | _ => true

/-! ## Endings -/

/-- How a run ended, and the registers then. -/
structure Ending where
  matched : Bool
  registers : Registers

namespace Ending

/-- No match. -/
def failed (r : Registers) : Ending := ⟨false, r⟩

/-- The first ending if it is a match, and else what follows from its registers. -/
def orElse (e : Ending) (other : Registers → Ending) : Ending :=
  if e.matched then e else other e.registers

/-- Changes the registers of a failure. -/
def onFailure (e : Ending) (f : Registers → Registers) : Ending :=
  e.orElse fun r => failed (f r)

end Ending

/-- What follows a node: the rest of the match from a place. -/
abbrev Continuation := Nat → Registers → Ending

/-- The end of an expression: a match that reached the place. -/
def finish : Continuation := fun place r => ⟨true, r.reach place⟩

/-! ## Repetitions of single characters -/

/-- A repetition of the test of one character. -/
structure Span where
  text : Array Char
  test : CharTest
  mode : Mode

namespace Span

/-- Whether the place is noted after every character, and not only where the repetition begins. -/
def notes (s : Span) : Bool :=
  s.mode.ignoreCase && match s.test with
    | .set _ _ => true
    | .code written _ => !s.mode.ascii && (kinOf (s.mode.lower written)).length ≠ 1
    | .any | .anyButNewline => false

/-- How many characters from a place on the repetition can take. -/
def count (s : Span) (most : Option Nat) (place : Nat) : Nat :=
  let left := s.text.size - place
  s.test.countAt s.text s.mode (most.elim left (min left)) place

/-- The registers after `n` characters from a place on. -/
def noted (s : Span) (place n : Nat) (r : Registers) : Registers :=
  r.reach (if s.notes then place + n else place)

/-- Goes on behind as many characters as possible: `n` more than there are up to `place`, and fewer
only where the rest fails. -/
def giveBack (s : Span) (inside : Bool) (next : Option (CharTest × Mode)) (k : Continuation)
    (saved : Registers) (place : Nat) : Nat → Registers → Ending
  | 0, r =>
    if admits s.text next place then
      (k place (r.reach place)).onFailure (·.backTo inside saved)
    else .failed r
  | n + 1, r =>
    if admits s.text next (place + n + 1) then
      (k (place + n + 1) (r.reach (place + n + 1))).orElse fun r =>
        s.giveBack inside next k saved place n (r.backTo inside saved)
    else s.giveBack inside next k saved place n r

/-- Goes on behind as few characters as possible, and takes further ones, at most `most`, only where
the rest fails. -/
def takeMore (s : Span) (inside : Bool) (k : Continuation) (saved : Registers) :
    Nat → Option Nat → Continuation
  | 0, _, _, r => .failed r
  | fuel + 1, most, place, r =>
    (k place (r.reach place)).orElse fun r =>
      let r := (r.backTo inside saved).reach place
      if s.test.holdsAt s.text s.mode place then
        let r := s.noted place 1 r
        if most = some 0 then .failed r
        else s.takeMore inside k saved fuel (most.map (· - 1)) (place + 1) r
      else .failed r

/-- Runs the repetition. -/
def run (s : Span) (greed : Greed) (least : Nat) (most : Option Nat) (inside : Bool)
    (next : Option (CharTest × Mode)) (k : Continuation) : Continuation := fun place r =>
  if s.text.size < place + least then .failed r
  else
    match greed with
    | .greedy =>
      let n := s.count most place
      let r := s.noted place n r
      if n < least then .failed r
      else s.giveBack inside next k r (place + least) (n - least) r
    | .lazy =>
      let n := s.count (some least) place
      let r := if least = 0 then r.reach place else s.noted place n r
      if n < least then .failed r
      else s.takeMore inside k r (s.text.size - place + 1) (most.map (· - least)) (place + n) r
    | .possessive =>
      let n := s.count most place
      let r := s.noted place n r
      if n < least then .failed r else k (place + n) r

end Span

/-! ## Repetitions of anything -/

/-- One round fewer, when rounds are counted. -/
def oneLess : Option Nat → Option Nat := Option.map (· - 1)

/-- Exactly `n` rounds. -/
def rounds (body : Continuation → Continuation) (k : Continuation) : Nat → Continuation
  | 0 => k
  | n + 1 => fun place r =>
    (body (rounds body k n) place (r.reach place)).onFailure (·.reach place)

/-- As many further rounds as possible, at most `most`, and fewer only where the rest fails. The
round before the first one ended at `last`. -/
def greedyRounds (body : Continuation → Continuation) (k : Continuation) :
    Nat → Option Nat → Option Nat → Continuation
  | 0, _, _ => k
  | fuel + 1, most, last => fun place r =>
    let leave : Registers → Ending := fun r => (k place (r.reach place)).onFailure (·.reach place)
    if most = some 0 ∨ last = some place then leave r
    else
      (body (greedyRounds body k fuel (oneLess most) (some place)) place (r.reach place)).orElse
        fun failed => leave (failed.backTo true r)

/-- As few further rounds as possible, at most `most`. The round before the first one ended at
`last`. -/
def lazyRounds (inside : Bool) (body : Continuation → Continuation) (k : Continuation) :
    Nat → Option Nat → Option Nat → Continuation
  | 0, _, _ => k
  | fuel + 1, most, last => fun place r =>
    (k place (r.reach place)).orElse fun failed =>
      let r := (failed.backTo inside r).reach place
      if most = some 0 ∨ last = some place then .failed r
      else
        (body (lazyRounds inside body k fuel (oneLess most) (some place)) place r).onFailure
          (·.reach place)

/-- Exactly `n` rounds, each final once it matched, from the place that is reached. -/
def finalRounds (body : Continuation → Continuation) : Nat → Registers → Ending
  | 0, r => ⟨true, r⟩
  | n + 1, r =>
    let e := body finish r.reached r
    if e.matched then finalRounds body n e.registers else e

/-- Further rounds, each final once it matched, as many as possible and at most `most`. The place
that is reached stays where the last round left it, also when that one failed. -/
def possessiveRounds (body : Continuation → Continuation) :
    Nat → Option Nat → Option Nat → Registers → Registers
  | 0, _, _, r => r
  | fuel + 1, most, last, r =>
    if most = some 0 ∨ last = some r.reached then r
    else
      let e := body finish r.reached r
      if e.matched then possessiveRounds body fuel (oneLess most) (some r.reached) e.registers
      else e.registers.backTo true r

/-! ## Runs -/

/-- No repetition makes more rounds than this. -/
def roundLimit (text : Array Char) : Nat := (text.size + 2) * (text.size + 2)

/-- Looks `width` characters back from a place, or ahead when the width is zero, and goes on from
the place itself. -/
def look (negated inside : Bool) (width : Nat) (body : Continuation → Continuation)
    (k : Continuation) : Continuation := fun place r =>
  if place < width then (if negated then k place r else .failed r)
  else
    let e := body finish (place - width) (r.reach (place - width))
    if negated then
      if e.matched then .failed e.registers else k place (e.registers.backTo inside r)
    else
      if e.matched then k place e.registers else e

/-- Runs a node from a place and goes on with `k`. The flag says whether the node stands inside a
repetition of more than single characters; `next` is the plain test that follows it. -/
def run (text : Array Char) : Node → Bool → Option (CharTest × Mode) → Continuation → Continuation
  | .empty, _, _, k, place, r => k place r
  | .never, _, _, _, _, r => .failed r
  | .char test mode, _, _, k, place, r =>
    if test.holdsAt text mode place then k (place + 1) r else .failed r
  | .anchor anchor mode, _, _, k, place, r =>
    if anchor.holdsAt text mode place then k place r else .failed r
  | .cat first second, inside, next, k, place, r =>
    run text first inside (second.lead next) (run text second inside next k) place r
  | .alt first second, inside, next, k, place, r =>
    (run text first inside next k place r).orElse (run text second inside next k place)
  | .choice body, inside, _, k, place, r =>
    if body.refuses text place then .failed r
    else (run text body inside none k place (r.reach place)).onFailure (·.backTo inside r)
  | .wrapped body, inside, next, k, place, r => run text body inside next k place r
  | .repeated greed least most body, inside, next, k, place, r =>
    match body.leaf? with
    | some (test, mode) => Span.run ⟨text, test, mode⟩ greed least most inside next k place r
    | none =>
      let further := most.map (· - least)
      match greed with
      | .greedy =>
        let round := run text body true none
        rounds round (greedyRounds round k (roundLimit text) further none) least place r
      | .lazy =>
        let round := run text body true none
        rounds round (lazyRounds inside round k (roundLimit text) further none) least place r
      | .possessive =>
        let round := run text body inside none
        let e := finalRounds round least (r.reach place)
        if e.matched then
          let r := possessiveRounds round (roundLimit text) further none e.registers
          k r.reached r
        else .failed (e.registers.reach place)
  | .group n body, inside, _, k, place, r =>
    run text body inside none (fun place r => k place (r.closeGroup n place)) place
      (r.openGroup n place)
  | .atomic body, inside, _, k, place, r =>
    let e := run text body inside none finish place (r.reach place)
    if e.matched then k e.registers.reached e.registers
    else .failed (e.registers.reach place)
  | .ahead negated body, inside, _, k, place, r =>
    look negated inside 0 (run text body inside none) k place r
  | .behind negated width _ body, inside, _, k, place, r =>
    look negated inside width (run text body inside none) k place r
  | .reference n mode, _, _, k, place, r =>
    match r.captured? n with
    | some (low, high) =>
      if repeatsAt text mode low place (high - low) then k (place + (high - low)) r else .failed r
    | none => .failed r
  | .ifGroup n yes no, inside, next, k, place, r =>
    if (r.captured? n).isSome then
      run text yes inside (if no.items.isEmpty then next else none) k place r
    else run text no inside next k place r

/-- Tries a match that starts at a place. -/
def Node.matchFrom (node : Node) (text : Array Char) (place : Nat) : Ending :=
  run text node false none finish place (.start place)

/-! ## Equations -/

variable {text : Array Char} {inside : Bool} {next : Option (CharTest × Mode)} {k : Continuation}
  {place : Nat} {r : Registers}

theorem run_empty : run text .empty inside next k place r = k place r := by rw [run]

theorem run_never : run text .never inside next k place r = .failed r := by rw [run]

theorem run_char (test : CharTest) (mode : Mode) :
    run text (.char test mode) inside next k place r =
      if test.holdsAt text mode place then k (place + 1) r else .failed r := by rw [run]

theorem run_cat (a b : Node) :
    run text (.cat a b) inside next k place r =
      run text a inside (b.lead next) (run text b inside next k) place r := by rw [run]

theorem run_alt (a b : Node) :
    run text (.alt a b) inside next k place r =
      (run text a inside next k place r).orElse (run text b inside next k place) := by rw [run]

theorem run_choice (a : Node) :
    run text (.choice a) inside next k place r =
      if a.refuses text place then .failed r
      else (run text a inside none k place (r.reach place)).onFailure (·.backTo inside r) := by
  rw [run]

theorem run_wrapped (a : Node) :
    run text (.wrapped a) inside next k place r = run text a inside next k place r := by rw [run]

theorem run_group (n : Nat) (a : Node) :
    run text (.group n a) inside next k place r =
      run text a inside none (fun place r => k place (r.closeGroup n place)) place
        (r.openGroup n place) := by rw [run]

/-- An empty row changes nothing in front of a node. -/
theorem run_cat_empty (a : Node) :
    run text (.cat .empty a) inside next k place r = run text a inside next k place r := by
  rw [run_cat, run_empty]

theorem Ending.orElse_failed (r : Registers) (other : Registers → Ending) :
    (Ending.failed r).orElse other = other r := rfl

theorem Ending.onFailure_failed (r : Registers) (f : Registers → Registers) :
    (Ending.failed r).onFailure f = .failed (f r) := rfl

end Dialogue.Regex
