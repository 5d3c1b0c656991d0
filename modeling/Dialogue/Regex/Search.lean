import Dialogue.Regex.Matcher
import Dialogue.Regex.Width

/-!
# Searching for matches

A pattern is searched in a text by trying the places in turn. Which places are tried follows from
the pattern alone: a text shorter than the least width has none; where the pattern must begin with
one of some written characters, only their places count; otherwise the last places, which leave less
than the least width, are left out.

Main statement: `mem_places_le`, no place is beyond the end of the text.
-/

namespace Dialogue.Regex

/-- A pattern that can be searched for. -/
structure Pattern where
  root : Node
  /-- The least number of characters that a match takes. -/
  least : Nat
  /-- The whole pattern knows ASCII classes only. -/
  ascii : Bool

/-! ## Beginnings -/

/-- What is known of the first character of an expression. -/
inductive Beginning where
  /-- The expression is empty, so what follows it decides. -/
  | undecided
  /-- It is this character. -/
  | code (code : Nat)
  | unknown

namespace Node

/-- The character that a match begins with, when it is written at the very front. -/
def beginning : Node → Beginning
  | .empty => .undecided
  | .char (.code code false) mode => if mode.ignoreCase then .unknown else .code code
  | .cat first second =>
    match first.beginning with
    | .undecided => second.beginning
    | known => known
  | .wrapped body | .group _ body => body.beginning
  | _ => .unknown

/-- The code point that an alternative begins with, as it is written. -/
def writtenCode? : Node → Option Nat
  | .char (.code code false) mode => if mode.ignoreCase then none else some code
  | .cat first _ => first.writtenCode?
  | _ => none

/-- The code points that alternatives begin with, when each has one. -/
def writtenCodes? : Node → Option (List Nat)
  | .choice body => body.writtenCode?.map ([·])
  | .alt first second => do return (← first.writtenCodes?) ++ (← second.writtenCodes?)
  | _ => none

/-- A test that the first character passes, when a set or alternatives stand at the front. -/
def frontTest? : Node → Option CharTest
  | .char (.code code negated) mode =>
    if negated || mode.ignoreCase then none else some (.code code false)
  | .char (.set items negated) mode => if mode.ignoreCase then none else some (.set items negated)
  | .cat first _ => first.frontTest?
  | .wrapped body | .group _ body => body.frontTest?
  | node => node.writtenCodes?.map fun codes => .set (codes.map .one) false

end Node

namespace Pattern

/-- A test that the first character of a match passes. Classes of characters are those of the whole
pattern, also where a group has others. -/
def firstTest? (p : Pattern) : Option CharTest :=
  match p.root.beginning with
  | .code code => some (.code code false)
  | _ => p.root.frontTest?

/-- The places where matches are tried, in order. -/
def places (p : Pattern) (text : Array Char) : List Nat :=
  if p.least = 0 then List.range (text.size + 1)
  else if text.size < p.least then []
  else match p.firstTest? with
    | some test => (List.range text.size).filter (test.holdsAt text ⟨false, p.ascii⟩)
    | none => List.range (text.size - p.least + 2)

/-- The registers of the first match in a text. -/
def find? (p : Pattern) (text : Array Char) : Option Registers :=
  (p.places text).findSome? fun place =>
    let e := p.root.matchFrom text place
    if e.matched then some e.registers else none

/-- No place is beyond the end of the text. -/
theorem mem_places_le {p : Pattern} {text : Array Char} {place : Nat}
    (h : place ∈ p.places text) : place ≤ text.size := by
  rw [places] at h
  split at h
  · exact Nat.le_of_lt_succ (List.mem_range.1 h)
  · next nonzero =>
    split at h
    · simp at h
    · next wide =>
      split at h
      · exact Nat.le_of_lt (List.mem_range.1 (List.mem_filter.1 h).1)
      · have := List.mem_range.1 h
        omega

end Pattern

end Dialogue.Regex
