/-!
# Syntax of regular expressions

An expression is a tree. Its leaves test one character or the place between two characters; its
inner nodes put expressions in a row, offer alternatives, repeat, capture, look around, refer back
to a captured text, or decide by it. The options that were in force where a leaf was written are
kept in the leaf, so the meaning of a tree needs nothing else.

A row has a normal form, in which it is the list of its pieces: `items_row` gives the pieces back.
-/

namespace Dialogue.Regex

/-- How a leaf compares characters. -/
structure Mode where
  /-- Letters that differ in case alone are the same. -/
  ignoreCase : Bool
  /-- The character classes and the case rules know ASCII only. -/
  ascii : Bool
  deriving DecidableEq

/-- The character classes that have a letter of their own. -/
inductive Category where
  | digit
  | blank
  | word
  deriving DecidableEq

/-- One member of a character set. -/
inductive SetItem where
  | one (code : Nat)
  | span (low high : Nat)
  | category (kind : Category) (negated : Bool)
  deriving DecidableEq

/-- A test of a single character. -/
inductive CharTest where
  | code (code : Nat) (negated : Bool)
  | any
  | anyButNewline
  | set (items : List SetItem) (negated : Bool)
  deriving DecidableEq

/-- A test of a place in the text. -/
inductive Anchor where
  | textStart
  | lineStart
  | textEnd
  | lineEnd
  | lastLineEnd
  | wordEdge
  | noWordEdge
  deriving DecidableEq

/-- How many rounds a repetition prefers, and whether it gives rounds back. -/
inductive Greed where
  | greedy
  | lazy
  | possessive
  deriving DecidableEq

/-- A regular expression. -/
inductive Node where
  | empty
  | never
  | char (test : CharTest) (mode : Mode)
  | anchor (place : Anchor) (mode : Mode)
  | cat (first second : Node)
  | alt (first second : Node)
  /-- One of several alternatives. -/
  | choice (body : Node)
  /-- A group that does nothing but change options. -/
  | wrapped (body : Node)
  | repeated (greed : Greed) (least : Nat) (most : Option Nat) (body : Node)
  | group (index : Nat) (body : Node)
  | atomic (body : Node)
  | ahead (negated : Bool) (body : Node)
  | behind (negated : Bool) (least most : Nat) (body : Node)
  | reference (group : Nat) (mode : Mode)
  | ifGroup (group : Nat) (yes no : Node)

namespace Node

/-- Expressions in a row. -/
def row : List Node → Node
  | [] => .empty
  | [node] => node
  | node :: rest => .cat node (row rest)

/-- The pieces of a row. -/
def items : Node → List Node
  | .empty => []
  | .cat first second => first.items ++ second.items
  | node => [node]

/-- The first and further alternatives. -/
def oneOf : Node → List Node → Node
  | first, [] => .choice first
  | first, next :: rest => .alt (.choice first) (oneOf next rest)

/-- The test of an expression that takes exactly one character. -/
def leaf? : Node → Option (CharTest × Mode)
  | .char test mode => some (test, mode)
  | .wrapped body => body.leaf?
  | _ => none

/-- Leaves that are written the same way. Whatever has parts is like nothing else. -/
def sameLeaf : Node → Node → Bool
  | .never, .never => true
  | .char a _, .char b _ => a = b
  | .anchor a _, .anchor b _ => a = b
  | .reference a _, .reference b _ => a = b
  | _, _ => false

/-- A row gives back its pieces when each is a single one. -/
theorem items_row {nodes : List Node} (single : ∀ node ∈ nodes, node.items = [node]) :
    (row nodes).items = nodes := by
  induction nodes with
  | nil => rfl
  | cons node rest ih =>
    have head := single node (List.mem_cons_self ..)
    have tail := ih fun x hx => single x (List.mem_cons_of_mem _ hx)
    cases rest with
    | nil => exact head
    | cons next more =>
      show (Node.cat node (row (next :: more))).items = _
      rw [items, head, tail, List.singleton_append]

end Node

end Dialogue.Regex
