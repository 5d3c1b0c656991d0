import Dialogue.Regex.Character

/-!
# Alternatives

Alternatives are rows of pieces. Leaves that all of them begin with are taken out in front, and
where each is then a single character or a plain set, together they are one set.

Main statement: `takeCommon_append`, what is taken out in front and what is left make up the first
alternative.
-/

namespace Dialogue.Regex

/-- Takes out the leaves that a row and several others all begin with: those leaves, and what is
left of the row and of the others. -/
def takeCommon : List Node → List (List Node) → List Node × List Node × List (List Node)
  | [], others => ([], [], others)
  | node :: rest, others =>
    if others.all fun other => other.head?.any node.sameLeaf then
      let (common, first, others) := takeCommon rest (others.map List.tail)
      (node :: common, first, others)
    else ([], node :: rest, others)

/-- The members of the set that a row stands for, when it is one character or one plain set. -/
def members? : List Node → Option (List SetItem)
  | [.char (.code code false) _] => some [.one code]
  | [.char (.set items false) _] => some items
  | _ => none

/-- One of several rows. -/
def choiceOf (mode : Mode) (first : List Node) (others : List (List Node)) : Node :=
  match (first :: others).mapM members? with
  | some items => .leaf (.set items.flatten.eraseDups false) mode
  | none => .oneOf (.row first) (others.map Node.row)

/-- Alternatives, in the mode in force around them. -/
def alternatives (mode : Mode) (first : Node) (others : List Node) : Node :=
  if others.isEmpty then first
  else
    let (common, first, others) := takeCommon first.items (others.map Node.items)
    .row (common ++ (choiceOf mode first others).items)

theorem takeCommon_append (row : List Node) (others : List (List Node)) :
    (takeCommon row others).1 ++ (takeCommon row others).2.1 = row := by
  induction row generalizing others with
  | nil => rfl
  | cons node rest ih =>
    rw [takeCommon]
    split
    · exact congrArg (node :: ·) (ih (others.map List.tail))
    · rfl

/-- A single alternative is itself. -/
theorem alternatives_nil (mode : Mode) (first : Node) : alternatives mode first [] = first := rfl

end Dialogue.Regex
