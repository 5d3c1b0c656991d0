import Dialogue.Regex.Syntax

/-!
# Widths of expressions

The least and the greatest number of characters that an expression takes. Both are counted up to a
limit, and the limit of the least width is one below that of the greatest, so that an expression
wider than both has no fixed width. A search uses the least width, a lookbehind needs both to agree.

Main statement: `width_least_le`, the least width stays within its limit.
-/

namespace Dialogue.Regex

/-- No expression is counted wider than this, nor a repetition longer. -/
def widthLimit : Nat := 4294967295

/-- The widths of the groups, by their numbers. -/
abbrev GroupWidths := List (Nat × Nat × Nat)

/-- A least and a greatest width within their limits. -/
def capped (least most : Nat) : Nat × Nat := (min least (widthLimit - 1), min most widthLimit)

/-- The least and the greatest number of characters that an expression takes. -/
def Node.width (groups : GroupWidths) : Node → Nat × Nat
  | .empty | .never | .anchor _ _ | .ahead _ _ | .behind _ _ _ _ => (0, 0)
  | .char _ _ => (1, 1)
  | .cat a b =>
    let (least, most) := a.width groups
    let (least', most') := b.width groups
    capped (least + least') (most + most')
  | .alt a b | .ifGroup _ a b =>
    let (least, most) := a.width groups
    let (least', most') := b.width groups
    capped (min least least') (max most most')
  | .repeated _ low high body =>
    let (least, most) := body.width groups
    capped (least * low) (most * high.getD widthLimit)
  | .choice body | .wrapped body | .group _ body | .atomic body => body.width groups
  | .reference n _ => let (least, most) := (groups.lookup n).getD (0, 0); capped least most

theorem width_least_le (groups : GroupWidths) (node : Node) :
    (node.width groups).1 ≤ widthLimit - 1 := by
  induction node with
  | empty | never | anchor _ _ | ahead _ _ | behind _ _ _ _ => exact Nat.zero_le _
  | char _ _ => exact Nat.le_of_ble_eq_true rfl
  | cat | alt | repeated | reference | ifGroup => exact Nat.min_le_right ..
  | choice _ ih | wrapped _ ih | group _ _ ih | atomic _ ih => exact ih

end Dialogue.Regex
