import Dialogue.Content.Basic
import Dialogue.Table
import Dialogue.Wording

/-!
# Grouping rows

Rows that carry a label are gathered into sections, one for each label, in the order in which the
labels first occur. A missing or empty label stands for the default title.

Main statement: `get?_gather`, the rows under a label are the rows that carry it, in order.
-/

namespace Dialogue

/-- The label that counts. -/
def effectiveLabel : Option String → String
  | none | some "" => Wording.sectionTitle
  | some label => label

/-- Puts a row at the end of the rows with its label. -/
def addRow (groups : Table (List Row)) (labelled : Option String × Row) : Table (List Row) :=
  let label := effectiveLabel labelled.1
  groups.set label ((groups.get? label).getD [] ++ [labelled.2])

/-- The rows under each label. -/
def gather (rows : List (Option String × Row)) : Table (List Row) := rows.foldl addRow []

/-- Rows in sections by their labels. -/
def groupRows (rows : List (Option String × Row)) : List Section :=
  (gather rows).map fun (label, rows) => Section.of (some label) rows

theorem getD_get?_foldl_addRow (groups : Table (List Row)) (rows : List (Option String × Row))
    (label : String) :
    ((rows.foldl addRow groups).get? label).getD [] =
      (groups.get? label).getD [] ++
        (rows.filter fun r => effectiveLabel r.1 = label).map (·.2) := by
  induction rows generalizing groups with
  | nil => simp
  | cons r rest ih =>
    rw [List.foldl_cons, ih]
    unfold addRow
    by_cases h : effectiveLabel r.1 = label
    · simp [h]
    · simp [Table.get?_set, h]

theorem get?_gather (rows : List (Option String × Row)) (label : String) :
    ((gather rows).get? label).getD [] =
      (rows.filter fun r => effectiveLabel r.1 = label).map (·.2) := by
  simp [gather, getD_get?_foldl_addRow]

end Dialogue
