/-!
# Registers

What a match keeps beside its place: the place that was reached last, and the marks of the groups,
two for each. The registers outlive the attempt that wrote them. An attempt that fails hands them
on, and only where another way is tried from the same place are marks taken back: those that the
failed attempt added, and inside a repetition also those that it changed.

Main statements: `span?_openGroup_closeGroup`, a group that opens and closes has the span between,
and `backTo_self`, taking back nothing changes nothing.
-/

namespace Dialogue.Regex

/-- What a match keeps beside its place. -/
structure Registers where
  /-- The place that was reached last. -/
  reached : Nat
  /-- The marks: group `n` opens at mark `2 n - 2` and closes at mark `2 n - 1`. -/
  marks : List (Option Nat)

namespace Registers

/-- The registers at the start of an attempt. -/
def start (place : Nat) : Registers := ⟨place, []⟩

/-- Notes the place that is reached. -/
def reach (r : Registers) (place : Nat) : Registers := { r with reached := place }

/-- Sets a mark. Marks before it that were never set are blank. -/
def mark (r : Registers) (i place : Nat) : Registers :=
  { r with marks :=
      if i < r.marks.length then r.marks.set i (some place)
      else r.marks ++ List.replicate (i - r.marks.length) none ++ [some place] }

/-- Marks where a group opens. -/
def openGroup (r : Registers) (group place : Nat) : Registers := r.mark (2 * group - 2) place

/-- Marks where a group closes. -/
def closeGroup (r : Registers) (group place : Nat) : Registers := r.mark (2 * group - 1) place

/-- Takes back marks after a failed attempt: all changes inside a repetition, elsewhere only the
marks that are new. -/
def backTo (r : Registers) (inside : Bool) (saved : Registers) : Registers :=
  { r with marks := if inside then saved.marks else r.marks.take saved.marks.length }

/-- Where a group opened and where it closed. -/
def span? (r : Registers) (group : Nat) : Option (Nat × Nat) :=
  match r.marks[2 * group - 2]?, r.marks[2 * group - 1]? with
  | some (some low), some (some high) => some (low, high)
  | _, _ => none

/-- The span of a group that closed no earlier than it opened. -/
def captured? (r : Registers) (group : Nat) : Option (Nat × Nat) :=
  (r.span? group).filter fun (low, high) => low ≤ high

/-- Some group closed earlier than it opened. -/
def isTwisted (r : Registers) : Bool :=
  (List.range r.marks.length).any fun group =>
    match r.span? (group + 1) with
    | some (low, high) => high < low
    | none => false

/-! ## Lemmas -/

theorem reached_reach (r : Registers) (place : Nat) : (r.reach place).reached = place := rfl

theorem marks_reach (r : Registers) (place : Nat) : (r.reach place).marks = r.marks := rfl

theorem backTo_self (r : Registers) (inside : Bool) : r.backTo inside r = r := by
  cases inside <;> simp [backTo]

/-- A mark that was set holds its place. -/
theorem getElem?_mark (r : Registers) (i place : Nat) :
    (r.mark i place).marks[i]? = some (some place) := by
  by_cases h : i < r.marks.length
  · simp [mark, h]
  · have long : (r.marks ++ List.replicate (i - r.marks.length) none).length = i := by
      simp only [List.length_append, List.length_replicate]; omega
    have last := List.getElem?_concat_length
      (l := r.marks ++ List.replicate (i - r.marks.length) none) (a := some place)
    rw [long] at last
    simpa only [mark, if_neg h] using last

/-- Setting a mark leaves those before it. -/
theorem getElem?_mark_of_lt (r : Registers) {i j : Nat} (place : Nat)
    (h : j < r.marks.length) (ne : i ≠ j) : (r.mark i place).marks[j]? = r.marks[j]? := by
  by_cases hi : i < r.marks.length
  · simp [mark, hi, ne]
  · simp [mark, hi, List.append_assoc, List.getElem?_append_left h]

/-- A group that opens and closes has the span between. -/
theorem span?_openGroup_closeGroup (r : Registers) (n low high : Nat) :
    ((r.openGroup (n + 1) low).closeGroup (n + 1) high).span? (n + 1) = some (low, high) := by
  have opened := getElem?_mark r (2 * (n + 1) - 2) low
  have closed := getElem?_mark (r.openGroup (n + 1) low) (2 * (n + 1) - 1) high
  have kept := getElem?_mark_of_lt (i := 2 * (n + 1) - 1) (r.openGroup (n + 1) low) high
    (List.getElem?_eq_some_iff.1 opened).1 (by omega)
  rw [closeGroup, span?, kept, closed]
  rw [openGroup, opened]

end Registers

end Dialogue.Regex
