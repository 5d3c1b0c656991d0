/-!
# Searching in a text

Whether a text occurs in another, and removing its first occurrence.

Main statement: `occursIn_iff`, a text occurs exactly when the other is something, it, and
something.
-/

namespace Dialogue.Text

/-- Whether `needle` begins somewhere in the characters. -/
def occurs (needle : List Char) : List Char → Bool
  | [] => needle.isEmpty
  | c :: cs => needle.isPrefixOf (c :: cs) || occurs needle cs

/-- Whether `needle` occurs in `s`. -/
def occursIn (needle s : String) : Bool := occurs needle.toList s.toList

/-- The characters without the first occurrence of `needle`. -/
def dropFirst (needle : List Char) : List Char → List Char
  | [] => []
  | c :: cs =>
    if needle.isPrefixOf (c :: cs) then (c :: cs).drop needle.length
    else c :: dropFirst needle cs

/-- A text without the first occurrence of `needle`. -/
def removeFirst (needle s : String) : String := String.ofList (dropFirst needle.toList s.toList)

theorem occurs_iff (needle cs : List Char) :
    occurs needle cs = true ↔ ∃ before after, cs = before ++ needle ++ after := by
  induction cs with
  | nil =>
    simp only [occurs, List.isEmpty_iff]
    constructor
    · rintro rfl; exact ⟨[], [], rfl⟩
    · rintro ⟨before, after, h⟩
      have hn := List.append_eq_nil_iff.1 h.symm
      exact (List.append_eq_nil_iff.1 hn.1).2
  | cons c cs ih =>
    simp only [occurs, Bool.or_eq_true, List.isPrefixOf_iff_prefix, ih]
    constructor
    · rintro (⟨after, h⟩ | ⟨before, after, h⟩)
      · exact ⟨[], after, h.symm⟩
      · exact ⟨c :: before, after, by simp [h]⟩
    · rintro ⟨before, after, h⟩
      cases before with
      | nil => exact .inl ⟨after, h.symm⟩
      | cons b before =>
        simp only [List.cons_append, List.cons.injEq] at h
        exact .inr ⟨before, after, h.2⟩

theorem occursIn_iff (needle s : String) :
    occursIn needle s = true ↔
      ∃ before after, s.toList = before ++ needle.toList ++ after := occurs_iff _ _

end Dialogue.Text
