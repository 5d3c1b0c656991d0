import Mathlib.Data.List.Forall2
import Dialogue.Text.Blank

/-!
# Trimmed texts

Trimming leaves no blank at either end, and it leaves a text alone that has none there. When each
character of a trimmed text is replaced by a piece that is not empty and brings in no blank, the
pieces make a trimmed text.

Main statements: `trimmed_trimChars`, `strip_eq_self_iff` and `Trimmed.flatten`.
-/

namespace Dialogue.Text

/-- Characters that neither begin nor end with a blank. -/
def Trimmed (cs : List Char) : Prop :=
  (∀ c ∈ cs.head?, isBlank c = false) ∧ ∀ c ∈ cs.getLast?, isBlank c = false

variable {c d : Char} {cs : List Char} {pieces : List (List Char)} {s : String}

/-- **What is trimmed** neither begins nor ends with a blank. -/
theorem trimmed_trimChars (cs : List Char) : Trimmed (trimChars isBlank cs) := by
  constructor
  · intro c mem
    obtain ⟨rest, cut⟩ : trimChars isBlank cs <+: cs.dropWhile isBlank :=
      List.reverse_suffix.1 (by simpa [trimChars] using List.dropWhile_suffix isBlank)
    have first := List.head?_dropWhile_not isBlank cs
    rw [← cut, List.head?_append, Option.mem_def.1 mem] at first
    exact first
  · intro c mem
    have last := List.head?_dropWhile_not isBlank (cs.dropWhile isBlank).reverse
    rw [trimChars, List.getLast?_reverse, Option.mem_def] at mem
    rw [mem] at last
    exact last

/-- Nothing is trimmed from characters that neither begin nor end with a blank. -/
theorem Trimmed.trimChars_eq (trimmed : Trimmed cs) : trimChars isBlank cs = cs := by
  obtain ⟨first, last⟩ := trimmed
  have front : cs.dropWhile isBlank = cs := by
    cases cs with
    | nil => rfl
    | cons c cs => rw [List.dropWhile_cons_of_neg (by simp [first c rfl])]
  have back : cs.reverse.dropWhile isBlank = cs.reverse := by
    rw [← List.head?_reverse] at last
    cases reversed : cs.reverse with
    | nil => rfl
    | cons c rest =>
      rw [reversed] at last
      rw [List.dropWhile_cons_of_neg (by simp [last c rfl])]
  rw [trimChars, front, back, List.reverse_reverse]

theorem strip_eq_self_iff : strip s = s ↔ Trimmed s.toList := by
  rw [← String.toList_inj, toList_strip]
  constructor
  · intro same
    exact same ▸ trimmed_trimChars s.toList
  · exact Trimmed.trimChars_eq

theorem mem_of_mem_trimChars {p : Char → Bool} (mem : c ∈ trimChars p cs) : c ∈ cs := by
  rw [trimChars, List.mem_reverse] at mem
  have kept := (List.dropWhile_suffix p).mem mem
  exact (List.dropWhile_suffix p).mem (List.mem_reverse.1 kept)

/-! ## Texts piece by piece -/

/-- A piece stands for a character: it is not empty, and without blanks unless the character is
blank. -/
def StandsFor (c : Char) (piece : List Char) : Prop :=
  piece ≠ [] ∧ ∀ d ∈ piece, isBlank d = true → isBlank c = true

instance (c : Char) (piece : List Char) : Decidable (StandsFor c piece) :=
  @instDecidableAnd _ _ inferInstance (List.decidableBAll _ _)

theorem StandsFor.isBlank {piece : List Char} (stands : StandsFor c piece) (mem : d ∈ piece)
    (filled : isBlank c = false) : Text.isBlank d = false :=
  Bool.eq_false_iff.2 fun blank => Bool.false_ne_true (filled.symm.trans (stands.2 d mem blank))

theorem exists_of_mem_flatten {R : Char → List Char → Prop} (each : List.Forall₂ R cs pieces)
    (mem : d ∈ pieces.flatten) : ∃ c ∈ cs, ∃ piece, R c piece ∧ d ∈ piece := by
  induction each with
  | nil => cases mem
  | @cons c piece cs pieces related each ih =>
    rw [List.flatten_cons, List.mem_append] at mem
    rcases mem with here | later
    · exact ⟨c, List.mem_cons_self, piece, related, here⟩
    · obtain ⟨c', mem', found⟩ := ih later
      exact ⟨c', List.mem_cons_of_mem c mem', found⟩

/-- **Pieces for trimmed characters** are trimmed together. -/
theorem Trimmed.flatten (each : List.Forall₂ StandsFor cs pieces) (trimmed : Trimmed cs) :
    Trimmed pieces.flatten := by
  obtain ⟨first, last⟩ := trimmed
  constructor
  · cases each with
    | nil => exact first
    | @cons c piece cs pieces stands each =>
      obtain ⟨d, piece, rfl⟩ := List.exists_cons_of_ne_nil stands.1
      simpa using stands.isBlank List.mem_cons_self (first c rfl)
  · clear first
    induction each with
    | nil => exact last
    | @cons c piece cs pieces stands each ih =>
      cases each with
      | nil =>
        intro d mem
        rw [List.flatten_singleton] at mem
        exact stands.isBlank (List.mem_of_getLast? mem) (last c rfl)
      | @cons c' piece' cs pieces stands' each =>
        -- The end is the end of the other pieces, as they are not empty.
        have filled : (piece' :: pieces).flatten ≠ [] := by simp [stands'.1]
        rw [List.flatten_cons, List.getLast?_append,
          Option.or_of_isSome (List.getLast?_isSome.2 filled)]
        exact ih fun d mem => last d (by rwa [List.getLast?_cons_cons])

end Dialogue.Text
