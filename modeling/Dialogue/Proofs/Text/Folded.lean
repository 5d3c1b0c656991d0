import Mathlib.Logic.Function.Iterate
import Dialogue.Proofs.Text.Plain
import Dialogue.Proofs.Text.Trimmed

/-!
# Folding settles

A text is folded when it is trimmed, in lower case and of characters that are their own plain forms.
Folding leaves such a text alone, and no other one.

Folding does not always give a folded text. It trims and lowers first, and the plain forms may then
bring capitals to light, such as the letters of a trade mark sign, or blanks at the ends, such as
the one that a spacing accent stands on. What it gives consists of plain characters, though, and
these stay plain when they are lowered. So folding a second time gives a folded text, whatever the
text was.

Main statements: `fold_eq_self_iff`, `isFolded_fold_fold` and `settles_of_folds`; `not_settled`, two
texts that change twice.
-/

namespace Dialogue.Text

variable {c d : Char} {cs : List Char} {s t : String}

/-! ## Lower case -/

/-- A character that is its own lower case form. -/
def IsLow (c : Char) : Prop := lowerCode c.toNat = c.toNat

instance (c : Char) : Decidable (IsLow c) := instDecidableEqNat _ _

theorem lowerShifts_blank : (lowerShifts.all (·.each fun c d =>
    !isBlank (Char.ofNat d) || isBlank (Char.ofNat c))) = true := by decide +kernel

namespace Lowers

variable {piece : List Char}

theorem standsFor (lowers : Lowers c piece) : StandsFor c piece := by
  cases lowers with
  | sigma small => rcases small with rfl | rfl <;> decide
  | dotted => decide
  | other =>
    have checked := holds_lowerCode lowerShifts_blank c.toNat (Bool.not_or_self _)
    rw [Char.ofNat_toNat, Bool.or_eq_true, Bool.not_eq_true'] at checked
    refine ⟨List.cons_ne_nil _ _, List.forall_mem_singleton.2 fun blank => ?_⟩
    exact checked.resolve_left (by rw [blank]; exact Bool.noConfusion)

theorem isLow (lowers : Lowers c piece) : ∀ d ∈ piece, IsLow d := by
  cases lowers with
  | sigma small =>
    exact List.forall_mem_singleton.2 (by rcases small with rfl | rfl <;> decide +kernel)
  | dotted =>
    exact List.forall_mem_cons.2
      ⟨by decide +kernel, List.forall_mem_singleton.2 (by decide +kernel)⟩
  | other =>
    refine List.forall_mem_singleton.2 ?_
    rw [IsLow, toNat_ofNat_lowerCode, lowerCode_lowerCode]

/-- The capital with a dot becomes two characters, one of them a mark, but it is altered itself. -/
theorem plain (lowers : Lowers c piece) (unaltered : ¬ IsAltered c) :
    ∀ d ∈ piece, ¬ IsAltered d := by
  cases lowers with
  | sigma small =>
    exact List.forall_mem_singleton.2 (by rcases small with rfl | rfl <;> decide +kernel)
  | dotted => exact absurd (by decide +kernel) unaltered
  | other => exact List.forall_mem_singleton.2 (not_isAltered_lowerCode unaltered)

end Lowers

theorem isLow_of_mem_lowerChars {before : List Char} (mem : d ∈ lowerChars before cs) :
    IsLow d := by
  obtain ⟨pieces, each, same⟩ := exists_lowers before cs
  obtain ⟨c, -, piece, lowers, within⟩ := exists_of_mem_flatten each (same ▸ mem)
  exact lowers.isLow d within

/-- **Lowering keeps characters plain.** -/
theorem not_isAltered_of_mem_lowerChars {before : List Char}
    (plain : ∀ c ∈ cs, ¬ IsAltered c) (mem : d ∈ lowerChars before cs) : ¬ IsAltered d := by
  obtain ⟨pieces, each, same⟩ := exists_lowers before cs
  obtain ⟨c, mem, piece, lowers, within⟩ := exists_of_mem_flatten each (same ▸ mem)
  exact lowers.plain (plain c mem) d within

theorem Trimmed.lowerChars (before : List Char) (trimmed : Trimmed cs) :
    Trimmed (lowerChars before cs) := by
  obtain ⟨pieces, each, same⟩ := exists_lowers before cs
  rw [same]
  exact .flatten (each.imp fun _ _ lowers => lowers.standsFor) trimmed

theorem lowerChars_of_isLow {before : List Char} (low : ∀ c ∈ cs, IsLow c) :
    lowerChars before cs = cs := by
  obtain ⟨pieces, each, same⟩ := exists_lowers before cs
  rw [same]
  clear same
  induction each with
  | nil => rfl
  | @cons c piece cs pieces lowers each ih =>
    have here := low c List.mem_cons_self
    rw [List.flatten_cons, ih fun d mem => low d (List.mem_cons_of_mem c mem)]
    cases lowers with
    | sigma => exact absurd here (by decide +kernel)
    | dotted => exact absurd here (by decide +kernel)
    | other => rw [here, Char.ofNat_toNat, List.singleton_append]

theorem toList_lower (s : String) : (lower s).toList = lowerChars [] s.toList :=
  String.toList_ofList

theorem lower_eq_self_iff : lower s = s ↔ ∀ c ∈ s.toList, IsLow c := by
  rw [← String.toList_inj, toList_lower]
  constructor
  · intro same c mem
    rw [← same] at mem
    exact isLow_of_mem_lowerChars mem
  · exact lowerChars_of_isLow

theorem lower_lower (s : String) : lower (lower s) = lower s := by
  rw [lower_eq_self_iff, toList_lower]
  intro c mem
  exact isLow_of_mem_lowerChars mem

theorem strip_lower_strip (s : String) : strip (lower (strip s)) = lower (strip s) := by
  rw [strip_eq_self_iff, toList_lower, toList_strip]
  exact (trimmed_trimChars s.toList).lowerChars []

/-! ## Folded texts -/

/-- A text in the normal form of folding. -/
structure IsFolded (s : String) : Prop where
  trimmed : strip s = s
  low : lower s = s
  plain : ∀ c ∈ s.toList, plainChar c = [c]

theorem fold_of_plain (plain : ∀ c ∈ (lower (strip s)).toList, plainChar c = [c]) :
    fold s = lower (strip s) := by
  rw [fold, List.flatMap_congr plain, List.flatMap_singleton', String.ofList_toList]

theorem not_isAltered_of_mem_fold (mem : c ∈ (fold s).toList) : ¬ IsAltered c := by
  rw [toList_fold] at mem
  obtain ⟨d, -, within⟩ := List.mem_flatMap.1 mem
  exact not_isAltered_of_mem_plainChar within

/-- **A text of plain characters** is only trimmed and lowered, and then it is folded. -/
theorem fold_of_not_isAltered (plain : ∀ c ∈ s.toList, ¬ IsAltered c) :
    fold s = lower (strip s) ∧ IsFolded (lower (strip s)) := by
  have still : ∀ c ∈ (lower (strip s)).toList, plainChar c = [c] := by
    intro c mem
    rw [toList_lower, toList_strip] at mem
    exact plainChar_of_not_isAltered (not_isAltered_of_mem_lowerChars
      (fun d within => plain d (mem_of_mem_trimChars within)) mem)
  exact ⟨fold_of_plain still, strip_lower_strip s, lower_lower (strip s), still⟩

/-- **Folding leaves folded texts alone**, and no others. -/
theorem fold_eq_self_iff : fold s = s ↔ IsFolded s := by
  constructor
  · -- A text that is left alone is a result of folding, hence of plain characters.
    intro same
    have plain : ∀ c ∈ s.toList, ¬ IsAltered c := fun c mem =>
      not_isAltered_of_mem_fold (same.symm ▸ mem)
    obtain ⟨shape, folded⟩ := fold_of_not_isAltered plain
    rwa [← shape, same] at folded
  · rintro ⟨trimmed, low, plain⟩
    have shape : lower (strip s) = s := by rw [trimmed, low]
    rw [fold_of_plain (shape.symm ▸ plain), shape]

/-- **What is folded twice is folded.** -/
theorem isFolded_fold_fold (t : String) : IsFolded (fold (fold t)) := by
  obtain ⟨shape, folded⟩ := fold_of_not_isAltered fun c => not_isAltered_of_mem_fold (s := t)
  rwa [shape]

/-- **When folding settles at once**: the first result is trimmed and in lower case. -/
theorem fold_fold_eq_iff :
    fold (fold t) = fold t ↔ strip (fold t) = fold t ∧ lower (fold t) = fold t := by
  rw [fold_eq_self_iff]
  constructor
  · intro folded
    exact ⟨folded.trimmed, folded.low⟩
  · rintro ⟨trimmed, low⟩
    exact ⟨trimmed, low, fun c mem => plainChar_of_not_isAltered (not_isAltered_of_mem_fold mem)⟩

theorem lower_fold_eq_iff : lower (fold t) = fold t ↔
    ∀ c ∈ (lower (strip t)).toList, ∀ d ∈ plainChar c, IsLow d := by
  rw [lower_eq_self_iff, fold, String.toList_ofList]
  simp only [List.mem_flatMap]
  constructor
  · intro low c mem d within
    exact low d ⟨c, mem, within⟩
  · rintro low d ⟨c, mem, within⟩
    exact low c mem d within

/-- No blank comes to light where every plain form stands for its character. -/
theorem strip_fold_of_standsFor
    (stands : ∀ c ∈ (lower (strip t)).toList, StandsFor c (plainChar c)) :
    strip (fold t) = fold t := by
  have trimmed : Trimmed (lower (strip t)).toList :=
    strip_eq_self_iff.1 (strip_lower_strip t)
  rw [strip_eq_self_iff, fold, String.toList_ofList, List.flatMap_def]
  exact trimmed.flatten (List.forall₂_map_right_iff.2 (List.forall₂_same.2 stands))

/-- **Folding settles**, at the second time at the latest. What is folded holds no marks. It is left
alone by folding exactly when it is trimmed and in lower case; the latter means that no plain form
brought a capital to light, and the former holds where every plain form stands for its character.
What is folded twice is folded, so that folding any further changes nothing. -/
theorem settles_of_folds (t : String) :
    (∀ c ∈ (fold t).toList, isMark c = false) ∧
      (fold (fold t) = fold t ↔ strip (fold t) = fold t ∧ lower (fold t) = fold t) ∧
      (lower (fold t) = fold t ↔
        ∀ c ∈ (lower (strip t)).toList, ∀ d ∈ plainChar c, IsLow d) ∧
      ((∀ c ∈ (lower (strip t)).toList, StandsFor c (plainChar c)) →
        strip (fold t) = fold t) ∧
      IsFolded (fold (fold t)) ∧ ∀ n, fold^[n + 2] t = fold (fold t) := by
  have unmarked : ∀ c ∈ (fold t).toList, isMark c = false := fun c mem =>
    isMark_of_not_isAltered (not_isAltered_of_mem_fold mem)
  have folded := isFolded_fold_fold t
  refine ⟨unmarked, fold_fold_eq_iff, lower_fold_eq_iff, strip_fold_of_standsFor, folded, ?_⟩
  intro n
  rw [Function.iterate_add_apply]
  exact Function.iterate_fixed (fold_eq_self_iff.2 folded) n

/-- Accents and case are gone after the first time. -/
theorem settles_of_folds_accented :
    (∀ c ∈ (lower (strip " Atrás ")).toList, StandsFor c (plainChar c)) ∧
      fold " Atrás " = "atras" ∧ fold (fold " Atrás ") = fold " Atrás " := by
  have checked : (lower (strip " Atrás ")).toList.all
      (fun c => decide (StandsFor c (plainChar c))) = true := by decide +kernel
  have stands : ∀ c ∈ (lower (strip " Atrás ")).toList, StandsFor c (plainChar c) := fun c mem =>
    of_decide_eq_true (List.all_eq_true.1 checked c mem)
  obtain ⟨-, settles, -, trimmed, -, -⟩ := settles_of_folds " Atrás "
  exact ⟨stands, by decide +kernel, settles.2 ⟨trimmed stands, by decide +kernel⟩⟩

/-- A spacing accent leaves a blank in front, and a trade mark sign leaves capitals. -/
theorem not_settled :
    fold (fold "´salir") ≠ fold "´salir" ∧ fold (fold "Marca™") ≠ fold "Marca™" := by
  decide +kernel

end Dialogue.Text
