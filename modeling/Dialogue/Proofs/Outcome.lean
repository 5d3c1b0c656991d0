import Dialogue.Outcome

/-!
# Outcomes written as texts

The ids of steps share one space of texts with the reserved words and with the texts of switches.
A text that is read as an outcome and written again stays the same, save that nothing written
becomes the end. Conversely an outcome is read back from its own text, unless it goes on to a step
whose id is reserved: that text is read as something else.

Main statements: `ofText_cases`, what a text is read as, and `reads_back`.
-/

namespace Dialogue.Outcome

/-- A text that is no id of a step: nothing, a reserved word, or a text with the mark of a
switch. -/
def IsReserved (s : String) : Prop :=
  s = "" ∨ s = "END" ∨ s = "TRANSFER" ∨ switchMark.toList <+: s.toList

/-- An outcome that goes on to a step whose id is reserved. -/
def IsShadowed : Outcome → Prop
  | .next step => IsReserved step
  | .switchTo _ | .transfer | .complete => False

theorem switchTarget?_eq_none_iff {s : String} :
    switchTarget? s = none ↔ ¬ switchMark.toList <+: s.toList := by
  simp [switchTarget?]

/-- The text of a switch is no reserved word. -/
theorem ofText_mark (flow : String) : ofText (switchMark ++ flow) = .switchTo flow := by
  have ne (word : String) (short : ¬ switchMark.toList <+: word.toList) :
      switchMark ++ flow ≠ word := by
    rintro rfl
    exact short ⟨flow.toList, String.toList_append.symm⟩
  have none_ := ne "" (by decide)
  have notEnd := ne "END" (by decide)
  have notTransfer := ne "TRANSFER" (by decide)
  simp only [ofText, none_, notEnd, notTransfer, or_self, if_false, switchTarget?_mark]

/-- **What a text is read as.** -/
theorem ofText_cases (s : String) :
    s = "" ∧ ofText s = .complete ∨ s = "END" ∧ ofText s = .complete ∨
      s = "TRANSFER" ∧ ofText s = .transfer ∨
      (∃ flow, s = switchMark ++ flow ∧ ofText s = .switchTo flow) ∨
      ¬ IsReserved s ∧ ofText s = .next s := by
  by_cases none_ : s = ""
  · exact .inl ⟨none_, none_ ▸ rfl⟩
  by_cases ending : s = "END"
  · exact .inr (.inl ⟨ending, ending ▸ rfl⟩)
  by_cases transfer : s = "TRANSFER"
  · exact .inr (.inr (.inl ⟨transfer, transfer ▸ rfl⟩))
  refine .inr (.inr (.inr ?_))
  cases target : switchTarget? s with
  | some flow =>
    have marked := eq_of_switchTarget? target
    exact .inl ⟨flow, marked, marked ▸ ofText_mark flow⟩
  | none =>
    have unmarked := switchTarget?_eq_none_iff.1 target
    refine .inr ⟨not_or.2 ⟨none_, not_or.2 ⟨ending, not_or.2 ⟨transfer, unmarked⟩⟩⟩, ?_⟩
    simp only [ofText, none_, ending, transfer, or_self, if_false, target]

/-- **A text is written as it was read**, unless it is empty. -/
theorem text_ofText (s : String) : (ofText s).text = if s = "" then "END" else s := by
  rcases ofText_cases s with ⟨rfl, -⟩ | ⟨rfl, -⟩ | ⟨rfl, -⟩ | ⟨flow, rfl, reads⟩ | ⟨plain, reads⟩
  · rfl
  · rfl
  · rfl
  · have filled : switchMark ++ flow ≠ "" := by
      intro none_
      cases reads.symm.trans (none_ ▸ ofText_empty)
    rw [reads, if_neg filled, text]
  · rw [reads, if_neg fun none_ => plain (.inl none_), text]

/-- No text is read as a step with a reserved id. -/
theorem not_isShadowed_ofText (s : String) : ¬ (ofText s).IsShadowed := by
  rcases ofText_cases s with ⟨-, reads⟩ | ⟨-, reads⟩ | ⟨-, reads⟩ | ⟨flow, -, reads⟩ | ⟨plain, reads⟩
  · exact reads ▸ id
  · exact reads ▸ id
  · exact reads ▸ id
  · exact reads ▸ id
  · exact reads ▸ plain

/-- **An outcome is read back from its text** exactly when it goes on to no reserved id. -/
theorem ofText_text_iff {o : Outcome} : ofText o.text = o ↔ ¬ o.IsShadowed := by
  constructor
  · intro same
    exact same ▸ not_isShadowed_ofText o.text
  · intro clear
    cases o with
    | next step =>
      rcases ofText_cases step with ⟨rfl, -⟩ | ⟨rfl, -⟩ | ⟨rfl, -⟩ | ⟨flow, rfl, -⟩ | ⟨-, reads⟩
      · exact absurd (.inl rfl) clear
      · exact absurd (.inr (.inl rfl)) clear
      · exact absurd (.inr (.inr (.inl rfl))) clear
      · exact absurd (.inr (.inr (.inr ⟨flow.toList, String.toList_append.symm⟩))) clear
      · exact reads
    | switchTo flow => exact ofText_mark flow
    | transfer => rfl
    | complete => rfl

/-- **Texts and outcomes.** Reading a text and writing what was read gives the text again, or the
word for the end when the text is empty or missing. Writing an outcome and reading its text gives
the outcome again exactly when it does not go on to a step whose id is empty, a reserved word, or
begins with the mark of a switch. -/
theorem reads_back :
    (∀ s : String, (ofText? (some s)).text = if s = "" then "END" else s) ∧
      (ofText? none).text = "END" ∧
      ∀ o : Outcome, ofText? (some o.text) = o ↔ ¬ o.IsShadowed :=
  ⟨text_ofText, rfl, fun _ => ofText_text_iff⟩

end Dialogue.Outcome
