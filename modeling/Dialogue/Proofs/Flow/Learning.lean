import Dialogue.Proofs.Effect
import Dialogue.Flow.Turn

/-!
# What turns learn

A turn keeps what the conversation has learned and may add to it: the answer to the step, and the
flow that was left. Both are texts, so what is learned beyond texts was there before.

Main statements: `data_of_start` and `addsTexts_of_answer`.
-/

namespace Dialogue

open Effect

/-- Fields that hold entries from before, and texts. -/
def AddsTexts (before after : Fields) : Prop :=
  ∀ entry ∈ after, entry ∈ before ∨ ∃ s, entry.2 = .str s

namespace AddsTexts

variable {before after : Fields}

theorem refl (fields : Fields) : AddsTexts fields fields := fun _ mem => .inl mem

theorem set (adds : AddsTexts before after) (key s : String) :
    AddsTexts before (Table.set after key (.str s)) := by
  intro entry mem
  rcases Table.mem_of_mem_set mem with rfl | mem
  · exact .inr ⟨s, rfl⟩
  · exact adds entry mem

theorem keep (adds : AddsTexts before after) (step : Step) (answer : String) :
    AddsTexts before (step.keep answer after) := by
  unfold Step.keep
  split
  · split
    · exact adds
    · exact adds.set _ answer
  · exact adds

end AddsTexts

namespace Turn

variable {registry : Registry} {address : Address} {b c : Backend} {code : String} {flow : Flow}
  {before data : Fields} {t : Turn}

/-! ## Starting and switching -/

/-- A turn that shows the initial step of a flow learns nothing more. -/
theorem data_of_start {start? : Option String}
    (ran : runFrom b (start registry address start? data) = (.ok (some t), c)) : t.data = data := by
  unfold start at ran
  split at ran
  · obtain ⟨-, d, -, ran⟩ := runFrom_bind_eq_ok_iff.1 ran
    cases ran
  · obtain ⟨message, d, -, ran⟩ := runFrom_bind_eq_ok_iff.1 ran
    obtain ⟨-, e, -, ran⟩ := runFrom_bind_eq_ok_iff.1 ran
    cases ran
    rfl

theorem addsTexts_of_switch {target : String} (adds : AddsTexts before data)
    (ran : runFrom b (switch registry address code target data) = (.ok (some t), c)) :
    AddsTexts before t.data := by
  unfold switch at ran
  split at ran
  · obtain ⟨-, d, -, ran⟩ := runFrom_bind_eq_ok_iff.1 ran
    cases ran
  · obtain ⟨message, d, -, ran⟩ := runFrom_bind_eq_ok_iff.1 ran
    obtain ⟨-, e, -, ran⟩ := runFrom_bind_eq_ok_iff.1 ran
    cases ran
    exact adds.set previousFlowKey code

/-! ## Answering -/

/-- A turn that closes its flow learns nothing more. -/
theorem data_of_closing {status : Status} {e : Event} {made : Except Fault Message}
    (ran : runFrom b (do
        Lookup.note e
        let message ← Lookup.ofExcept made
        return (⟨status, message, code, none, data⟩ : Turn)) = (.ok t, c)) : t.data = data := by
  obtain ⟨-, d, -, ran⟩ := runFrom_bind_eq_ok_iff.1 ran
  obtain ⟨message, e, -, ran⟩ := runFrom_bind_eq_ok_iff.1 ran
  cases ran
  rfl

theorem data_of_advance {step : Step}
    (ran : runFrom b (advance address code step data) = (.ok t, c)) : t.data = data := by
  unfold advance at ran
  obtain ⟨message, d, -, ran⟩ := runFrom_bind_eq_ok_iff.1 ran
  split at ran
  · obtain ⟨-, e, -, ran⟩ := runFrom_bind_eq_ok_iff.1 ran
    cases ran
    rfl
  · obtain ⟨-, e, -, ran⟩ := runFrom_bind_eq_ok_iff.1 ran
    cases ran
    rfl

theorem data_of_restate {step : Step} {status : Status} {notice : Option String}
    (ran : runFrom b (restate address code step data status notice) = (.ok t, c)) :
    t.data = data := by
  unfold restate at ran
  obtain ⟨message, d, -, ran⟩ := runFrom_bind_eq_ok_iff.1 ran
  obtain ⟨-, e, -, ran⟩ := runFrom_bind_eq_ok_iff.1 ran
  cases ran
  rfl

theorem addsTexts_of_follow {outcome : Outcome} (adds : AddsTexts before data)
    (ran : runFrom b (follow registry address code flow data outcome) = (.ok (some t), c)) :
    AddsTexts before t.data := by
  cases outcome with
  | complete =>
    rw [follow, ← bind_pure_comp] at ran
    obtain ⟨u, d, ended, ran⟩ := runFrom_bind_eq_ok_iff.1 ran
    cases ran
    rwa [data_of_closing ended]
  | transfer =>
    rw [follow, ← bind_pure_comp] at ran
    obtain ⟨u, d, ended, ran⟩ := runFrom_bind_eq_ok_iff.1 ran
    cases ran
    rwa [data_of_closing ended]
  | switchTo target => exact addsTexts_of_switch adds ran
  | next key =>
    rw [follow] at ran
    split at ran
    · rw [← bind_pure_comp] at ran
      obtain ⟨u, d, advanced, ran⟩ := runFrom_bind_eq_ok_iff.1 ran
      cases ran
      rwa [data_of_advance advanced]
    · rw [← bind_pure_comp] at ran
      obtain ⟨-, d, -, ran⟩ := runFrom_bind_eq_ok_iff.1 ran
      obtain ⟨u, e, ended, ran⟩ := runFrom_bind_eq_ok_iff.1 ran
      cases ran
      rwa [data_of_closing ended]

theorem addsTexts_of_respond {step : Step} {answer : String} {kind : InputKind}
    (ran : runFrom b (respond registry address code flow step data answer kind) =
      (.ok (some t), c)) : AddsTexts data t.data := by
  unfold respond at ran
  split at ran
  · obtain ⟨u, d, restated, ran⟩ := runFrom_bind_eq_ok_iff.1 ran
    cases ran
    rw [data_of_restate restated]
    exact .refl data
  · obtain ⟨passes, d, -, ran⟩ := runFrom_bind_eq_ok_iff.1 ran
    split at ran
    · obtain ⟨u, d, restated, ran⟩ := runFrom_bind_eq_ok_iff.1 ran
      cases ran
      rw [data_of_restate restated]
      exact .refl data
    · exact addsTexts_of_follow ((AddsTexts.refl data).keep step _) ran

/-- **An answer adds texts** to what the conversation has learned, and nothing else. -/
theorem addsTexts_of_answer {p : Position} {answer : String} {kind : Except Fault InputKind}
    (ran : runFrom b (Turn.answer registry address p answer kind) = (.ok (some t), c)) :
    AddsTexts p.data t.data := by
  unfold Turn.answer at ran
  split at ran
  · cases ran
  · dsimp only at ran
    split at ran
    · obtain ⟨-, d, -, ran⟩ := runFrom_bind_eq_ok_iff.1 ran
      cases ran
    · split at ran
      · obtain ⟨-, d, -, ran⟩ := runFrom_bind_eq_ok_iff.1 ran
        cases ran
      · obtain ⟨kind, d, -, ran⟩ := runFrom_bind_eq_ok_iff.1 ran
        exact addsTexts_of_respond ran

end Turn

end Dialogue
