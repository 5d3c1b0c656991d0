import Dialogue.Proofs.Catalogue.Steps
import Dialogue.Proofs.Flow.Changing
import Dialogue.Proofs.Flow.Going

/-!
# What a quotation gathers

A quotation asks for four things, one after another, and each step leads on to the next alone. So at
every step the answers to the steps before are known, whatever else is known from before the
quotation began. There are two ways to the confirmation: by the question for a mail address, whose
answer is checked, when the customer wants to be reached by mail, and else directly.

Main statements: `gathered_of_advance`, an answer leads from a step where enough is known to another;
`eq_confirm_of_transfer`, only the confirmation hands the conversation to a person.
-/

namespace Dialogue.Catalogue.Quotation

open Effect

/-- The keys of what a seller needs, in the order in which it is asked for. -/
def askedKeys : List String := ["category", "details", "quantity", "contactPreference"]

/-- The keys that are known at a step. -/
def keysAt (name : String) : List String :=
  if name = "ask_details" then ["category"]
  else if name = "ask_quantity" then ["category", "details"]
  else if name = "ask_contact" then ["category", "details", "quantity"]
  else if name = "ask_email" ∨ name = "confirm" then askedKeys
  else []

/-- There is an answer under each of some keys. -/
def Known (keys : List String) (data : Fields) : Prop :=
  ∀ key ∈ keys, ∃ answer, Table.get? data key = some (.str answer)

/-- Who wants to be reached by mail has given an address. -/
def Reachable (data : Fields) : Prop :=
  Table.get? data "contactPreference" = some (.str "contact_email") →
    ∃ address, Table.get? data "email" = some (.str address) ∧ isEmail address = true

/-- All that a seller needs is known. -/
structure Complete (data : Fields) : Prop where
  known : Known askedKeys data
  reachable : Reachable data

/-- What is known at a step. -/
structure Gathered (name : String) (data : Fields) : Prop where
  known : Known (keysAt name) data
  reachable : name = "confirm" → Reachable data

variable {keys : List String} {key input : String} {data : Fields} {step : Step}

theorem Gathered.complete (gathered : Gathered "confirm" data) : Complete data :=
  ⟨gathered.known, gathered.reachable rfl⟩

/-- At a step that needs no answers, anything may be known. -/
theorem gathered_of_keysAt (nothing : keysAt key = []) (other : key ≠ "confirm") :
    Gathered key data := by
  refine ⟨?_, fun confirm => absurd confirm other⟩
  rw [nothing]
  exact fun _ mem => absurd mem List.not_mem_nil

theorem gathered_first (data : Fields) : Gathered "select_category" data :=
  gathered_of_keysAt rfl (by decide)

/-- What is known stays known when an answer is kept. -/
theorem Known.keep (known : Known keys data) (step : Step) (answer : String) :
    Known keys (step.keep answer data) := by
  intro key mem
  rw [Step.get?_keep]
  split
  · exact ⟨answer, rfl⟩
  · exact known key mem

/-- The answer that is kept is known as well. -/
theorem Known.keep_own (known : Known keys data) (saved : step.saveAs = some key) (named : key ≠ "")
    (answer : String) : Known (keys ++ [key]) (step.keep answer data) := by
  intro other mem
  rcases List.mem_append.1 mem with before | own
  · exact known.keep step answer other before
  · rw [List.mem_singleton.1 own, Step.get?_keep, if_pos ⟨saved, named⟩]
    exact ⟨answer, rfl⟩

/-- **An answer that leads on** leads to a step where enough is known. -/
theorem gathered_of_advance {kind : InputKind} (listed : step ∈ steps)
    (takes : step.Takes kind input) (gathered : Gathered step.id data)
    (outcome : step.rule.resolve (step.normalized input)
      (step.keep (step.normalized input) data) = .next key) :
    Gathered key (step.keep (step.normalized input) data) := by
  have known := gathered.known
  simp only [steps, List.mem_cons, List.not_mem_nil, or_false] at listed
  rcases listed with rfl | rfl | rfl | rfl | rfl | rfl | rfl
  · cases outcome
    exact ⟨known.keep_own rfl (by decide) _, fun confirm => absurd confirm (by decide)⟩
  · cases outcome
    exact ⟨known.keep_own rfl (by decide) _, fun confirm => absurd confirm (by decide)⟩
  · cases outcome
    exact ⟨known.keep_own rfl (by decide) _, fun confirm => absurd confirm (by decide)⟩
  · have outcome : (afterContact input _).getD .complete = .next key := outcome
    unfold afterContact at outcome
    split at outcome
    · cases outcome
      exact ⟨known.keep_own rfl (by decide) _, fun confirm => absurd confirm (by decide)⟩
    · next otherwise =>
      cases outcome
      refine ⟨known.keep_own rfl (by decide) _, fun _ mail => absurd ?_ otherwise⟩
      rw [Step.get?_keep, if_pos ⟨rfl, by decide⟩] at mail
      exact Json.str.inj (Option.some.inj mail)
  · cases outcome
    refine ⟨known.keep _ _, fun _ _ => ⟨input, ?_, Except.ok.inj takes.passes⟩⟩
    rw [Step.get?_keep, if_pos ⟨rfl, by decide⟩]
    rfl
  · have outcome : (afterConfirm input _).getD .complete = .next key := outcome
    unfold afterConfirm at outcome
    split at outcome
    · cases outcome
    · cases outcome
      exact gathered_of_keysAt rfl (by decide)
  · cases outcome

/-- **Only the confirmation hands over.** -/
theorem eq_confirm_of_transfer (listed : step ∈ steps)
    (outcome : step.rule.resolve input data = .transfer) : step.id = "confirm" := by
  simp only [steps, List.mem_cons, List.not_mem_nil, or_false] at listed
  rcases listed with rfl | rfl | rfl | rfl | rfl | rfl | rfl
  · cases outcome
  · cases outcome
  · cases outcome
  · have outcome : (afterContact input data).getD .complete = .transfer := outcome
    unfold afterContact at outcome
    split at outcome <;> cases outcome
  · cases outcome
  · rfl
  · cases outcome

/-- No step of a quotation hands over when it is shown. -/
theorem stays_of_listed : ∀ step ∈ steps, step.handsOff = false := by decide

end Dialogue.Catalogue.Quotation
