import Dialogue.Proofs.Composable
import Dialogue.Proofs.Flow.Prompts

/-!
# Turns put together from prompts

A turn is put together from notes, checks and the prompts of registered flows. So where all prompts
have a composable property, turns have it. The prompts of the built-in flows have every composable
property.

Main statements: `Composable.builtins`, `Composable.start` and `Composable.answer`.
-/

namespace Dialogue.Composable

variable {P : ∀ α : Type, Lookup α → Prop}

/-! ## Built-in flows -/

open Catalogue

theorem storePrompt (c : Composable P) (data : Fields) :
    P _ (Menu.storePrompt Store.directory data) := by
  refine c.bind (c.inZone _) fun found => ?_
  split
  · exact c.bind c.allActive fun _ => c.pure _
  · exact c.pure _

theorem handOffPrompt (c : Composable P) (data : Fields) :
    P _ (Menu.handOffPrompt Store.directory data) := by
  refine c.bind ?_ fun _ => c.pure _
  unfold Menu.storeName
  dsimp only
  split
  · refine c.bind (c.withCode _) fun store? => ?_
    cases store? <;> exact c.pure _
  · exact c.pure _

theorem menu (c : Composable P) :
    (Menu.flow Store.directory).EveryPrompt (Prompt.Satisfies P) := by
  intro entry mem
  obtain ⟨s, listed, rfl⟩ := List.mem_map.1 mem
  simp only [Menu.steps, List.mem_cons, List.not_mem_nil, or_false] at listed
  rcases listed with rfl | rfl | rfl | rfl | rfl | rfl
  · exact fun _ => c.pure _
  · trivial
  · trivial
  · trivial
  · exact c.storePrompt
  · exact c.handOffPrompt

theorem quotation : Quotation.flow.EveryPrompt (Prompt.Satisfies P) := by
  intro entry mem
  obtain ⟨s, listed, rfl⟩ := List.mem_map.1 mem
  simp only [Quotation.steps, List.mem_cons, List.not_mem_nil, or_false] at listed
  rcases listed with rfl | rfl | rfl | rfl | rfl | rfl | rfl <;> trivial

theorem topics : Topics.flow.EveryPrompt (Prompt.Satisfies P) := by
  intro entry mem
  obtain ⟨s, listed, rfl⟩ := List.mem_map.1 mem
  simp only [Topics.steps, List.mem_cons, List.mem_append, List.mem_map, List.not_mem_nil,
    or_false] at listed
  rcases listed with (rfl | ⟨topic, -, rfl⟩) | rfl <;> trivial

theorem firstContact (c : Composable P) : FirstContact.flow.EveryPrompt (Prompt.Satisfies P) := by
  intro entry mem
  obtain ⟨s, listed, rfl⟩ := List.mem_map.1 mem
  simp only [FirstContact.steps, List.mem_cons, List.not_mem_nil, or_false] at listed
  rcases listed with rfl | rfl
  · trivial
  · exact fun _ => c.pure _

/-- **The prompts of the built-in flows** have every composable property. -/
theorem builtins (c : Composable P) :
    Registry.EveryPrompt (Prompt.Satisfies P) (Catalogue.builtins Store.directory) := by
  refine Registry.everyPrompt_of_mem fun entry mem => ?_
  simp only [Catalogue.builtins, List.mem_cons, List.not_mem_nil, or_false] at mem
  rcases mem with rfl | rfl | rfl | rfl
  · exact c.menu
  · exact quotation
  · exact topics
  · exact c.firstContact

/-! ## Turns -/

open Turn

variable {registry : Registry} (address : Address)

theorem render (c : Composable P) {step : Step} (shown : step.prompt.Satisfies P) (data : Fields) :
    P _ (Turn.render address step data) := by
  refine c.bind ?_ fun _ => c.ofExcept _
  unfold Step.content
  split
  · exact c.pure _
  · exact c.pure _
  · next resolve prompt =>
    rw [prompt] at shown
    exact shown data

/-- **Starting a flow** has a composable property that all prompts have. -/
theorem start (c : Composable P) (every : registry.EveryPrompt (Prompt.Satisfies P))
    (code : Option String) (data : Fields) : P _ (Turn.start registry address code data) := by
  unfold Turn.start
  split
  · exact c.bind (c.note _) fun _ => c.pure none
  · next flow found =>
    obtain ⟨name, -, found⟩ := Option.bind_eq_some_iff.1 found
    exact c.bind (c.render address (every.flow? found).initialStep data) fun _ =>
      c.bind (c.note _) fun _ => c.pure _

theorem complete (c : Composable P) (code : String) (data : Fields) :
    P _ (Turn.complete address code data) :=
  c.bind (c.note _) fun _ => c.bind (c.ofExcept _) fun _ => c.pure _

theorem follow (c : Composable P) (every : registry.EveryPrompt (Prompt.Satisfies P))
    (code : String) {flow : Flow} (shows : flow.EveryPrompt (Prompt.Satisfies P)) (data : Fields)
    (outcome : Outcome) : P _ (Turn.follow registry address code flow data outcome) := by
  unfold Turn.follow
  cases outcome with
  | complete => exact c.map _ (c.complete address code data)
  | transfer =>
    exact c.map _ (c.bind (c.note _) fun _ => c.bind (c.ofExcept _) fun _ => c.pure _)
  | switchTo target =>
    dsimp only
    unfold Turn.switch
    split
    · exact c.bind (c.note _) fun _ => c.pure none
    · next other found =>
      exact c.bind (c.render address (every.flow? found).initialStep _) fun _ =>
        c.bind (c.note _) fun _ => c.pure _
  | next key =>
    dsimp only
    split
    · next step found =>
      refine c.map _ (c.bind (c.render address (shows.step? found) data) fun _ => ?_)
      split
      · exact c.bind (c.note _) fun _ => c.pure _
      · exact c.bind (c.note _) fun _ => c.pure _
    · exact c.bind (c.note _) fun _ => c.map _ (c.complete address code data)

theorem restate (c : Composable P) (code : String) {step : Step}
    (shown : step.prompt.Satisfies P) (data : Fields) (status : Status) (notice : Option String) :
    P _ (Turn.restate address code step data status notice) :=
  c.bind (c.render address shown data) fun _ => c.bind (c.note _) fun _ => c.pure _

theorem respond (c : Composable P) (every : registry.EveryPrompt (Prompt.Satisfies P))
    (code : String) {flow : Flow} (shows : flow.EveryPrompt (Prompt.Satisfies P)) {step : Step}
    (shown : step.prompt.Satisfies P) (data : Fields) (answer : String) (kind : InputKind) :
    P _ (Turn.respond registry address code flow step data answer kind) := by
  unfold Turn.respond
  split
  · exact c.bind (c.restate address code shown data _ _) fun _ => c.pure _
  · refine c.bind (c.ofExcept _) fun passes => ?_
    split
    · exact c.bind (c.restate address code shown data _ _) fun _ => c.pure _
    · exact c.follow address every code shows _ _

/-- **Answering a step** has a composable property that all prompts have. -/
theorem answer (c : Composable P) (every : registry.EveryPrompt (Prompt.Satisfies P))
    (p : Position) (input : String) (kind : Except Fault InputKind) :
    P _ (Turn.answer registry address p input kind) := by
  unfold Turn.answer
  split
  · exact c.pure none
  · dsimp only
    split
    · exact c.bind (c.note _) fun _ => c.pure none
    · next flow found =>
      split
      · exact c.bind (c.note _) fun _ => c.pure none
      · next step answered =>
        have shows := every.flow? found
        exact c.bind (c.ofExcept _) fun _ =>
          c.respond address every _ shows (shows.step? answered) _ _ _

end Dialogue.Composable
