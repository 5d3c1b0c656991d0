import Dialogue.Proofs.Flow.Built

/-!
# Properties of prompts

Much of what a turn does is done by the prompt of the step that it shows. Where the prompts of all
registered flows have a property, that of every step that a turn comes to has it. A flow that is
loaded when it is needed comes from a definition, so the property is kept when the prompts of
definitions have it.

Main statements: `everyPrompt_of_isStored` and `keepsPrompts_ensure`.
-/

namespace Dialogue

open Effect

/-- The prompts of all steps of a flow have a property. -/
def Flow.EveryPrompt (P : Prompt → Prop) (flow : Flow) : Prop :=
  ∀ entry ∈ flow.steps, P entry.2.prompt

/-- The prompts of all registered flows have a property. -/
def Registry.EveryPrompt (P : Prompt → Prop) (registry : Registry) : Prop :=
  ∀ code flow, Table.get? registry code = some flow → flow.EveryPrompt P

/-- One world after another: where the prompts of all registered flows have had a property, they
have it still. -/
def World.KeepsPrompts (P : Prompt → Prop) (w w' : World) : Prop :=
  w.registry.EveryPrompt P → w'.registry.EveryPrompt P

variable {P : Prompt → Prop}

instance : Lasting (World.KeepsPrompts P) where
  refl _ := id
  trans first second := fun every => second (first every)

theorem World.keepsPrompts_of_registry {w w' : World} (same : w'.registry = w.registry) :
    World.KeepsPrompts P w w' := by
  intro every
  rw [same]
  exact every

theorem Flow.EveryPrompt.step? {flow : Flow} (every : flow.EveryPrompt P) {key : String}
    {step : Step} (found : flow.step? key = some step) : P step.prompt :=
  every (key, step) (Table.mem_of_get? found)

theorem Flow.EveryPrompt.initialStep {flow : Flow} (every : flow.EveryPrompt P) :
    P flow.initialStep.prompt :=
  every.step? flow.step?_initial

namespace Registry

theorem EveryPrompt.flow? {registry : Registry} (every : registry.EveryPrompt P) {code : String}
    {flow : Flow} (found : registry.flow? code = some flow) : flow.EveryPrompt P := by
  unfold Registry.flow? at found
  split at found
  · cases found
  · exact every code flow found

theorem EveryPrompt.set {registry : Registry} (every : registry.EveryPrompt P) {flow : Flow}
    (new : flow.EveryPrompt P) (code : String) :
    EveryPrompt P (Table.set registry code flow) := by
  intro other flow' found
  rw [Table.get?_set] at found
  split at found
  · cases found
    exact new
  · exact every other flow' found

/-- A property of every prompt of a list of registered flows. -/
theorem everyPrompt_of_mem {registry : Registry}
    (each : ∀ entry ∈ registry, entry.2.EveryPrompt P) : registry.EveryPrompt P :=
  fun code flow found => each (code, flow) (Table.mem_of_get? found)

end Registry

/-- **The prompts of a stored flow** are those of the steps of its definition. -/
theorem Flow.everyPrompt_of_isStored (each : ∀ s : Definition.Step, P (s.prompt Store.options))
    {flow : Flow} (stored : flow.IsStored) : flow.EveryPrompt P := by
  obtain ⟨d, known, made⟩ := stored
  intro entry mem
  rw [Flow.steps_of_toFlow? made] at mem
  obtain ⟨s, -, eq⟩ := Definition.mem_stepTable mem
  rw [eq]
  exact each s

namespace Registry

theorem keepsPrompts_reload (each : ∀ s : Definition.Step, P (s.prompt Store.options))
    (code : String) : Within (World.KeepsPrompts P) (reload code) := by
  intro w w' result ran every
  obtain ⟨b, rfl | ⟨flow, stored, rfl⟩⟩ := reload_cases ran
  · exact every
  · exact every.set (Flow.everyPrompt_of_isStored each stored) code

/-- **Loading a flow** keeps a property of all prompts that the prompts of definitions have. -/
theorem keepsPrompts_ensure (each : ∀ s : Definition.Step, P (s.prompt Store.options))
    (code : String) : Within (World.KeepsPrompts P) (ensure code) := by
  refine within_bind within_get fun w => ?_
  split
  · exact within_pure _
  · exact keepsPrompts_reload each code

end Registry

/-- An act that leaves the registered flows alone keeps the properties of their prompts. -/
theorem Act.keepsPrompts_of_spares {α : Type} {key : String} {x : Act α}
    (spares : Act.Spares key x) : Within (World.KeepsPrompts P) x :=
  fun _ _ _ ran => World.keepsPrompts_of_registry (spares ran).registry

end Dialogue
