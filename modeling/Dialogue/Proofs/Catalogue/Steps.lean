import Dialogue.Catalogue.Builtin
import Dialogue.Proofs.Definition.Accepted
import Dialogue.Proofs.Flow.Turns
import Dialogue.Proofs.Table

/-!
# The steps of the built-in flows

There are four built-in flows, and each has its steps under their ids. What is to be shown of every
built-in step is shown step by step. The rules of these steps are functions of the answer and of
what is known, so where they lead is found by going through their branches: to a step of the same
flow, to a built-in flow, to a person, or to the end.

Main statements: `exists_steps`, what holds of the steps of each flow holds of all;
`named_of_step?`, a step is found under its id alone; `exists_resolves`, where built-in steps lead.
-/

namespace Dialogue

/-! ## Steps under their ids -/

namespace Flow

variable {flow : Flow} {steps : List Step} {name : String} {step : Step}

/-- In a flow that has the steps of a list under their ids, a step is found under its id. -/
theorem listed_of_step? (listed : flow.steps = steps.map fun s => (s.id, s))
    (found : flow.step? name = some step) : step ∈ steps ∧ name = step.id := by
  have mem : (name, step) ∈ flow.steps := Table.mem_of_get? found
  rw [listed] at mem
  obtain ⟨s, own, same⟩ := List.mem_map.1 mem
  cases same
  exact ⟨own, rfl⟩

theorem isSome_step?_of_mem (listed : flow.steps = steps.map fun s => (s.id, s))
    (mem : step ∈ steps) : (flow.step? step.id).isSome := by
  have entry : (step.id, step) ∈ flow.steps := by
    rw [listed]
    exact List.mem_map_of_mem mem
  exact Option.isSome_iff_exists.2 (Table.mem_keys_iff.1 (Table.mem_keys_of_mem entry))

end Flow

namespace Catalogue

variable {stores : StoreDirectory} {code name : String} {flow : Flow} {step : Step}

/-- There are four built-in flows. -/
theorem builtin_cases (mem : (code, flow) ∈ builtins stores) :
    (code = menuCode ∧ flow = Menu.flow stores) ∨ (code = quotationCode ∧ flow = Quotation.flow) ∨
      (code = topicsCode ∧ flow = Topics.flow) ∨
      (code = firstContactCode ∧ flow = FirstContact.flow) := by
  simpa only [builtins, List.mem_cons, Prod.mk.injEq, List.not_mem_nil, or_false] using mem

/-- **What holds of the steps of each built-in flow** holds of all steps of any. -/
theorem exists_steps {P : Flow → Step → Prop}
    (menu : ∀ step ∈ Menu.steps stores, P (Menu.flow stores) step)
    (quotation : ∀ step ∈ Quotation.steps, P Quotation.flow step)
    (topics : ∀ step ∈ Topics.steps, P Topics.flow step)
    (firstContact : ∀ step ∈ FirstContact.steps, P FirstContact.flow step)
    (mem : (code, flow) ∈ builtins stores) :
    ∃ steps : List Step, flow.steps = steps.map (fun s => (s.id, s)) ∧
      ∀ step ∈ steps, P flow step := by
  rcases builtin_cases mem with ⟨-, rfl⟩ | ⟨-, rfl⟩ | ⟨-, rfl⟩ | ⟨-, rfl⟩
  · exact ⟨_, rfl, menu⟩
  · exact ⟨_, rfl, quotation⟩
  · exact ⟨_, rfl, topics⟩
  · exact ⟨_, rfl, firstContact⟩

/-- **A built-in step is found under its id**, which is not empty. -/
theorem named_of_step? (registered : (builtins stores).flow? code = some flow)
    (found : flow.step? name = some step) : name = step.id ∧ step.id ≠ "" := by
  obtain ⟨steps, listed, named⟩ := exists_steps (P := fun _ step => step.id ≠ "")
    (by simp [Menu.steps]) (by decide) (by decide) (by decide) (Registry.mem_of_flow? registered)
  obtain ⟨mem, same⟩ := Flow.listed_of_step? listed found
  exact ⟨same, named step mem⟩

/-! ## Where steps lead -/

/-- An outcome leads to a step of a flow or to a built-in flow, if it goes on at all. -/
abbrev LeadsWithin (flow : Flow) : Outcome → Prop :=
  Outcome.Within (fun key => (flow.step? key).isSome) (· ∈ codes)

/-- The answers to a step lead to a step of a flow or to a built-in flow. -/
def Resolves (flow : Flow) (step : Step) : Prop :=
  ∀ answer data, LeadsWithin flow (step.rule.resolve answer data)

theorem leadsWithin_next (found : (flow.step? name).isSome) :
    LeadsWithin flow ((some (.next name)).getD .complete) := found

theorem leadsWithin_switch (builtin : code ∈ codes) :
    LeadsWithin flow ((some (.switchTo code)).getD .complete) := builtin

theorem leadsWithin_ite {c : Prop} [Decidable c] {x y : Option Outcome}
    (hx : LeadsWithin flow (x.getD .complete)) (hy : LeadsWithin flow (y.getD .complete)) :
    LeadsWithin flow ((if c then x else y).getD .complete) := by
  split
  · exact hx
  · exact hy

theorem Menu.resolves (stores : StoreDirectory) :
    ∀ step ∈ Menu.steps stores, Resolves (Menu.flow stores) step := by
  intro step listed
  simp only [Menu.steps, List.mem_cons, List.not_mem_nil, or_false] at listed
  rcases listed with rfl | rfl | rfl | rfl | rfl | rfl <;> intro answer data
  · exact leadsWithin_ite (leadsWithin_switch (by decide)) (leadsWithin_ite
      (leadsWithin_switch (by decide)) (leadsWithin_ite (leadsWithin_next rfl)
        (leadsWithin_next rfl)))
  · exact leadsWithin_ite (leadsWithin_next rfl) (leadsWithin_next rfl)
  · exact leadsWithin_ite (leadsWithin_next rfl) (leadsWithin_ite (leadsWithin_next rfl)
      (leadsWithin_next rfl))
  · exact leadsWithin_ite (leadsWithin_next rfl) (leadsWithin_next rfl)
  · exact leadsWithin_next rfl
  · trivial

theorem Quotation.resolves : ∀ step ∈ Quotation.steps, Resolves Quotation.flow step := by
  intro step listed
  simp only [Quotation.steps, List.mem_cons, List.not_mem_nil, or_false] at listed
  rcases listed with rfl | rfl | rfl | rfl | rfl | rfl | rfl <;> intro answer data
  · exact leadsWithin_next rfl
  · exact leadsWithin_next rfl
  · exact leadsWithin_next rfl
  · exact leadsWithin_ite (leadsWithin_next rfl) (leadsWithin_next rfl)
  · exact leadsWithin_next rfl
  · exact leadsWithin_ite trivial (leadsWithin_next rfl)
  · trivial

/-- A topic that there is has a step that shows it. -/
theorem Topics.isSome_step?_stepId {topic : String} (known : Topics.topics.has topic = true) :
    (Topics.flow.step? (Topics.stepId topic)).isSome := by
  obtain ⟨body, found⟩ := (Table.has_iff _ _).1 known
  have listed : Topics.topicStep topic body ∈ Topics.steps := by
    unfold Topics.steps
    exact List.mem_append_left _ (List.mem_cons_of_mem _
      (List.mem_map_of_mem (f := fun t => Topics.topicStep t.1 t.2) (Table.mem_of_get? found)))
  exact Flow.isSome_step?_of_mem rfl listed

theorem Topics.resolves : ∀ step ∈ Topics.steps, Resolves Topics.flow step := by
  intro step listed
  simp only [Topics.steps, List.mem_cons, List.mem_append, List.mem_map, List.not_mem_nil,
    or_false] at listed
  rcases listed with (rfl | ⟨topic, -, rfl⟩) | rfl <;> intro answer data
  · -- The id of the next step is made from the answer, so it is not one of a few.
    show LeadsWithin _ ((Topics.afterSelect answer data).getD .complete)
    unfold Topics.afterSelect
    dsimp only
    split
    · next known => exact leadsWithin_next (Topics.isSome_step?_stepId known)
    · exact leadsWithin_next rfl
  · exact leadsWithin_next rfl
  · exact leadsWithin_ite (leadsWithin_next rfl) (leadsWithin_ite (leadsWithin_switch (by decide))
      trivial)

theorem FirstContact.resolves :
    ∀ step ∈ FirstContact.steps, Resolves FirstContact.flow step := by
  intro step listed
  simp only [FirstContact.steps, List.mem_cons, List.not_mem_nil, or_false] at listed
  rcases listed with rfl | rfl <;> intro answer data
  · exact leadsWithin_next rfl
  · exact leadsWithin_ite (leadsWithin_switch (by decide)) (leadsWithin_ite
      (leadsWithin_switch (by decide)) (leadsWithin_next rfl))

/-- **A built-in step leads to a step of its flow or to a built-in flow**, whatever the answer and
what is known. -/
theorem exists_resolves (mem : (code, flow) ∈ builtins stores) :
    ∃ steps : List Step, flow.steps = steps.map (fun s => (s.id, s)) ∧
      ∀ step ∈ steps, Resolves flow step :=
  exists_steps (Menu.resolves stores) Quotation.resolves Topics.resolves FirstContact.resolves mem

theorem resolves_of_step? (registered : (builtins stores).flow? code = some flow)
    (found : flow.step? name = some step) : Resolves flow step := by
  obtain ⟨steps, listed, resolves⟩ := exists_resolves (Registry.mem_of_flow? registered)
  exact resolves step (Flow.listed_of_step? listed found).1

end Catalogue

end Dialogue
