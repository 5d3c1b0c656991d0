import Dialogue.Proofs.Catalogue.Steps
import Dialogue.Proofs.Definition.Shelf
import Dialogue.Proofs.Flow.Reading

/-!
# Where flows lead

An answer to a step may switch to another flow. The built-in flows switch to one another alone, and
the flow of a definition that passes the check switches to the flows that were known then. A
registry is *closed* when every switch of a registered flow leads to a registered flow.

Main statements: `Catalogue.mem_codes_of_switchesTo` and `Definition.mem_of_switchesTo`.
-/

namespace Dialogue

open Effect

/-- An answer to a step of a flow switches to another flow. -/
def Flow.SwitchesTo (flow : Flow) (target : String) : Prop :=
  ∃ entry ∈ flow.steps, ∃ answer data, entry.2.rule.resolve answer data = .switchTo target

/-- Every switch of a registered flow leads to a registered flow. -/
def Registry.Closed (registry : Registry) : Prop :=
  ∀ code flow, Table.get? registry code = some flow →
    ∀ target, flow.SwitchesTo target → target ∈ Table.keys registry

variable {flow : Flow} {target : String}

/-! ## Built-in flows -/

namespace Catalogue

/-- **The built-in flows switch to one another alone.** -/
theorem mem_codes_of_switchesTo {code : String}
    (found : Table.get? Registry.builtins code = some flow) (switches : flow.SwitchesTo target) :
    target ∈ codes := by
  obtain ⟨entry, mem, answer, data, leads⟩ := switches
  obtain ⟨steps, listed, resolves⟩ := exists_resolves (Table.mem_of_get? found)
  rw [listed] at mem
  obtain ⟨step, own, rfl⟩ := List.mem_map.1 mem
  have within := resolves step own answer data
  rw [leads] at within
  exact within

end Catalogue

/-! ## Flows of definitions -/

namespace Definition

/-- **The flow of a definition switches to known flows alone**, its own apart. -/
theorem mem_of_switchesTo {d : Definition} {source : OptionSource} {codes : List String}
    (made : d.flow? source (some codes) = some flow) (switches : flow.SwitchesTo target) :
    target ∈ codes ∨ target = d.code := by
  obtain ⟨entry, mem, answer, data, leads⟩ := switches
  rw [Flow.steps_of_toFlow? (toFlow?_of_flow? made)] at mem
  obtain ⟨s, listed, same⟩ := mem_stepTable mem
  have led := ((accepted_of_flow? made).fit s listed).leads_rule answer data
  rw [same] at leads
  rw [show s.rule.resolve answer data = .switchTo target from leads] at led
  exact led.2 codes rfl

/-- A switch of a step that owns its id is one of the flow. -/
theorem switchesTo_of_rule {d : Definition} {source : OptionSource} {known : Known} {s : Step}
    (made : d.flow? source known = some flow) (listed : s ∈ d.steps) (own : d.OwnsKey s)
    {answer : String} {data : Fields} (leads : s.rule.resolve answer data = .switchTo target) :
    flow.SwitchesTo target := by
  obtain ⟨t, bears⟩ := exists_bearer?_key listed
  cases eq_of_bearer?_key own bears
  have found : flow.steps.get? s.key = some (s.toStep source) := by
    rw [Flow.steps_of_toFlow? (toFlow?_of_flow? made), get?_stepTable, bears]
    rfl
  exact ⟨_, Table.mem_of_get? found, answer, data, leads⟩

end Definition

end Dialogue
