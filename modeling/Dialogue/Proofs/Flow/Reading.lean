import Dialogue.Proofs.Flow.Composing
import Dialogue.Proofs.Flow.Service

/-!
# Turns that only read

A prompt *reads* when resolving it leaves the stored definitions as they are, and a flow reads when
the prompts of all its steps do. The built-in flows read, and so do the flows of definitions, whose
options come from the stores. Reading carries over to sequences, so where all registered flows read,
turns read.

Main statements: `reads_builtins` and `reads_of_toFlow`; `Turn.reads_start` and `Turn.reads_answer`.
-/

namespace Dialogue

open Effect Lookup

/-- Resolving a prompt reads. -/
def Prompt.Reads : Prompt → Prop
  | .missing | .fixed _ => True
  | .resolved _ resolve => ∀ data, Lookup.Reads (resolve data)

/-- The prompts of a flow read. -/
def Flow.Reads (flow : Flow) : Prop := ∀ entry ∈ flow.steps, entry.2.prompt.Reads

/-- The prompts of all registered flows read. -/
def Registry.Reads (registry : Registry) : Prop :=
  ∀ code flow, Table.get? registry code = some flow → flow.Reads

/-! ## Flows of definitions -/

namespace Definition

/-- **The flows of definitions read.** -/
theorem reads_of_toFlow {d : Definition} {flow : Flow} (made : d.toFlow Store.options = .ok flow) :
    flow.Reads := by
  have steps : flow.steps = d.stepTable Store.options := by
    unfold toFlow at made
    split at made
    · exact Flow.steps_of_make made
    · cases made
  intro entry mem
  rw [steps] at mem
  obtain ⟨s, -, eq⟩ := mem_stepTable mem
  rw [eq]
  exact composable_reads.prompt s

end Definition

/-- **The built-in flows read.** -/
theorem Registry.reads_builtins : Registry.Reads builtins := composable_reads.builtins

/-! ## Turns -/

namespace Turn

variable {registry : Registry} (address : Address)

/-- **Starting a flow reads.** -/
theorem reads_start (reads : registry.Reads) (code : Option String) (data : Fields) :
    Lookup.Reads (start registry address code data) :=
  composable_reads.start address reads code data

/-- **Answering a step reads.** -/
theorem reads_answer (reads : registry.Reads) (p : Position) (input : String)
    (kind : Except Fault InputKind) :
    Lookup.Reads (answer registry address p input kind) :=
  composable_reads.answer address reads p input kind

end Turn

end Dialogue
