import Dialogue.Proofs.Catalogue.Steps
import Dialogue.Proofs.Conversation.Runs

/-!
# Stored answers are validated answers

An answer is kept under the key of its step after it has passed the check of the step. Where every
step that keeps its answers under a key checks them, what is found under the key has passed such a
check, through switches, re-prompts and restarts: no other step writes it, and it is read back as it
was written. Two keys are written otherwise: the name of the sender, and the flow that was left.

Main statement: `validated_of_transcript`.
-/

namespace Dialogue

open Effect

variable {registry : Registry} {key : String} {P : String → Prop}

/-- Every step of a registered flow that keeps its answers under a key has a check, which lets only
texts with a property pass. -/
def Registry.Guards (registry : Registry) (key : String) (P : String → Prop) : Prop :=
  ∀ code flow, registry.flow? code = some flow → ∀ name step, flow.step? name = some step →
    step.saveAs = some key → ∃ check, step.validator = some check ∧
      ∀ answer, check answer = .ok true → P answer

/-- What is known under a key, if anything, is a text with a property. -/
def Fields.Validated (data : Fields) (key : String) (P : String → Prop) : Prop :=
  ∀ value, Table.get? data key = some value → ∃ answer, value = .str answer ∧ P answer

theorem Registry.Guards.of_grows {other : Registry} (guards : other.Guards key P)
    (grows : registry.Grows other) : registry.Guards key P :=
  fun code flow found => guards code flow (grows found)

/-- Nothing but the name of the sender is known at first. -/
theorem validated_initialData (m : Incoming) (notName : key ≠ "customerName") :
    Fields.Validated m.initialData key P := by
  intro value found
  unfold Incoming.initialData at found
  split at found
  · cases found
  · cases found
  · rw [Table.get?_cons, if_neg (Ne.symm notName)] at found
    cases found

/-- **A taken answer is kept as it was checked.** -/
theorem validated_keep {p : Position} {code : String} {flow : Flow} {step : Step}
    {kind : InputKind} {input : String} (guards : registry.Guards key P)
    (waits : p.WaitsAt registry code flow step) (takes : step.Takes kind input)
    (before : Fields.Validated p.data key P) :
    Fields.Validated (step.keep (step.normalized input) p.data) key P := by
  intro value found
  rw [Step.get?_keep] at found
  split at found
  · next kept =>
    cases found
    obtain ⟨check, validator, passed⟩ :=
      guards code flow waits.registered _ step waits.found kept.1
    have passes := takes.passes
    unfold Step.check at passes
    rw [validator] at passes
    exact ⟨_, rfl, passed _ passes⟩
  · exact before value found

/-- What is found under a guarded key persists as a text with the property. -/
theorem persists_validated (notName : key ≠ "customerName") (notMark : key ≠ Turn.previousFlowKey) :
    Position.Persists fun registry p =>
      registry.Guards key P → Fields.Validated p.data key P where
  empty _ _ := nofun
  grows grows holds guards := holds (guards.of_grows grows)
  restarts _ := id
  opens := by
    rintro registry m q ⟨registered⟩ -
    exact validated_initialData m notName
  leads := by
    intro registry p q _ holds leads guards
    have before := holds guards
    cases leads with
    | stays => exact before
    | switches waits takes keeps =>
      subst keeps
      intro value found
      rw [Table.get?_set_of_ne _ _ (Ne.symm notMark)] at found
      exact validated_keep guards waits takes before value found
    | advances waits takes keeps =>
      subst keeps
      exact validated_keep guards waits takes before

/-- **Stored answers are validated answers.** Whatever messages come in at a bot that holds nothing
yet, from whomever, and whatever time passes in between: where no definition is ever left to be
loaded, and every step of a registered flow that keeps its answers under a key checks that they have
a property, what is found under this key in the stored position of a customer is a text with the
property. What happens may end anywhere, so this is so at any time. -/
theorem validated_of_transcript {w : World} {events : List Happening}
    (empty : w.cache.entries = []) (complete : w.Throughout World.Complete events)
    (notName : key ≠ "customerName") (notMark : key ≠ Turn.previousFlowKey)
    (guards : w.registry.Guards key P) (customer : String) (now : Instant) :
    Fields.Validated ((w.transcript events).2.position customer now).data key P := by
  refine (holds_of_transcript (persists_validated notName notMark) empty events customer now).2 ?_
  rw [registry_transcript complete]
  exact guards

open Catalogue Conversation

/-- A bot that opens with the first contact. -/
def doorway : World where
  config := { cancelCommands := ["cancelar"] }
  clock := ⟨0, none⟩
  opening := firstContactCode
  registry := Registry.builtins

/-- The customer gives a name. -/
def introduce : Incoming := ⟨"549", none, none, "text", some "ana  maría", none, []⟩

/-- The one built-in step that keeps the name of a customer checks it. -/
theorem guards_builtins (stores : StoreDirectory) :
    Registry.Guards (builtins stores) "userName" fun answer => FirstContact.isName answer := by
  intro code flow registered name step found
  have menu : ∀ step ∈ Menu.steps stores, step.saveAs ≠ some "userName" := by simp [Menu.steps]
  have quotation : ∀ step ∈ Quotation.steps, step.saveAs ≠ some "userName" := by decide
  have topics : ∀ step ∈ Topics.steps, step.saveAs ≠ some "userName" := by decide
  have firstContact : ∀ step ∈ FirstContact.steps, step.saveAs = some "userName" →
      ∃ check, step.validator = some check ∧
        ∀ answer, check answer = .ok true → FirstContact.isName answer = true := by
    intro step listed kept
    simp only [FirstContact.steps, List.mem_cons, List.not_mem_nil, or_false] at listed
    rcases listed with rfl | rfl
    · exact ⟨_, rfl, fun answer passes => Except.ok.inj passes⟩
    · cases kept
  obtain ⟨steps, listed, guards⟩ := exists_steps
    (P := fun _ step => step.saveAs = some "userName" → ∃ check, step.validator = some check ∧
      ∀ answer, check answer = .ok true → FirstContact.isName answer = true)
    (fun step listed kept => absurd kept (menu step listed))
    (fun step listed kept => absurd kept (quotation step listed))
    (fun step listed kept => absurd kept (topics step listed)) firstContact
    (Registry.mem_of_flow? registered)
  exact guards step (Flow.listed_of_step? listed found).1

/-- The name is kept tidied up, as it was checked. -/
theorem get?_doorway : Table.get? ((doorway.transcript [.sent tap, .sent introduce]).2.position
    "549" 0).data "userName" = some (.str "Ana María") := by
  decide +kernel

theorem validated_of_transcript_doorway :
    doorway.cache.entries = [] ∧
      doorway.Throughout World.Complete [.sent tap, .sent introduce] ∧
      doorway.registry.Guards "userName" (fun answer => FirstContact.isName answer) ∧
      Fields.Validated
        ((doorway.transcript [.sent tap, .sent introduce]).2.position "549" 0).data "userName"
        (fun answer => FirstContact.isName answer) ∧
      FirstContact.isName "Ana María" = true := by
  have complete : doorway.Throughout World.Complete [.sent tap, .sent introduce] :=
    World.Complete.throughout (.of_empty rfl) Lookup.composable_looks.builtins _
  have guards : doorway.registry.Guards "userName" fun answer => FirstContact.isName answer :=
    guards_builtins _
  have validated := validated_of_transcript (w := doorway) rfl complete (by decide) (by decide)
    guards "549" 0
  obtain ⟨answer, kept, valid⟩ := validated _ get?_doorway
  cases kept
  exact ⟨rfl, complete, guards, validated, valid⟩

end Dialogue
