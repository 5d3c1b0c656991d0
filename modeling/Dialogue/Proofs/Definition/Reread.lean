import Dialogue.Definition.Stored
import Dialogue.Proofs.Checked
import Dialogue.Proofs.Table
import Dialogue.Proofs.Time.Reread

/-!
# Reading definitions that were written

All that an author can write of a definition is read back from its JSON as it was: options,
transitions and steps, whatever is left out. So a stored document that holds what an author wrote,
with an id and stamps that a clock can show, is read as the same definition, the id and the stamps
apart.

Main statements: `Step.read_toJson`; `read_authoredFields` and `readFields_of_stamped`, what is read
from what an author wrote and from a document.
-/

namespace Dialogue

namespace Definition

open Checked

theorem StepKind.named?_name (kind : StepKind) : named? kind.name = some kind := by
  cases kind <;> decide

theorem Reply.named?_name (reply : Reply) : named? reply.name = some reply := by
  cases reply <;> decide

/-! ## Parts of a definition -/

theorem Choice.read_toJson (c : Choice) : Choice.read c.toJson = .good c := by
  show _ = good (Choice.mk c.id c.title c.description c.sectionTitle c.order)
  refine seq_good ?_ (defaulted_of_get? rfl rfl)
  refine seq_good ?_ (maybe_text_of_get? rfl)
  refine seq_good ?_ (maybe_text_of_get? rfl)
  refine seq_good ?_ (required_of_get? rfl rfl)
  exact map_good _ (required_of_get? rfl rfl)

theorem Transition.read_toJson (t : Transition) : Transition.read t.toJson = .good t := by
  show _ = good (Transition.mk t.condition t.nextStep t.switchTo t.order)
  refine seq_good ?_ (defaulted_of_get? rfl rfl)
  refine seq_good ?_ (maybe_text_of_get? rfl)
  refine seq_good ?_ (maybe_text_of_get? rfl)
  exact map_good _ (required_of_get? rfl rfl)

theorem asChoice_named {α : Type} {parse? : String → Option α} {name : String} {a : α}
    (known : parse? name = some a) : asChoice parse? (.str name) = .good a := by
  unfold asChoice
  simp only [known]

/-- **A step is read back from its JSON**, whatever is left out. -/
theorem Step.read_toJson (s : Step) : Step.read s.toJson = .good s := by
  show _ = good (Step.mk s.id s.code s.name s.order s.kind s.expects s.body s.header s.footer
    s.listLabel s.pattern s.errorText s.saveAs s.handsOff s.switchTo s.source s.defaultNext
    s.choices s.transitions)
  refine seq_good ?_ (defaulted_of_get? rfl (asList_map Transition.read_toJson s.transitions))
  refine seq_good ?_ (defaulted_of_get? rfl (asList_map Choice.read_toJson s.choices))
  refine seq_good ?_ (maybe_text_of_get? rfl)
  refine seq_good ?_ (maybe_text_of_get? rfl)
  refine seq_good ?_ (maybe_text_of_get? rfl)
  refine seq_good ?_ (defaulted_of_get? rfl rfl)
  refine seq_good ?_ (maybe_text_of_get? rfl)
  refine seq_good ?_ (maybe_text_of_get? rfl)
  refine seq_good ?_ (maybe_text_of_get? rfl)
  refine seq_good ?_ (maybe_text_of_get? rfl)
  refine seq_good ?_ (maybe_text_of_get? rfl)
  refine seq_good ?_ (maybe_text_of_get? rfl)
  refine seq_good ?_ (defaulted_of_get? rfl rfl)
  refine seq_good ?_ (defaulted_of_get? rfl (asChoice_named (Reply.named?_name s.expects)))
  refine seq_good ?_ (defaulted_of_get? rfl (asChoice_named (StepKind.named?_name s.kind)))
  refine seq_good ?_ (defaulted_of_get? rfl rfl)
  refine seq_good ?_ (defaulted_of_get? rfl rfl)
  refine seq_good ?_ (required_of_get? rfl rfl)
  exact map_good _ (maybe_text_of_get? rfl)

/-! ## What an author writes -/

/-- A definition without what storing adds: the id and the stamps. -/
def authored (d : Definition) : Definition :=
  { d with id := none, createdAt := none, updatedAt := none }

/-- A document holds what an author wrote of a definition, besides an id and stamps. -/
structure Keeps (doc : Fields) (d : Definition) : Prop where
  authored : ∀ entry ∈ d.authoredFields, Table.get? doc entry.1 = some entry.2
  id : ∃ id, id ≠ "" ∧ Table.get? doc "_id" = some (.str id)
  createdAt : ∃ s : Stamp, s.IsCivil ∧ Table.get? doc "createdAt" = some (.str s.text)
  updatedAt : ∃ s : Stamp, s.IsCivil ∧ Table.get? doc "updatedAt" = some (.str s.text)

variable {d : Definition} {doc : Fields}

/-- The names of the fields that an author writes. -/
def authoredNames : List String :=
  ["code", "name", "description", "isActive", "isDefault", "initialStepId", "timeoutMinutes",
    "steps"]

theorem keys_authoredFields (d : Definition) : Table.keys d.authoredFields = authoredNames := rfl

theorem mem_authoredNames {entry : String × Json} (mem : entry ∈ d.authoredFields) :
    entry.1 ∈ authoredNames :=
  keys_authoredFields d ▸ List.mem_map_of_mem mem

theorem ne_of_mem_authoredFields {entry : String × Json} (mem : entry ∈ d.authoredFields) :
    entry.1 ≠ "_id" ∧ entry.1 ≠ "id" := by
  have all : ∀ name ∈ authoredNames, name ≠ "_id" ∧ name ≠ "id" := by decide
  exact all entry.1 (mem_authoredNames mem)

theorem get?_withDocumentId {name : String} (other : name ≠ "_id") (id : name ≠ "id") :
    Table.get? (withDocumentId doc) name = Table.get? doc name := by
  unfold withDocumentId
  rw [Table.get?_set_of_ne _ _ id.symm, Table.get?_erase, if_neg other.symm]

theorem maybe_stamp_of_get? {fields : Fields} {name : String} {names : List String} {s : Stamp}
    (civil : s.IsCivil) (found : Table.get? fields name = some (.str s.text)) :
    maybe fields (name :: names) asStamp = .good (some s) :=
  maybe_of_get? found (by simp) (Stamp.asStamp_text civil)

theorem get?_authoredFields {entry : String × Json} (mem : entry ∈ d.authoredFields) :
    Table.get? d.authoredFields entry.1 = some entry.2 := by
  have distinct : (Table.keys d.authoredFields).Nodup := by
    rw [keys_authoredFields]
    decide
  exact Table.get?_of_mem distinct mem

/-- What an author wrote is read next to an id and stamps. -/
theorem readFields_of_authored {fields : Fields} {id : Option String}
    {created updated : Option Stamp}
    (authored : ∀ entry ∈ d.authoredFields, Table.get? fields entry.1 = some entry.2)
    (hasId : maybe fields ["id"] asText = .good id)
    (hasCreated : maybe fields ["createdAt", "created_at"] asStamp = .good created)
    (hasUpdated : maybe fields ["updatedAt", "updated_at"] asStamp = .good updated) :
    readFields fields = .good { d with id := id, createdAt := created, updatedAt := updated } := by
  have code := authored ("code", .str d.code) (by simp [authoredFields])
  have name := authored ("name", .str d.name) (by simp [authoredFields])
  have description := authored ("description", .ofText? d.description) (by simp [authoredFields])
  have isActive := authored ("isActive", .bool d.isActive) (by simp [authoredFields])
  have isDefault := authored ("isDefault", .bool d.isDefault) (by simp [authoredFields])
  have initialStep := authored ("initialStepId", .ofText? d.initialStep)
    (by simp [authoredFields])
  have minutes := authored ("timeoutMinutes", .int d.minutes) (by simp [authoredFields])
  have steps := authored ("steps", .arr (d.steps.map Step.toJson)) (by simp [authoredFields])
  refine seq_good ?_ hasUpdated
  refine seq_good ?_ hasCreated
  refine seq_good ?_ (defaulted_of_get? steps (asList_map Step.read_toJson d.steps))
  refine seq_good ?_ (defaulted_of_get? minutes rfl)
  refine seq_good ?_ (maybe_text_of_get? initialStep)
  refine seq_good ?_ (defaulted_of_get? isDefault rfl)
  refine seq_good ?_ (defaulted_of_get? isActive rfl)
  refine seq_good ?_ (maybe_text_of_get? description)
  refine seq_good ?_ (required_of_get? name rfl)
  refine seq_good ?_ (required_of_get? code rfl)
  exact map_good _ hasId

/-- What an author wrote alone is read as it was. -/
theorem read_authoredFields (d : Definition) : read (.obj d.authoredFields) = .good d.authored :=
  readFields_of_authored (fun _ mem => get?_authoredFields mem) rfl rfl rfl

/-- A definition as it is read from the database: with an id and the times of two saves. -/
def stamped (d : Definition) (id : String) (created updated : Stamp) : Definition :=
  { d with id := some id, createdAt := some created, updatedAt := some updated }

/-- **A document is read** as the definition that its author wrote, with the id and the stamps that
the document holds. -/
theorem readFields_of_stamped {id : String} {created updated : Stamp}
    (authored : ∀ entry ∈ d.authoredFields, Table.get? doc entry.1 = some entry.2)
    (named : id ≠ "") (hasId : Table.get? doc "_id" = some (.str id))
    (createdCivil : created.IsCivil)
    (hasCreated : Table.get? doc "createdAt" = some (.str created.text))
    (updatedCivil : updated.IsCivil)
    (hasUpdated : Table.get? doc "updatedAt" = some (.str updated.text)) :
    readFields (withDocumentId doc) = .good (d.stamped id created updated) := by
  have idRead : Table.get? (withDocumentId doc) "id" = some (.ofText? (some id)) := by
    unfold withDocumentId
    rw [Table.get?_set_self, hasId]
    exact congrArg some (if_neg named)
  have field (entry : String × Json) (mem : entry ∈ d.authoredFields) :
      Table.get? (withDocumentId doc) entry.1 = some entry.2 :=
    (get?_withDocumentId (ne_of_mem_authoredFields mem).1 (ne_of_mem_authoredFields mem).2).trans
      (authored entry mem)
  have createdRead := (get?_withDocumentId (by decide) (by decide)).trans hasCreated
  have updatedRead := (get?_withDocumentId (by decide) (by decide)).trans hasUpdated
  exact readFields_of_authored field (maybe_text_of_get? idRead)
    (maybe_stamp_of_get? createdCivil createdRead)
    (maybe_stamp_of_get? updatedCivil updatedRead)

/-- A document that keeps a definition is read as this definition, with an id and stamps. -/
theorem readFields_of_keeps (keeps : Keeps doc d) :
    ∃ e, readFields (withDocumentId doc) = .good e ∧ e.authored = d.authored := by
  obtain ⟨id, named, hasId⟩ := keeps.id
  obtain ⟨created, createdCivil, hasCreated⟩ := keeps.createdAt
  obtain ⟨updated, updatedCivil, hasUpdated⟩ := keeps.updatedAt
  exact ⟨_, readFields_of_stamped keeps.authored named hasId createdCivil hasCreated updatedCivil
    hasUpdated, rfl⟩

/-! ## What does not depend on storing -/

theorem stepsProblem?_authored (d : Definition) (known : Known) (steps : List Step) :
    d.authored.stepsProblem? known steps = d.stepsProblem? known steps := by
  induction steps with
  | nil => rfl
  | cons s rest ih =>
    unfold stepsProblem?
    rw [ih, show d.authored.stepProblem? known s = d.stepProblem? known s from rfl]

theorem check_authored (d : Definition) (known : Known) :
    d.authored.check known = d.check known := by
  unfold check
  rw [show d.authored.wholeProblem? = d.wholeProblem? from rfl,
    show d.authored.steps = d.steps from rfl, stepsProblem?_authored]

theorem toFlow_authored (d : Definition) (source : OptionSource) :
    d.authored.toFlow source = d.toFlow source := rfl

end Definition

end Dialogue
