import Dialogue.Position
import Dialogue.Proofs.Json.Reread

/-!
# Positions written and read

The text that stores a position may be refused when it is read, because of what the conversation has
learned. When it is accepted, it names the flow and the step that were stored.

Main statement: `named_of_ofText`.
-/

namespace Dialogue.Position

theorem maybe_asText {fields : Fields} {name : String} {s : Option String}
    (found : fields.get? name = some (.ofText? s)) :
    Checked.maybe fields [name] Checked.asText = .good s := by
  unfold Checked.maybe Checked.defaulted Checked.find?
  rw [List.findSome?_cons, found]
  cases s <;> rfl

/-- The fields of a position are read with the flow and the step that were written. -/
theorem get?_of_sameFields {p : Position} {entries : Fields} (same : Json.SameFields
      [("flow_type", .ofText? p.flow), ("flow_step", .ofText? p.step), ("flow_data", .obj p.data),
        ("flow_started_at", .ofText? (p.startedAt.map Stamp.text))] entries) :
    (Table.setAll [] entries).get? "flow_type" = some (.ofText? p.flow) ∧
      (Table.setAll [] entries).get? "flow_step" = some (.ofText? p.step) := by
  cases same with
  | cons flow same =>
    cases same with
    | cons step same =>
      cases same with
      | cons data same =>
        cases same with
        | cons start same =>
          cases same
          rw [flow p.flow rfl, step p.step rfl]
          exact ⟨rfl, rfl⟩

/-- **A stored position names its flow and its step** when it can be read. -/
theorem named_of_ofText {p q : Position} (reads : ofText p.text = .good q) :
    q.flow = p.flow ∧ q.step = p.step := by
  unfold ofText Json.parse? at reads
  cases parsed : Json.read limits p.text with
  | error trouble =>
    rw [parsed] at reads
    exact nomatch reads
  | ok value =>
    rw [parsed] at reads
    obtain ⟨entries, same, rfl⟩ := Json.exists_entries_of_read parsed
    obtain ⟨flow, step⟩ := get?_of_sameFields same
    unfold readWith at reads
    simp only [Except.toOption, Checked.asRecord, maybe_asText flow, maybe_asText step] at reads
    obtain ⟨withData, start, known, -, rfl⟩ := Checked.good_of_seq reads
    obtain ⟨named, data, names, -, rfl⟩ := Checked.good_of_seq known
    cases names
    exact ⟨rfl, rfl⟩

end Dialogue.Position
