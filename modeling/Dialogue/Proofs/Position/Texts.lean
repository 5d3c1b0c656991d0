import Dialogue.Conversation.Basic
import Dialogue.Proofs.Json.Plain
import Dialogue.Proofs.Position.Storable

/-!
# Positions that have learned texts

All that a bot writes into what a conversation has learned are texts, under names that differ. Such
fields are plain, so a stored position that has learned nothing else is read back with exactly what
it was stored with. Its start alone may be read otherwise, where it is none of the calendar.

Main statement: `eq_of_ofText`.
-/

namespace Dialogue

/-- Texts under names that differ. -/
structure AreTexts (fields : Fields) : Prop where
  texts : ∀ entry ∈ fields, ∃ s, entry.2 = .str s
  distinct : (Table.keys fields).Nodup

namespace AreTexts

variable {fields : Fields}

theorem nil : AreTexts [] := ⟨nofun, List.nodup_nil⟩

theorem set (texts : AreTexts fields) (key s : String) :
    AreTexts (Table.set fields key (.str s)) := by
  refine ⟨fun entry mem => ?_, Table.nodup_keys_set texts.distinct key _⟩
  rcases Table.mem_of_mem_set mem with rfl | mem
  · exact ⟨s, rfl⟩
  · exact texts.texts entry mem

theorem keep (texts : AreTexts fields) (step : Step) (answer : String) :
    AreTexts (step.keep answer fields) := by
  unfold Step.keep
  split
  · split
    · exact texts
    · exact texts.set _ answer
  · exact texts

/-- What a message makes known at first is the name of the sender, or nothing. -/
theorem initialData (m : Incoming) : AreTexts m.initialData := by
  unfold Incoming.initialData
  split
  · exact .nil
  · exact .nil
  · next name _ _ =>
    refine ⟨fun entry mem => ?_, List.nodup_singleton _⟩
    rw [List.mem_singleton.1 mem]
    exact ⟨name, rfl⟩

/-- Texts are plain for every reader. -/
theorem plain (texts : AreTexts fields) (limits : Json.Limits) (depth : Nat) :
    Json.Plain limits (depth + 1) (.obj fields) := by
  refine .obj (fun entry mem => ?_) texts.distinct
  obtain ⟨s, text⟩ := texts.texts entry mem
  rw [text]
  exact .str depth s

end AreTexts

namespace Position

variable {p q : Position}

theorem plain_toJson (texts : AreTexts p.data) : Json.Plain limits 200 p.toJson := by
  have named (text? : Option String) : Json.Plain limits 199 (.ofText? text?) := by
    cases text? with
    | none => exact .null 199
    | some text => exact .str 199 text
  have distinct : ["flow_type", "flow_step", "flow_data", "flow_started_at"].Nodup := by decide
  refine .obj (fun entry mem => ?_) distinct
  simp only [List.mem_cons, List.not_mem_nil, or_false] at mem
  rcases mem with rfl | rfl | rfl | rfl
  · exact named p.flow
  · exact named p.step
  · exact texts.plain limits 198
  · exact named _

theorem parse?_text (texts : AreTexts p.data) : Json.parse? limits p.text = some p.toJson := by
  unfold Json.parse? text
  rw [Json.read_render (plain_toJson texts)]
  rfl

/-- **A position that has learned texts is read back** as it was stored, its start apart. -/
theorem eq_of_ofText (texts : AreTexts p.data) (reads : ofText p.text = .good q) :
    q = { p with startedAt := q.startedAt } := by
  unfold ofText at reads
  rw [parse?_text texts] at reads
  dsimp only at reads
  unfold readWith Checked.asRecord toJson at reads
  dsimp only at reads
  rw [maybe_asText (s := p.flow) rfl, maybe_asText (s := p.step) rfl,
    defaulted_asTable (d := p.data) rfl] at reads
  obtain ⟨known, start, read, -, rfl⟩ := Checked.good_of_seq reads
  cases read
  rfl

/-- The start is read back as well when its date is one of the calendar. -/
theorem ofText_of_texts (texts : AreTexts p.data) (civil : ∀ stamp ∈ p.startedAt, stamp.IsCivil) :
    ofText p.text = .good p := by
  unfold ofText
  rw [parse?_text texts]
  exact readWith_fields civil p.data

end Position

end Dialogue
