import Dialogue.Checked.Fields

/-!
# Reading what was written

What is read of a record whose fields are known: each field is read by its name, and a list of
written values item by item.

Main statements: `required_of_get?`, `defaulted_of_get?` and `maybe_text_of_get?`, for the kinds of
fields; `asList_written` and `asList_map`, for lists.
-/

namespace Dialogue

namespace Checked

variable {α β : Type} {fields : Fields} {name : String} {names : List String} {value : Json}

theorem map_good (f : α → β) {x : Checked α} {a : α} (h : x = .good a) :
    f <$> x = .good (f a) := by
  rw [h]
  rfl

theorem seq_good {f : Checked (α → β)} {x : Checked α} {g : α → β} {a : α} (hf : f = .good g)
    (hx : x = .good a) : f <*> x = .good (g a) := by
  rw [hf, hx]
  rfl

theorem find?_of_get? (found : Table.get? fields name = some value) :
    find? fields (name :: names) = some value := by
  unfold find?
  rw [List.findSome?_cons, found]

theorem required_of_get? {read : Json → Checked α} {a : α}
    (found : Table.get? fields name = some value) (good : read value = .good a) :
    required fields (name :: names) read = .good a := by
  unfold required
  rw [find?_of_get? found]
  simp only [good, under_good]

theorem defaulted_of_get? {read : Json → Checked α} {a fallback : α}
    (found : Table.get? fields name = some value) (good : read value = .good a) :
    defaulted fields (name :: names) fallback read = .good a := by
  unfold defaulted
  rw [find?_of_get? found]
  simp only [good, under_good]

/-- A text that may be missing is read back from its JSON. -/
theorem maybe_text_of_get? {text : Option String}
    (found : Table.get? fields name = some (.ofText? text)) :
    maybe fields (name :: names) asText = .good text := by
  refine defaulted_of_get? found ?_
  cases text <;> rfl

/-- A value that is not null is read where null may stand. -/
theorem maybe_of_get? {read : Json → Checked α} {a : α}
    (found : Table.get? fields name = some value) (given : value ≠ .null)
    (good : read value = .good a) : maybe fields (name :: names) read = .good (some a) := by
  refine defaulted_of_get? found ?_
  unfold orNull
  split
  · exact absurd rfl given
  · rw [good]
    rfl

/-- What was written of some values is read item by item. -/
theorem items_written {γ : Type} {read : γ → Checked β} {write : α → γ} {f : α → β}
    (each : ∀ a, read (write a) = .good (f a)) (place : Nat) (items : List α) :
    Checked.items read place (items.map write) = .good (items.map f) := by
  induction items generalizing place with
  | nil => rfl
  | cons a rest ih =>
    rw [List.map_cons, Checked.items, each, under_good, ih]
    rfl

theorem asList_written {read : Json → Checked β} {write : α → Json} {f : α → β}
    (each : ∀ a, read (write a) = .good (f a)) (items : List α) :
    asList read (.arr (items.map write)) = .good (items.map f) := items_written each 0 items

/-- A list that is read item by item as it was. -/
theorem asList_map {read : Json → Checked α} {write : α → Json}
    (each : ∀ a, read (write a) = .good a) (items : List α) :
    asList read (.arr (items.map write)) = .good items := by
  rw [asList_written (f := id) each, List.map_id]

end Checked

end Dialogue
