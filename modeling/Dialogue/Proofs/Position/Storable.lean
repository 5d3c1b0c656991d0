import Dialogue.Proofs.Json.Readable
import Dialogue.Proofs.Position
import Dialogue.Proofs.Time.Reading

/-!
# Positions that can be stored

A position can be lost when it is stored: it may have learned more than the reader of stored
positions takes. A position is *storable* when what it has learned is within the limits of that
reader and its start is one that a clock can show. Every position that was read is storable, and
what a turn adds to it are texts, so the next one is storable too.

Main statements: `storable_of_ofText` and `exists_ofText`.
-/

namespace Dialogue.Position

open Json

/-- The digits in front of a number that a stored position may hold. -/
def mostDigits : Nat := 4300

/-- How deep the values may be nested that a stored position has learned. The position itself and
the table of these values are nested around them. -/
def roomForData : Nat := 198

theorem limits_allows : limits.Allows mostDigits := ⟨rfl, fun _ _ => rfl⟩

/-- The text of the position can be read. -/
structure Storable (p : Position) : Prop where
  data : FieldsReadable mostDigits roomForData p.data
  start : ∀ stamp ∈ p.startedAt, stamp.IsCivil

theorem storable_empty : Storable {} := ⟨.nil, nofun⟩

/-! ## Positions that were read -/

theorem readable_of_find? {depth : Nat} {fields : Fields} {name : String} {value : Json}
    (each : FieldsReadable mostDigits depth fields)
    (found : Checked.find? fields [name] = some value) : Readable mostDigits depth value := by
  unfold Checked.find? at found
  rw [List.findSome?_cons] at found
  cases here : fields.get? name with
  | none =>
    rw [here] at found
    cases found
  | some value' =>
    rw [here] at found
    cases found
    exact each _ (Table.mem_of_get? here)

theorem data_of_defaulted {fields data : Fields} {name : String}
    (each : FieldsReadable mostDigits (roomForData + 1) fields)
    (read : Checked.defaulted fields [name] [] Checked.asTable = .good data) :
    FieldsReadable mostDigits roomForData data := by
  unfold Checked.defaulted at read
  split at read
  · next value found =>
    have readable := readable_of_find? each found
    unfold Checked.asTable at read
    split at read
    · cases read
      cases readable with
      | noFields => exact .nil
      | obj each => exact each
    · cases read
  · cases read
    exact .nil

theorem start_of_maybe {fields : Fields} {name : String} {start? : Option Stamp}
    (read : Checked.maybe fields [name] Checked.asStoredStamp = .good start?) :
    ∀ stamp ∈ start?, stamp.IsCivil := by
  rintro stamp rfl
  unfold Checked.maybe Checked.defaulted at read
  split at read
  · next value found =>
    unfold Checked.orNull at read
    split at read
    · cases read
    · cases good : Checked.asStoredStamp value with
      | good s =>
        rw [good] at read
        cases read
        exact Stamp.isCivil_of_asStoredStamp good
      | bad failures =>
        rw [good] at read
        cases read
  · cases read

/-- **A position that was read is storable.** -/
theorem storable_of_ofText {text : String} {p : Position} (reads : ofText text = .good p) :
    p.Storable := by
  unfold ofText Json.parse? at reads
  cases parsed : Json.read limits text with
  | error trouble =>
    rw [parsed] at reads
    exact nomatch reads
  | ok value =>
    rw [parsed] at reads
    have readable : Readable mostDigits (roomForData + 2) value :=
      readable_of_read limits_allows parsed
    unfold readWith Checked.asRecord at reads
    simp only [Except.toOption] at reads
    split at reads
    · next fields =>
      have each : FieldsReadable mostDigits (roomForData + 1) fields := by
        cases readable with
        | noFields => exact .nil
        | obj each => exact each
      obtain ⟨withData, start?, known, start, rfl⟩ := Checked.good_of_seq reads
      obtain ⟨withStep, data?, names, data, rfl⟩ := Checked.good_of_seq known
      obtain ⟨withFlow, step?, flow, step, rfl⟩ := Checked.good_of_seq names
      cases flowRead : Checked.maybe fields ["flow_type"] Checked.asText with
      | bad failures =>
        rw [flowRead] at flow
        cases flow
      | good flow? =>
        rw [flowRead] at flow
        cases flow
        exact ⟨data_of_defaulted each data, start_of_maybe start⟩
    · cases reads

/-! ## Positions that are stored -/

theorem defaulted_asTable {fields d : Fields} {name : String}
    (found : fields.get? name = some (.obj d)) :
    Checked.defaulted fields [name] [] Checked.asTable = .good d := by
  unfold Checked.defaulted Checked.find?
  rw [List.findSome?_cons, found]
  rfl

theorem orNull_str {α : Type} (read : Json → Checked α) (s : String) :
    Checked.orNull read (.str s) = some <$> read (.str s) := rfl

theorem maybe_asStoredStamp {fields : Fields} {name : String} {start? : Option Stamp}
    (civil : ∀ stamp ∈ start?, stamp.IsCivil)
    (found : fields.get? name = some (.ofText? (start?.map Stamp.text))) :
    Checked.maybe fields [name] Checked.asStoredStamp = .good start? := by
  unfold Checked.maybe Checked.defaulted Checked.find?
  rw [List.findSome?_cons, found]
  cases start? with
  | none => rfl
  | some stamp =>
    rw [Option.map_some]
    dsimp only [Json.ofText?]
    rw [orNull_str, Stamp.asStoredStamp_text (civil stamp rfl)]
    rfl

theorem readWith_fields {p : Position} (civil : ∀ stamp ∈ p.startedAt, stamp.IsCivil)
    (learned : Fields) :
    readWith Checked.asStoredStamp (.obj [("flow_type", .ofText? p.flow),
      ("flow_step", .ofText? p.step), ("flow_data", .obj learned),
      ("flow_started_at", .ofText? (p.startedAt.map Stamp.text))]) =
        .good { p with data := learned } := by
  unfold readWith Checked.asRecord
  dsimp only
  rw [maybe_asText (s := p.flow) rfl, maybe_asText (s := p.step) rfl,
    defaulted_asTable (d := learned) rfl, maybe_asStoredStamp civil rfl]
  rfl

/-- **A storable position is read again**, with what it has learned under the same names. -/
theorem exists_ofText {p : Position} (storable : p.Storable) :
    ∃ learned, Json.SameFields p.data learned ∧
      ofText p.text = .good { p with data := Table.setAll [] learned } := by
  have texts (text? : Option String) :
      Readable mostDigits (roomForData + 1) (.ofText? text?) := by
    cases text? with
    | none => exact .null _
    | some text => exact .str _ text
  have each : FieldsReadable mostDigits (roomForData + 1)
      [("flow_type", .ofText? p.flow), ("flow_step", .ofText? p.step), ("flow_data", .obj p.data),
        ("flow_started_at", .ofText? (p.startedAt.map Stamp.text))] := by
    intro entry mem
    simp only [List.mem_cons, List.not_mem_nil, or_false] at mem
    rcases mem with rfl | rfl | rfl | rfl
    · exact texts p.flow
    · exact texts p.step
    · exact .obj storable.data
    · exact texts _
  obtain ⟨entries, reread, reads⟩ := exists_read limits_allows (by decide) rfl each
  cases reread with | cons flow reread
  cases reread with | cons step reread
  cases reread with | cons data reread
  cases reread with | cons start reread
  cases reread
  -- Texts come out as they went in, and what was learned is a table again.
  obtain rfl := flow.text _ rfl
  obtain rfl := step.text _ rfl
  obtain rfl := start.text _ rfl
  obtain ⟨learned, same, rfl⟩ := data.fields _ rfl
  refine ⟨learned, same, ?_⟩
  unfold ofText Json.parse?
  rw [show p.text = render (.obj [("flow_type", .ofText? p.flow), ("flow_step", .ofText? p.step),
    ("flow_data", .obj p.data), ("flow_started_at", .ofText? (p.startedAt.map Stamp.text))]) from
      rfl, reads]
  exact readWith_fields storable.start _

/-- A position that has learned nothing is read again as it is. -/
theorem ofText_text {p : Position} (blank : p.data = [])
    (civil : ∀ stamp ∈ p.startedAt, stamp.IsCivil) : ofText p.text = .good p := by
  have storable : p.Storable := by
    refine ⟨?_, civil⟩
    rw [blank]
    exact .nil
  obtain ⟨learned, same, reads⟩ := exists_ofText storable
  rw [blank] at same
  cases same
  obtain ⟨flow, step, data, startedAt⟩ := p
  cases blank
  exact reads

end Dialogue.Position
