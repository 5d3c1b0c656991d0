import Dialogue.Proofs.Definition.Saved

/-!
# The ledger of saves

When definitions are stored by saving alone, the *ledger* of the saves says all that is stored:
under every code the definition of its last save, which was created at the time of its first save
and updated at that of its last.

Main statements: `Backend.Files.save`, saving makes one more entry; `Backend.Files.found`, what is
found under a code.
-/

namespace Dialogue

open Effect Definition

/-! ## Ledgers -/

/-- A definition that was saved, and what the clock showed. -/
structure Save where
  definition : Definition
  time : Stamp

/-- Saves in the order in which they were made. -/
abbrev Ledger := List Save

namespace Ledger

variable {ledger : Ledger} {code : String} {s : Save}

/-- The saves of a code. -/
def of (ledger : Ledger) (code : String) : Ledger :=
  ledger.filter fun s => s.definition.code = code

/-- The first save of a code. -/
def first? (ledger : Ledger) (code : String) : Option Save := (ledger.of code).head?

/-- The last save of a code. -/
def last? (ledger : Ledger) (code : String) : Option Save := (ledger.of code).getLast?

/-- The shelf of the definitions that were last saved. -/
def shelf (ledger : Ledger) : Table Definition :=
  ledger.foldl (fun shelf s => shelf.set s.definition.code s.definition) []

/-- What is stored under a code, with its id. -/
def entry? (ledger : Ledger) (code id : String) : Option Definition := do
  let first ← ledger.first? code
  let last ← ledger.last? code
  return last.definition.stamped id first.time last.time

theorem of_concat (ledger : Ledger) (s : Save) (code : String) :
    of (ledger ++ [s]) code = ledger.of code ++ if s.definition.code = code then [s] else [] := by
  unfold of
  rw [List.filter_append, List.filter_singleton]
  simp

theorem first?_concat (same : s.definition.code = code) :
    first? (ledger ++ [s]) code = (ledger.first? code).or (some s) := by
  unfold first?
  rw [of_concat, if_pos same, List.head?_append]
  rfl

theorem last?_concat (same : s.definition.code = code) :
    last? (ledger ++ [s]) code = some s := by
  unfold last?
  rw [of_concat, if_pos same, List.getLast?_concat]

/-- A save leaves those of other codes. -/
theorem of_concat_of_ne (other : s.definition.code ≠ code) :
    of (ledger ++ [s]) code = ledger.of code := by
  rw [of_concat, if_neg other, List.append_nil]

theorem shelf_concat (ledger : Ledger) (s : Save) :
    shelf (ledger ++ [s]) = ledger.shelf.set s.definition.code s.definition :=
  List.foldl_concat ..

/-- On the shelf is what was last saved. -/
theorem get?_shelf (ledger : Ledger) (code : String) :
    ledger.shelf.get? code = (ledger.last? code).map (·.definition) := by
  induction ledger using List.reverseRecOn with
  | nil => rfl
  | append_singleton ledger s ih =>
    rw [shelf_concat, Table.get?_set]
    by_cases same : s.definition.code = code
    · rw [if_pos same, last?_concat same]
      rfl
    · rw [if_neg same, ih]
      unfold last?
      rw [of_concat_of_ne same]

theorem mem_of_first? (first : ledger.first? code = some s) : s ∈ ledger :=
  (List.mem_filter.1 (List.mem_of_head? first)).1

theorem mem_of_last? (last : ledger.last? code = some s) : s ∈ ledger :=
  (List.mem_filter.1 (List.mem_of_getLast? last)).1

theorem exists_first?_of_last? (last : ledger.last? code = some s) :
    ∃ first, ledger.first? code = some first := by
  unfold last? at last
  unfold first?
  cases saves : ledger.of code with
  | nil =>
    rw [saves] at last
    cases last
  | cons first rest => exact ⟨first, rfl⟩

theorem first?_eq_none (last : ledger.last? code = none) : ledger.first? code = none := by
  unfold first?
  rw [List.getLast?_eq_none_iff.1 last]
  rfl

/-- A save is stored with the time of the first save of its code. -/
theorem entry?_concat (ledger : Ledger) (s : Save) :
    ∃ first, first? (ledger ++ [s]) s.definition.code = some first ∧
      ∀ id, entry? (ledger ++ [s]) s.definition.code id =
        some (s.definition.stamped id first.time s.time) := by
  obtain ⟨first, first_⟩ := exists_first?_of_last? (@last?_concat ledger _ s rfl)
  refine ⟨first, first_, fun id => ?_⟩
  unfold entry?
  rw [first_, last?_concat rfl]
  rfl

end Ledger

/-! ## What is stored -/

/-- The documents of a backend that never fails are what the ledger says. -/
structure Backend.Files (ledger : Ledger) (b : Backend) : Prop where
  holds : b.Holds ledger.shelf
  dated : ∀ code doc, b.database.first? .flows (byCode code) = some doc →
    Table.get? doc "createdAt" = (ledger.first? code).map (fun s => .str s.time.text) ∧
      Table.get? doc "updatedAt" = (ledger.last? code).map fun s => .str s.time.text
  civil : ∀ s ∈ ledger, s.time.IsCivil

namespace Backend.Files

variable {ledger : Ledger} {b c : Backend} {d : Definition} {now : Stamp}

/-- Nothing is stored. -/
theorem empty (none_ : b.database.flows = []) (up : b.Up) : b.Files [] where
  holds := {
    up := up
    docs := by
      rw [none_]
      exact .nil
    codes := fun _ mem => (List.not_mem_nil mem).elim
    distinct := List.nodup_nil }
  dated code doc found := by
    have none_' : b.database.first? .flows (byCode code) = none := by
      show b.database.flows.find? _ = none
      rw [none_]
      rfl
    rw [none_'] at found
    cases found
  civil _ mem := (List.not_mem_nil mem).elim

theorem of_agrees (files : b.Files ledger) (agrees : b.Agrees c) : c.Files ledger where
  holds := files.holds.of_agrees agrees
  dated code doc found := by
    have same : c.database.first? .flows (byCode code) =
        b.database.first? .flows (byCode code) := by
      show c.database.flows.find? _ = b.database.flows.find? _
      rw [agrees.flows]
    exact files.dated code doc (same ▸ found)
  civil := files.civil

/-- Nothing was saved under a code, or its document is a copy of the last save, with the times of
the first and the last one. -/
theorem missing_or_stored (files : b.Files ledger) (code : String) :
    (b.database.first? .flows (byCode code) = none ∧ ledger.first? code = none ∧
      ledger.last? code = none) ∨
    ∃ doc first last, b.database.first? .flows (byCode code) = some doc ∧
      ledger.first? code = some first ∧ ledger.last? code = some last ∧
      Keeps doc last.definition ∧ Table.get? doc "createdAt" = some (.str first.time.text) ∧
      Table.get? doc "updatedAt" = some (.str last.time.text) := by
  have copy := rel_first?_byCode files.holds code
  rw [Ledger.get?_shelf] at copy
  -- There is a document of the code exactly if there is a last save, so two of the cases are void.
  cases found : b.database.first? .flows (byCode code) with
  | none =>
    cases last : ledger.last? code with
    | none => exact .inl ⟨rfl, Ledger.first?_eq_none last, rfl⟩
    | some s =>
      rw [found, last] at copy
      cases copy
  | some doc =>
    cases last : ledger.last? code with
    | none =>
      rw [found, last] at copy
      cases copy
    | some s =>
      obtain ⟨created, updated⟩ := files.dated code doc found
      obtain ⟨first, first_⟩ := Ledger.exists_first?_of_last? last
      rw [found, last] at copy
      rw [first_] at created
      rw [last] at updated
      cases copy with
      | some keeps => exact .inr ⟨doc, first, s, rfl, first_, rfl, keeps, created, updated⟩

/-- The document that a save changes or adds has the time of the first save. -/
theorem createdAt_base (files : b.Files ledger) (d : Definition) (now : Stamp) :
    Table.get? ((b.database.first? .flows (byCode d.code)).getD (fresh b now)) "createdAt" =
      ((ledger.first? d.code).or (some ⟨d, now⟩)).map fun s => .str s.time.text := by
  rcases files.missing_or_stored d.code with
    ⟨none_, noSave, -⟩ | ⟨doc, first, last, found, first_, -, -, created, -⟩
  · rw [none_, noSave]
    rfl
  · rw [found, first_]
    exact created

/-- **Saving** makes one more entry. -/
theorem save (files : b.Files ledger) (d : Definition) (civil : now.IsCivil) :
    (saved b d now).Files (ledger ++ [⟨d, now⟩]) where
  holds := by
    rw [Ledger.shelf_concat]
    exact holds_saved files.holds d civil
  dated code doc found := by
    by_cases same : d.code = code
    · subst same
      rw [first?_saved] at found
      cases found
      rw [Ledger.first?_concat rfl, Ledger.last?_concat rfl,
        Table.get?_setAll _ nodup_keys_written, Table.get?_setAll _ nodup_keys_written,
        createdAt_base files]
      exact ⟨rfl, rfl⟩
    · rw [first?_saved_of_ne (Ne.symm same)] at found
      unfold Ledger.first? Ledger.last?
      rw [Ledger.of_concat_of_ne same]
      exact files.dated code doc found
  civil s mem := by
    rcases List.mem_append.1 mem with mem | mem
    · exact files.civil s mem
    · rw [List.mem_singleton.1 mem]
      exact civil

/-- **What is found under a code** is what the ledger says. -/
theorem found (files : b.Files ledger) (code : String) :
    ∃ id, (b.database.first? .flows (byCode code)).bind ofDocument? = ledger.entry? code id := by
  unfold Ledger.entry?
  rcases files.missing_or_stored code with
    ⟨none_, noSave, -⟩ | ⟨doc, first, last, found, first_, last_, keeps, created, updated⟩
  · rw [none_, noSave]
    exact ⟨"", rfl⟩
  · rw [found, first_, last_]
    exact ofDocument?_of_stamps keeps (files.civil _ (Ledger.mem_of_first? first_)) created
      (files.civil _ (Ledger.mem_of_last? last_)) updated

end Backend.Files

end Dialogue
