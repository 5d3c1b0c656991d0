import Dialogue.Proofs.Definition.Shelf

/-!
# Saving next to any documents

What is stored before a definition is saved may be anything: documents that cannot be read, that
lack fields, or that share a code. Saving changes the first document of the code, or adds one, and
what is read back then is in use, and flagged to open with, exactly if the saved definition is.

A lookup that gives a value has met no outage, so it gives the same value when the database never
fails.

Main statements: `composable_recovers`; `first?_saved` and `filter_flows_saved`, the document of the
code after a save and those of other codes; `switches_of_save`.
-/

namespace Dialogue

open Effect

variable {α : Type}

/-- A backend whose database does not fail any more. -/
def Backend.recovered (b : Backend) : Backend :=
  { b with database := { b.database with outage := fun _ => false } }

theorem Backend.up_recovered (b : Backend) : b.recovered.Up := fun _ => rfl

theorem Backend.recovered_of_up {b : Backend} (up : b.Up) : b.recovered = b := by
  have never : (fun _ => false) = b.database.outage := funext fun n => (up n).symm
  unfold Backend.recovered
  rw [never]

namespace Lookup

/-- What the lookup gives it also gives when the database does not fail. -/
def Recovers (l : Lookup α) : Prop :=
  ∀ ⦃b c : Backend⦄ ⦃a : α⦄, runFrom b l = (.ok a, c) → runFrom b.recovered l = (.ok a, c.recovered)

theorem answers_of_use {b c : Backend} (ran : runFrom b use = (.ok (), c)) : b.Answers := by
  by_contra down
  rw [runFrom_use_of_not_answers down] at ran
  cases ran

/-- **Whatever is looked up** is the same when the database does not fail. -/
theorem composable_recovers : Composable fun _ l => Recovers l where
  ofExcept x := by
    intro b c a ran
    cases ran
    rfl
  note e := by
    intro b c a ran
    cases ran
    rfl
  select collection query order := by
    intro b c a ran
    obtain ⟨⟨⟩, d, used, -⟩ := runFrom_bind_eq_ok_iff.1 ran
    rw [runFrom_select (answers_of_use used)] at ran
    cases ran
    rw [runFrom_select b.up_recovered.answers]
    cases collection <;> rfl
  first? collection query := by
    intro b c a ran
    obtain ⟨⟨⟩, d, used, -⟩ := runFrom_bind_eq_ok_iff.1 ran
    rw [runFrom_first? (answers_of_use used)] at ran
    cases ran
    rw [runFrom_first? b.up_recovered.answers]
    cases collection <;> rfl
  bind first rest := by
    intro b d result ran
    obtain ⟨a, c, half, ran⟩ := runFrom_bind_eq_ok_iff.1 ran
    rw [runFrom_bind_of_ok (first half)]
    exact rest a ran

end Lookup

namespace Definition

open Lookup

variable {doc fields : Fields} {d e : Definition} {b c : Backend} {now : Stamp}

/-! ## The document of a saved definition -/

/-- The fields that saving sets. -/
def written (d : Definition) (now : Stamp) : Fields :=
  d.authoredFields ++ [("updatedAt", .str now.text)]

theorem nodup_keys_written : (Table.keys (written d now)).Nodup := by
  have keys : Table.keys (written d now) = authoredNames ++ ["updatedAt"] := rfl
  rw [keys]
  decide

theorem get?_setAll_written {key : String} {value : Json} (mem : (key, value) ∈ d.authoredFields) :
    Table.get? (Table.setAll doc (written d now)) key = some value := by
  have found : Table.get? (written d now) key = some value :=
    Table.get?_of_mem nodup_keys_written (List.mem_append_left _ mem)
  rw [Table.get?_setAll _ nodup_keys_written, found]
  rfl

theorem holds_byCode_iff {code : String} :
    (byCode code).holds doc = true ↔ Table.get? doc "code" = some (.str code) := by
  simp [byCode, Query.holds, Wanted.holds]

theorem holds_setAll_written : (byCode d.code).holds (Table.setAll doc (written d now)) = true :=
  holds_byCode_iff.2 (get?_setAll_written (by simp [authoredFields]))

/-- A document that is added for a code. -/
def fresh (b : Backend) (now : Stamp) : Fields :=
  [("_id", .str ("new" ++ toString b.database.flows.length)), ("createdAt", .str now.text)]

theorem find?_setFirst {p : Fields → Bool} {docs : List Fields} (found : docs.find? p = some doc)
    (meant : ∀ doc, p (Table.setAll doc fields) = true) :
    (Database.setFirst p fields docs).find? p = some (Table.setAll doc fields) := by
  induction docs with
  | nil => cases found
  | cons first rest ih =>
    unfold Database.setFirst
    cases here : p first with
    | true =>
      rw [List.find?_cons, here] at found
      cases found
      rw [if_pos rfl, List.find?_cons, meant]
    | false =>
      rw [List.find?_cons, here] at found
      rw [if_neg (by simp), List.find?_cons, here]
      exact ih found

theorem filter_setFirst {p : Fields → Bool} (meant : ∀ doc, p (Table.setAll doc fields) = true)
    (docs : List Fields) :
    (Database.setFirst p fields docs).filter (fun doc => !p doc) =
      docs.filter fun doc => !p doc := by
  induction docs with
  | nil => rfl
  | cons first rest ih =>
    unfold Database.setFirst
    cases here : p first with
    | true =>
      rw [if_pos rfl, List.filter_cons, List.filter_cons, meant, here]
      rfl
    | false => rw [if_neg (by simp), List.filter_cons, List.filter_cons, here, ih]

/-- The documents after a save: the first one of the code is changed, or one is added. -/
theorem flows_saved (b : Backend) (d : Definition) (now : Stamp) :
    (saved b d now).database.flows =
      if b.database.flows.any (byCode d.code).holds then
        Database.setFirst (byCode d.code).holds (written d now) b.database.flows
      else b.database.flows ++ [Table.setAll (fresh b now) (written d now)] := by
  show (b.used.database.upsert .flows (byCode d.code) (written d now)
    [("createdAt", .str now.text)]).flows = _
  unfold Database.upsert
  dsimp only
  split
  · next any => exact (if_pos any).symm
  · next missing => exact (if_neg missing).symm

/-- **The first document of a code after a save** is the one that was changed or added. -/
theorem first?_saved (b : Backend) (d : Definition) (now : Stamp) :
    (saved b d now).database.first? .flows (byCode d.code) =
      some (Table.setAll ((b.database.first? .flows (byCode d.code)).getD (fresh b now))
        (written d now)) := by
  show (saved b d now).database.flows.find? _ =
    some (Table.setAll ((b.database.flows.find? _).getD _) _)
  rw [flows_saved]
  cases found : b.database.flows.find? (byCode d.code).holds with
  | some doc =>
    rw [if_pos (List.any_eq_true.2 ⟨doc, List.mem_of_find?_eq_some found, List.find?_some found⟩)]
    exact find?_setFirst found fun _ => holds_setAll_written
  | none =>
    have missing : ¬ b.database.flows.any (byCode d.code).holds = true := by
      rw [Bool.not_eq_true, List.any_eq_false]
      exact List.find?_eq_none.1 found
    rw [if_neg missing, List.find?_append, found, Option.none_or, List.find?_cons,
      holds_setAll_written]
    rfl

/-- **The documents of other codes** stay as they were. -/
theorem filter_flows_saved (b : Backend) (d : Definition) (now : Stamp) :
    ((saved b d now).database.flows.filter fun doc => !(byCode d.code).holds doc) =
      b.database.flows.filter fun doc => !(byCode d.code).holds doc := by
  rw [flows_saved]
  split
  · exact filter_setFirst (fun _ => holds_setAll_written) _
  · rw [List.filter_append, List.filter_cons, holds_setAll_written]
    exact List.append_nil _

/-- The first document of another code stays as it was. -/
theorem first?_saved_of_ne {code : String} (other : code ≠ d.code) (b : Backend) (now : Stamp) :
    (saved b d now).database.first? .flows (byCode code) =
      b.database.first? .flows (byCode code) := by
  -- A document of another code is among those that the save leaves.
  have among (docs : List Fields) : docs.find? (byCode code).holds =
      (docs.filter fun doc => !(byCode d.code).holds doc).find? (byCode code).holds := by
    rw [List.find?_filter]
    congr 1
    funext doc
    cases here : (byCode code).holds doc with
    | false => simp
    | true =>
      have elsewhere : (byCode d.code).holds doc = false := by
        rw [← Bool.not_eq_true, holds_byCode_iff, holds_byCode_iff.1 here]
        simpa using other
      rw [elsewhere]
      rfl
  show (saved b d now).database.flows.find? _ = b.database.flows.find? _
  rw [among, among b.database.flows, filter_flows_saved]

/-! ## What is read back -/

/-- How the code and the two switches of a definition are read. -/
theorem parts_of_readFields (read : readFields fields = .good e) :
    Checked.required fields ["code"] Checked.asText = .good e.code ∧
      Checked.defaulted fields ["isActive", "is_active"] true Checked.asSwitch =
        .good e.isActive ∧
      Checked.defaulted fields ["isDefault", "is_default"] false Checked.asSwitch =
        .good e.isDefault := by
  obtain ⟨f₁, updated, read₁, -, made⟩ := Checked.good_of_seq read
  obtain ⟨f₂, created, read₂, -, rfl⟩ := Checked.good_of_seq read₁
  obtain ⟨f₃, steps, read₃, -, rfl⟩ := Checked.good_of_seq read₂
  obtain ⟨f₄, minutes, read₄, -, rfl⟩ := Checked.good_of_seq read₃
  obtain ⟨f₅, initial, read₅, -, rfl⟩ := Checked.good_of_seq read₄
  obtain ⟨f₆, isDefault, read₆, flagged, rfl⟩ := Checked.good_of_seq read₅
  obtain ⟨f₇, isActive, read₇, inUse, rfl⟩ := Checked.good_of_seq read₆
  obtain ⟨f₈, description, read₈, -, rfl⟩ := Checked.good_of_seq read₇
  obtain ⟨f₉, name, read₉, -, rfl⟩ := Checked.good_of_seq read₈
  obtain ⟨f₁₀, code, read₁₀, coded, rfl⟩ := Checked.good_of_seq read₉
  cases id : Checked.maybe fields ["id"] Checked.asText with
  | bad failures =>
    rw [id] at read₁₀
    cases read₁₀
  | good id' =>
    rw [id] at read₁₀
    cases read₁₀
    cases made
    exact ⟨coded, inUse, flagged⟩

/-- A document that is found by a code holds a definition of this code. -/
theorem code_of_ofDocument? {code : String} (found : (byCode code).holds doc = true)
    (read : ofDocument? doc = some e) : e.code = code := by
  have field := holds_byCode_iff.1 found
  unfold ofDocument? at read
  split at read
  · cases read
  · cases good : readFields (withDocumentId doc) with
    | bad failures =>
      rw [good] at read
      cases read
    | good e' =>
      rw [good] at read
      cases read
      rw [← get?_withDocumentId (by decide) (by decide)] at field
      have coded := (parts_of_readFields good).1
      rw [Checked.required_of_get? field
        (show Checked.asText (.str code) = .good code from rfl)] at coded
      exact (Checked.good.inj coded).symm

theorem switches_of_ofDocument? (read : ofDocument? (Table.setAll doc (written d now)) = some e) :
    e.isActive = d.isActive ∧ e.isDefault = d.isDefault := by
  unfold ofDocument? at read
  split at read
  · cases read
  · cases good : readFields (withDocumentId (Table.setAll doc (written d now))) with
    | bad failures =>
      rw [good] at read
      cases read
    | good e' =>
      rw [good] at read
      cases read
      obtain ⟨-, inUse, flagged⟩ := parts_of_readFields good
      have active : Table.get? (Table.setAll doc (written d now)) "isActive" =
          some (.bool d.isActive) :=
        get?_setAll_written (by simp [authoredFields])
      have isDefault : Table.get? (Table.setAll doc (written d now)) "isDefault" =
          some (.bool d.isDefault) :=
        get?_setAll_written (by simp [authoredFields])
      rw [← get?_withDocumentId (by decide) (by decide)] at active isDefault
      rw [Checked.defaulted_of_get? active
        (show Checked.asSwitch (.bool d.isActive) = .good d.isActive from rfl)] at inUse
      rw [Checked.defaulted_of_get? isDefault
        (show Checked.asSwitch (.bool d.isDefault) = .good d.isDefault from rfl)] at flagged
      exact ⟨(Checked.good.inj inUse).symm, (Checked.good.inj flagged).symm⟩

/-- **What is read back after a save** is in use, and flagged, if the saved definition is. -/
theorem switches_of_save (ran : runFrom b (d.save now) = (.ok e, c)) :
    e.isActive = d.isActive ∧ e.isDefault = d.isDefault := by
  unfold save at ran
  obtain ⟨⟨⟩, f, wrote, ran⟩ := runFrom_bind_eq_ok_iff.1 ran
  obtain ⟨found, g, looked, ran⟩ := runFrom_bind_eq_ok_iff.1 ran
  cases ran
  have stored : f = saved b d now := by
    by_cases answers : b.Answers
    · rw [runFrom_tryCatch, runFrom_bind_of_ok (runFrom_upsert answers ..), runFrom_note] at wrote
      cases wrote
      rfl
    · have fails : runFrom b (upsert .flows [("code", .value (.str d.code))]
          (d.authoredFields ++ [("updatedAt", .str now.text)]) [("createdAt", .str now.text)]) =
          (.error .databaseDown, b.used) :=
        runFrom_bind_of_error (runFrom_use_of_not_answers answers)
      rw [runFrom_tryCatch, runFrom_bind_of_error fails] at wrote
      cases wrote
  subst stored
  obtain ⟨h, again⟩ := runFrom_findByCode (saved b d now).up_recovered.answers d.code
  rw [composable_recovers.findByCode d.code looked] at again
  have read : found = ((saved b d now).database.first? .flows (byCode d.code)).bind ofDocument? :=
    Except.ok.inj (Prod.mk.inj again).1
  rw [first?_saved, Option.bind_some] at read
  cases found with
  | none => exact ⟨rfl, rfl⟩
  | some e => exact switches_of_ofDocument? read.symm

end Definition

end Dialogue
