import Dialogue.Proofs.Database.Order
import Dialogue.Proofs.Lookup
import Dialogue.Store.Directory

/-!
# Malformed stores

A document without a code is no store, and it is left out. A document with a code is a store when
its fields are what they should be. Otherwise it is malformed, and reading it is a fault, which is
the fault of every lookup that comes across it.

Main statements: `model?_eq_some_iff`, which documents are stores; `path_of_mem_failures_record`,
what is wrong with one is located; `outcome_ofDocuments`, what reading some documents gives.
-/

namespace Dialogue

open Effect

/-! ## Failures -/

namespace Checked

variable {α β : Type}

/-- What is wrong with the data of a reading. -/
def failures : Checked α → List Failure
  | .good _ => []
  | .bad failures => failures

theorem failures_map (f : α → β) (c : Checked α) : (f <$> c).failures = c.failures := by
  cases c <;> rfl

theorem failures_seq (f : Checked (α → β)) (c : Checked α) :
    (f <*> c).failures = f.failures ++ c.failures := by
  cases f with
  | good f => cases c <;> rfl
  | bad first =>
    cases c with
    | good a => exact (List.append_nil first).symm
    | bad second => rfl

/-- What is wrong with a single value is located at the value itself. -/
def IsFlat (c : Checked α) : Prop := ∀ f ∈ c.failures, f.path = []

theorem isFlat_good (a : α) : (good a).IsFlat := nofun

theorem isFlat_flawed (flaw : Flaw) : (flawed flaw : Checked α).IsFlat := by
  intro f mem
  rw [List.mem_singleton.1 mem]

theorem isFlat_asText (value : Json) : (asText value).IsFlat := by
  cases value with
  | str s => exact isFlat_good s
  | null | bool _ | int _ | float _ | arr _ | obj _ => exact isFlat_flawed _

theorem isFlat_orNull_asText (value : Json) : (orNull asText value).IsFlat := by
  cases value with
  | null => exact isFlat_good _
  | str _ | bool _ | int _ | float _ | arr _ | obj _ =>
    unfold IsFlat orNull
    rw [failures_map]
    exact isFlat_asText _

theorem isFlat_numberedSwitch (i : Int) : (numberedSwitch i).IsFlat := by
  unfold numberedSwitch
  split
  · exact isFlat_good _
  · split
    · exact isFlat_good _
    · split
      · exact isFlat_flawed _
      · exact isFlat_flawed _

theorem isFlat_asSwitch (value : Json) : (asSwitch value).IsFlat := by
  unfold asSwitch
  split
  · exact isFlat_good _
  · exact isFlat_numberedSwitch _
  · split
    · split
      · exact isFlat_numberedSwitch _
      · exact isFlat_flawed _
    · exact isFlat_flawed _
  · split
    · exact isFlat_good _
    · exact isFlat_flawed _
  · exact isFlat_flawed _

/-- What is wrong with a single value below a field is located by the field. -/
theorem IsFlat.under {c : Checked α} (flat : c.IsFlat) (key : String) :
    ∀ f ∈ (c.under key).failures, f.path = [key] := by
  intro f mem
  cases c with
  | good a => cases mem
  | bad failures =>
    obtain ⟨g, listed, rfl⟩ := List.mem_map.1 mem
    exact congrArg (key :: ·) (flat g listed)

theorem good_of_under {c : Checked α} {key : String} {a : α} (h : c.under key = .good a) :
    c = .good a := by
  cases c with
  | good b =>
    cases h
    rfl
  | bad failures => cases h

end Checked

namespace Store

/-! ## Documents -/

/-- The value of a field; a field that is left out counts as null. -/
def field (doc : Fields) (name : String) : Json := (Table.get? doc name).getD .null

/-- The store of a document with a code, or what is wrong with its fields. -/
def record (doc : Fields) : Checked Store :=
  Store.mk (field doc "code").display
    <$> (Checked.asText
      ((field doc "name").orIfUnset (.str (field doc "code").display))).under "name"
    <*> (Checked.asText ((field doc "address").orIfUnset (.str ""))).under "address"
    <*> (Checked.orNull Checked.asText
      ((field doc "zoneName").orIfUnset (field doc "zone_name"))).under "zone_name"
    <*> (Checked.asSwitch
      ((Checked.find? doc ["isActive", "is_active"]).getD (.bool true))).under "is_active"

/-- The fields of a document say what a store is: its code, a name, which is the code where it is
unset, an address and a zone, which may be unset, and whether the store is in use. -/
structure Describes (doc : Fields) (s : Store) : Prop where
  code : (field doc "code").display = s.code
  name : (field doc "name").orIfUnset (.str s.code) = .str s.name
  address : (field doc "address").orIfUnset (.str "") = .str s.address
  zone : (field doc "zoneName").orIfUnset (field doc "zone_name") = .ofText? s.zone
  isActive : Checked.asSwitch ((Checked.find? doc ["isActive", "is_active"]).getD (.bool true)) =
    .good s.isActive

theorem asText_eq_good_iff {value : Json} {s : String} :
    Checked.asText value = .good s ↔ value = .str s := by
  cases value <;> simp [Checked.asText, Checked.flawed]

theorem orNull_asText_eq_good_iff {value : Json} {s : Option String} :
    Checked.orNull Checked.asText value = .good s ↔ value = .ofText? s := by
  cases value <;> cases s <;>
    simp [Checked.orNull, Checked.asText, Checked.flawed, Json.ofText?, Functor.map]

/-- **A document is a store** when its fields describe one. -/
theorem record_eq_good_iff {doc : Fields} {s : Store} :
    record doc = .good s ↔ Describes doc s := by
  constructor
  · intro good
    obtain ⟨closed, active, upToZone, isActive, rfl⟩ := Checked.good_of_seq good
    obtain ⟨remote, zone, upToAddress, inZone, rfl⟩ := Checked.good_of_seq upToZone
    obtain ⟨hidden, address, upToName, located, rfl⟩ := Checked.good_of_seq upToAddress
    obtain ⟨name, named, rfl⟩ := Checked.good_of_map upToName
    exact ⟨rfl, asText_eq_good_iff.1 (Checked.good_of_under named),
      asText_eq_good_iff.1 (Checked.good_of_under located),
      orNull_asText_eq_good_iff.1 (Checked.good_of_under inZone), Checked.good_of_under isActive⟩
  · intro describes
    have name : Checked.asText ((field doc "name").orIfUnset (.str (field doc "code").display)) =
        .good s.name := by rw [describes.code, describes.name, Checked.asText]
    have zone := orNull_asText_eq_good_iff.2 describes.zone
    unfold record
    rw [name, describes.address, zone, describes.isActive, describes.code]
    rfl

/-- Whatever is wrong with a document is located by a field. -/
theorem path_of_mem_failures_record {doc : Fields} {f : Failure}
    (mem : f ∈ (record doc).failures) :
    f.path = ["name"] ∨ f.path = ["address"] ∨ f.path = ["zone_name"] ∨
      f.path = ["is_active"] := by
  unfold record at mem
  rw [Checked.failures_seq, Checked.failures_seq, Checked.failures_seq, Checked.failures_map,
    List.mem_append, List.mem_append, List.mem_append] at mem
  rcases mem with ((mem | mem) | mem) | mem
  · exact .inl ((Checked.isFlat_asText _).under "name" f mem)
  · exact .inr (.inl ((Checked.isFlat_asText _).under "address" f mem))
  · exact .inr (.inr (.inl ((Checked.isFlat_orNull_asText _).under "zone_name" f mem)))
  · exact .inr (.inr (.inr ((Checked.isFlat_asSwitch _).under "is_active" f mem)))

/-- The store of a document, if it is one. -/
def model? (doc : Fields) : Option Store :=
  if (field doc "code").isTruthy then (record doc).toOption else none

/-- A document has a code, but its fields describe no store. -/
def Breaks (doc : Fields) (failures : List Failure) : Prop :=
  (field doc "code").isTruthy = true ∧ record doc = .bad failures

theorem model?_eq_some_iff {doc : Fields} {s : Store} :
    model? doc = some s ↔ (field doc "code").isTruthy = true ∧ Describes doc s := by
  unfold model?
  rw [Option.ite_none_right_eq_some, ← record_eq_good_iff]
  refine and_congr_right fun _ => ⟨Checked.good_of_toOption, fun good => ?_⟩
  rw [good]
  rfl

/-- **Reading a document** gives its store or nothing, unless it breaks. -/
theorem ofDocument_cases (doc : Fields) :
    (ofDocument doc = .ok (model? doc) ∧ ∀ failures, ¬ Breaks doc failures) ∨
      ∃ failures, Breaks doc failures ∧ ofDocument doc = .error (.invalid failures) := by
  have reads : ofDocument doc = if !(field doc "code").isTruthy then .ok none
      else some <$> (record doc).orFault := rfl
  rw [reads]
  unfold model? Breaks
  cases coded : (field doc "code").isTruthy with
  | false => exact .inl ⟨rfl, nofun⟩
  | true =>
    cases read : record doc with
    | good s => exact .inl ⟨rfl, nofun⟩
    | bad failures => exact .inr ⟨failures, ⟨rfl, rfl⟩, rfl⟩

/-! ## Several documents -/

/-- None of some documents breaks. -/
def Sound (docs : List Fields) : Prop := ∀ doc ∈ docs, ∀ failures, ¬ Breaks doc failures

/-- Some documents give the stores among them, unless one of them breaks: then the first one that
does is what is reported. -/
inductive Outcome (docs : List Fields) : Except Fault (List Store) → Prop
  | skips (sound : Sound docs) : Outcome docs (.ok (docs.filterMap model?))
  | fails {before : List Fields} {doc : Fields} {after : List Fields} {failures : List Failure}
      (split : docs = before ++ doc :: after) (sound : Sound before)
      (breaks : Breaks doc failures) : Outcome docs (.error (.invalid failures))

/-- What is given leaves out what is no store just when no document breaks. -/
structure Reads (docs : List Fields) (given : Except Fault (List Store)) : Prop where
  outcome : Outcome docs given
  skips_iff : given = .ok (docs.filterMap model?) ↔ Sound docs

theorem Outcome.reads {docs : List Fields} {given : Except Fault (List Store)}
    (outcome : Outcome docs given) : Reads docs given := by
  refine ⟨outcome, ?_⟩
  cases outcome with
  | skips sound => exact iff_of_true rfl sound
  | @fails before doc after failures split sound breaks =>
    refine iff_of_false nofun fun all => all doc ?_ failures breaks
    rw [split]
    exact List.mem_append_right _ List.mem_cons_self

theorem ofDocuments_cons (doc : Fields) (docs : List Fields) :
    ofDocuments (doc :: docs) = (do
      let found? ← ofDocument doc
      let stores ← ofDocuments docs
      return found?.toList ++ stores) := by
  unfold ofDocuments
  rw [List.mapM_cons]
  cases ofDocument doc with
  | error fault => rfl
  | ok found? =>
    cases docs.mapM ofDocument with
    | error fault => rfl
    | ok stores => cases found? <;> rfl

/-- **Reading some documents** leaves out what is no store, or reports the first one that breaks. -/
theorem outcome_ofDocuments (docs : List Fields) : Outcome docs (ofDocuments docs) := by
  induction docs with
  | nil => exact .skips nofun
  | cons doc docs ih =>
    rw [ofDocuments_cons]
    obtain ⟨given, sound⟩ | ⟨failures, breaks, given⟩ := ofDocument_cases doc
    · rw [given]
      generalize ofDocuments docs = rest at ih
      cases ih with
      | skips sound' =>
        have all : (model? doc).toList ++ docs.filterMap model? =
            (doc :: docs).filterMap model? := by
          rw [List.filterMap_cons]
          cases model? doc <;> rfl
        show Outcome (doc :: docs) (.ok ((model? doc).toList ++ docs.filterMap model?))
        rw [all]
        exact .skips (List.forall_mem_cons.2 ⟨sound, sound'⟩)
      | @fails before broken after failures split sound' breaks =>
        exact .fails (congrArg (doc :: ·) split) (List.forall_mem_cons.2 ⟨sound, sound'⟩) breaks
    · rw [given]
      exact .fails (List.nil_append _).symm nofun breaks

theorem ofDocuments_singleton (doc : Fields) :
    ofDocuments [doc] = Option.toList <$> ofDocument doc := by
  rw [ofDocuments_cons]
  cases ofDocument doc with
  | error fault => rfl
  | ok found? => cases found? <;> rfl

/-! ## Lookups -/

variable {b : Backend}

/-- The query for the active stores of some zone names. -/
def inZones (names : List String) : Query :=
  [("isActive", .value (.bool true)), ("zoneName", .anyOf (names.map Json.str))]

/-- The query for the active store of a code. -/
def byCode (code : Json) : Query :=
  [("code", Wanted.ofJson code), ("isActive", .value (.bool true))]

theorem given_allActive (answers : b.Answers) :
    (runFrom b allActive).1 =
      ofDocuments (b.database.select .stores Database.activeOnly (some byName)) := by
  unfold allActive
  rw [runFrom_bind_of_ok (Lookup.runFrom_select answers ..),
    runFrom_bind_of_ok (Lookup.runFrom_note _ _)]
  rfl

theorem given_withZoneNames (answers : b.Answers) (names : List String) :
    (runFrom b (withZoneNames names)).1 =
      ofDocuments (b.database.select .stores (inZones names) (some byName)) := by
  unfold withZoneNames
  rw [runFrom_bind_of_ok (Lookup.runFrom_select answers ..),
    runFrom_bind_of_ok (Lookup.runFrom_note _ _)]
  rfl

theorem given_withCode (answers : b.Answers) (code : Json) :
    Option.toList <$> (runFrom b (withCode code)).1 =
      ofDocuments (b.database.first? .stores (byCode code)).toList := by
  unfold withCode byCode
  rw [runFrom_bind_of_ok (Lookup.runFrom_first? answers ..)]
  cases b.database.first? .stores
    [("code", Wanted.ofJson code), ("isActive", .value (.bool true))] with
  | none => rfl
  | some doc => exact (ofDocuments_singleton doc).symm

end Store

end Dialogue
