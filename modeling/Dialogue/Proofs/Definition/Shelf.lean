import Dialogue.Proofs.Definition.Reread
import Dialogue.Proofs.Definition.Stored
import Dialogue.Proofs.Table

/-!
# The shelf of saved definitions

When definitions are stored by saving alone, the documents are a copy of a simple table, the
*shelf*: under every code the definition that was last saved, in the order in which the codes were
first saved. What is found in the database is what is found on the shelf, the id and the stamps
apart; and saving puts a definition on the shelf.

Main statements: `map_readable`, `map_first?_byCode` and `map_first?_byDefault`, what is found;
`runFrom_save`, what saving does.
-/

namespace Dialogue

open Effect

/-- The documents of a backend that never fails are copies of the definitions on a shelf. -/
structure Backend.Holds (b : Backend) (shelf : Table Definition) : Prop where
  up : b.Up
  docs : List.Forall₂ (fun doc entry => Definition.Keeps doc entry.2) b.database.flows shelf
  codes : ∀ entry ∈ shelf, entry.2.code = entry.1
  distinct : shelf.keys.Nodup

theorem Backend.Holds.of_agrees {b c : Backend} {shelf : Table Definition} (holds : b.Holds shelf)
    (agrees : b.Agrees c) : c.Holds shelf where
  up := agrees.up holds.up
  docs := by
    rw [agrees.flows]
    exact holds.docs
  codes := holds.codes
  distinct := holds.distinct

namespace Definition

open Lookup

variable {doc : Fields} {d : Definition} {b : Backend} {shelf : Table Definition}

/-! ## Documents -/

/-- A document is read as what its fields are read as. -/
theorem ofDocument?_of_readFields {name : String} {value : Json}
    (found : Table.get? doc name = some value)
    (read : readFields (withDocumentId doc) = .good d) : ofDocument? doc = some d := by
  have nonempty : doc.isEmpty = false := by
    cases doc with
    | nil => cases found
    | cons entry rest => rfl
  unfold ofDocument?
  rw [nonempty, read]
  rfl

theorem ofDocument?_of_keeps (keeps : Keeps doc d) :
    (ofDocument? doc).map authored = some d.authored := by
  obtain ⟨id, -, found⟩ := keeps.id
  obtain ⟨e, read, same⟩ := readFields_of_keeps keeps
  rw [ofDocument?_of_readFields found read]
  exact congrArg some same

/-- A document that keeps a definition is read as this definition with the stamps that it holds. -/
theorem ofDocument?_of_stamps (keeps : Keeps doc d) {created updated : Stamp}
    (createdCivil : created.IsCivil)
    (hasCreated : Table.get? doc "createdAt" = some (.str created.text))
    (updatedCivil : updated.IsCivil)
    (hasUpdated : Table.get? doc "updatedAt" = some (.str updated.text)) :
    ∃ id, ofDocument? doc = some (d.stamped id created updated) := by
  obtain ⟨id, named, hasId⟩ := keeps.id
  exact ⟨id, ofDocument?_of_readFields hasId (readFields_of_stamped keeps.authored named hasId
    createdCivil hasCreated updatedCivil hasUpdated)⟩

/-- What saving writes keeps the definition, on any document with an id that was stamped once. -/
theorem keeps_setAll (d : Definition) {now created : Stamp} (civil : now.IsCivil)
    (createdCivil : created.IsCivil) {id : String} (named : id ≠ "")
    (hasId : Table.get? doc "_id" = some (.str id))
    (hasStamp : Table.get? doc "createdAt" = some (.str created.text)) :
    Keeps (Table.setAll doc (d.authoredFields ++ [("updatedAt", .str now.text)])) d := by
  have keys : Table.keys (d.authoredFields ++ [("updatedAt", .str now.text)]) =
      authoredNames ++ ["updatedAt"] := rfl
  have distinct : (Table.keys (d.authoredFields ++ [("updatedAt", .str now.text)])).Nodup := by
    rw [keys]
    decide
  have written {entry : String × Json}
      (mem : entry ∈ d.authoredFields ++ [("updatedAt", .str now.text)]) :
      Table.get? (Table.setAll doc (d.authoredFields ++ [("updatedAt", .str now.text)])) entry.1 =
        some entry.2 := by
    rw [Table.get?_setAll _ distinct, Table.get?_of_mem distinct mem]
    rfl
  have kept {name : String} (other : name ∉ authoredNames ++ ["updatedAt"]) :
      Table.get? (Table.setAll doc (d.authoredFields ++ [("updatedAt", .str now.text)])) name =
        Table.get? doc name := by
    rw [Table.get?_setAll _ distinct, Table.get?_eq_none_iff.2 (by rwa [keys])]
    rfl
  exact {
    authored := fun entry mem => written (List.mem_append_left _ mem)
    id := ⟨id, named, (kept (by decide)).trans hasId⟩
    createdAt := ⟨created, createdCivil, (kept (by decide)).trans hasStamp⟩
    updatedAt := ⟨now, civil, written (List.mem_append_right _ (List.mem_singleton_self _))⟩ }

/-! ## What is found -/

theorem holds_byCode (keeps : Keeps doc d) (code : String) :
    (byCode code).holds doc = (d.code == code) := by
  have found := keeps.authored ("code", .str d.code) (by simp [authoredFields])
  simp only at found
  simp [byCode, Query.holds, Wanted.holds, found, Bool.beq_eq_decide_eq]

theorem holds_byDefault (keeps : Keeps doc d) :
    byDefault.holds doc = (d.isDefault && d.isActive) := by
  have isDefault := keeps.authored ("isDefault", .bool d.isDefault) (by simp [authoredFields])
  have isActive := keeps.authored ("isActive", .bool d.isActive) (by simp [authoredFields])
  simp only at isDefault isActive
  simp [byDefault, Query.holds, Wanted.holds, isDefault, isActive]

/-- The first document of a query is a copy of the first definition on the shelf that is meant. -/
theorem rel_find?_holds {docs : List Fields} {query : Query} {p : Definition → Bool}
    (copies : List.Forall₂ (fun doc entry => Keeps doc entry.2) docs shelf)
    (means : ∀ doc d, Keeps doc d → query.holds doc = p d) :
    Option.Rel Keeps (docs.find? query.holds) ((shelf.find? fun entry => p entry.2).map (·.2)) := by
  induction copies with
  | nil => exact .none
  | @cons doc entry docs shelf keeps _ ih =>
    rw [List.find?_cons, List.find?_cons, means doc entry.2 keeps]
    cases p entry.2 with
    | true => exact .some keeps
    | false => exact ih

/-- What is read of a copy is the definition, the id and the stamps apart. -/
theorem map_authored_of_rel {doc? : Option Fields} {d? : Option Definition}
    (copy : Option.Rel Keeps doc? d?) :
    (doc?.bind ofDocument?).map authored = d?.map authored := by
  cases copy with
  | none => rfl
  | some keeps => exact ofDocument?_of_keeps keeps

theorem find?_code (codes : ∀ entry ∈ shelf, entry.2.code = entry.1) (code : String) :
    (shelf.find? fun entry => entry.2.code == code).map (·.2) = shelf.get? code := by
  induction shelf with
  | nil => rfl
  | cons entry rest ih =>
    rw [List.find?_cons, codes entry List.mem_cons_self, Table.get?_cons]
    by_cases same : entry.1 = code
    · rw [if_pos same, beq_iff_eq.2 same]
      rfl
    · rw [if_neg same, beq_eq_false_iff_ne.2 same]
      exact ih fun e he => codes e (List.mem_cons_of_mem _ he)

/-- The document of a code is a copy of the definition on the shelf. -/
theorem rel_first?_byCode (holds : b.Holds shelf) (code : String) :
    Option.Rel Keeps (b.database.first? .flows (byCode code)) (shelf.get? code) := by
  rw [← find?_code holds.codes]
  exact rel_find?_holds holds.docs fun _ _ keeps => holds_byCode keeps code

/-- **The definition of a code** is found as it stands on the shelf. -/
theorem map_first?_byCode (holds : b.Holds shelf) (code : String) :
    ((b.database.first? .flows (byCode code)).bind ofDocument?).map authored =
      (shelf.get? code).map authored := map_authored_of_rel (rel_first?_byCode holds code)

/-- The first definition on a shelf that is active and flagged. -/
def flagged? (shelf : Table Definition) : Option Definition :=
  (shelf.find? fun entry => entry.2.isDefault && entry.2.isActive).map (·.2)

/-- **The definition to open with** is found as it stands on the shelf. -/
theorem map_first?_byDefault (holds : b.Holds shelf) :
    ((b.database.first? .flows byDefault).bind ofDocument?).map authored =
      (flagged? shelf).map authored :=
  map_authored_of_rel (rel_find?_holds holds.docs fun _ _ keeps => holds_byDefault keeps)

/-- **All definitions** are found as they stand on the shelf, up to the limit. -/
theorem map_readable (holds : b.Holds shelf) :
    (readable b.database).map authored =
      (shelf.take Database.readLimit).map (·.2.authored) := by
  unfold readable
  have copies := List.forall₂_take Database.readLimit holds.docs
  generalize b.database.flows.take Database.readLimit = docs at copies
  generalize shelf.take Database.readLimit = shelf at copies
  induction copies with
  | nil => rfl
  | cons keeps _ ih =>
    obtain ⟨e, read, same⟩ := Option.map_eq_some_iff.1 (ofDocument?_of_keeps keeps)
    rw [List.filterMap_cons, read, List.map_cons, List.map_cons, ih, same]

/-! ## Copies -/

theorem flow?_authored (d : Definition) (source : OptionSource) (known : Known) :
    d.authored.flow? source known = d.flow? source known := by
  unfold flow?
  rw [check_authored, toFlow_authored]

theorem activeFlow?_authored (d : Definition) (source : OptionSource) (known : List String) :
    d.authored.activeFlow? source known = d.activeFlow? source known := by
  unfold activeFlow?
  rw [flow?_authored]
  rfl

/-- What does not depend on ids and stamps is the same of copies. -/
theorem bind_eq_of_map_authored {α : Type} {x y : Option Definition}
    (same : x.map authored = y.map authored) {f : Definition → Option α}
    (respects : ∀ d, f d.authored = f d) : x.bind f = y.bind f := by
  have through (z : Option Definition) : z.bind f = (z.map authored).bind f := by
    cases z with
    | none => rfl
    | some d => exact (respects d).symm
  rw [through x, through y, same]

theorem map_active_authored (definitions : List Definition) :
    active (definitions.map authored) = (active definitions).map authored :=
  List.filter_map

theorem within_authored (known : List String) (definitions : List Definition) :
    within known (definitions.map authored) = within known definitions := by
  unfold within
  rw [map_active_authored, List.map_map]
  rfl

theorem flows_authored (source : OptionSource) (known : List String)
    (definitions : List Definition) :
    flows source known (definitions.map authored) = flows source known definitions := by
  unfold flows
  rw [within_authored, map_active_authored, List.foldl_map]
  congr 1
  funext table d
  unfold put
  rw [flow?_authored]
  rfl

/-- Copies of some definitions are built into the same flows. -/
theorem flows_eq_of_map_authored {source : OptionSource} {known : List String}
    {ds es : List Definition} (same : ds.map authored = es.map authored) :
    flows source known ds = flows source known es := by
  rw [← flows_authored, same, flows_authored]

/-- A copy of an accepted definition never stops the check. -/
theorem not_exceeds_of_authored {e : Definition} (same : e.authored = d.authored)
    (compiles : ∀ s ∈ d.steps, s.Compiles) (known : Known) (fault : Regex.Fault) :
    ¬ e.Exceeds known fault := by
  rintro ⟨-, before, s, after, steps, -, pattern, found, refused, -⟩
  have listed : s ∈ e.steps := by
    rw [steps]
    exact List.mem_append_right _ List.mem_cons_self
  have steps_ := congrArg Definition.steps same
  rw [show e.steps = d.steps from steps_] at listed
  obtain ⟨compiled, ok⟩ := compiles s listed pattern found
  rw [refused] at ok
  cases ok

/-! ## Knowing other flows -/

theorem Leads.mono {known other : Known} {outcome : Outcome}
    (more : ∀ flow, d.MaySwitch known flow → d.MaySwitch other flow)
    (leads : d.Leads known outcome) : d.Leads other outcome := by
  cases outcome with
  | next step => exact leads
  | switchTo flow => exact more flow leads
  | transfer => trivial
  | complete => trivial

theorem Step.Fit.mono {known other : Known} {s : Step}
    (more : ∀ flow, d.MaySwitch known flow → d.MaySwitch other flow) (fit : s.Fit d known) :
    s.Fit d other where
  source := fit.source
  choices := fit.choices
  switch flow switch := more flow (fit.switch flow switch)
  fallback := fit.fallback.mono more
  transitions t ht := ⟨(fit.transitions t ht).1, (fit.transitions t ht).2.mono more⟩

/-- A definition that may switch to as many flows as before stays accepted. -/
theorem Accepted.mono {known other : Known}
    (more : ∀ flow, d.MaySwitch known flow → d.MaySwitch other flow)
    (accepted : d.Accepted known) : d.Accepted other where
  toSound := accepted.toSound
  compiles := accepted.compiles
  fit s hs := (accepted.fit s hs).mono more

/-- A check that stops also stops when more flows are known. -/
theorem Exceeds.mono {known other : Known} {fault : Regex.Fault}
    (more : ∀ flow, d.MaySwitch known flow → d.MaySwitch other flow)
    (exceeds : d.Exceeds known fault) : d.Exceeds other fault := by
  obtain ⟨sound, before, s, after, steps, fine, stops⟩ := exceeds
  exact ⟨sound, before, s, after, steps, fun r hr => ⟨(fine r hr).1, (fine r hr).2.mono more⟩,
    stops⟩

theorem Accepted.unknown {known : Known} (accepted : d.Accepted known) : d.Accepted none :=
  accepted.mono fun _ may => ⟨may.1, fun _ none_ => nomatch none_⟩

/-- More codes may be known, and its own code need not be. -/
theorem MaySwitch.of_subset {codes others : List String}
    (subset : ∀ code ∈ codes, code ∈ others ∨ code = d.code) (flow : String)
    (may : d.MaySwitch (some codes) flow) : d.MaySwitch (some others) flow := by
  refine ⟨may.1, fun known same => ?_⟩
  cases same
  rcases may.2 codes rfl with mem | own
  · exact subset flow mem
  · exact .inr own

theorem Accepted.of_subset {codes others : List String}
    (subset : ∀ code ∈ codes, code ∈ others ∨ code = d.code)
    (accepted : d.Accepted (some codes)) : d.Accepted (some others) :=
  accepted.mono (MaySwitch.of_subset subset)

/-- The flow of a definition does not depend on the flows that are known, if there is one. -/
theorem flow?_of_accepted {source : OptionSource} {known other : Known} {flow : Flow}
    (made : d.flow? source known = some flow) (accepted : d.Accepted other) :
    d.flow? source other = some flow :=
  flow?_eq_some_iff.2 ⟨check_eq_none_iff.2 accepted, (flow?_eq_some_iff.1 made).2⟩

theorem accepted_of_flow? {source : OptionSource} {known : Known} {flow : Flow}
    (made : d.flow? source known = some flow) : d.Accepted known :=
  check_eq_none_iff.1 (flow?_eq_some_iff.1 made).1

theorem flow?_unknown {source : OptionSource} {known : Known} {flow : Flow}
    (made : d.flow? source known = some flow) : d.flow? source none = some flow :=
  flow?_of_accepted made (accepted_of_flow? made).unknown

theorem toFlow?_of_flow? {source : OptionSource} {known : Known} {flow : Flow}
    (made : d.flow? source known = some flow) : d.toFlow? source known = .ok (some flow) := by
  obtain ⟨accepted, built⟩ := flow?_eq_some_iff.1 made
  unfold toFlow?
  rw [accepted, built]
  rfl

/-- The order in which the known codes are listed does not matter. -/
theorem flow?_eq_of_mem_iff (source : OptionSource) {codes others : List String}
    (same : ∀ code, code ∈ codes ↔ code ∈ others) (d : Definition) :
    d.flow? source (some codes) = d.flow? source (some others) := by
  refine Option.ext fun flow => ⟨fun made => ?_, fun made => ?_⟩
  · exact flow?_of_accepted made
      ((accepted_of_flow? made).of_subset fun code mem => .inl ((same code).1 mem))
  · exact flow?_of_accepted made
      ((accepted_of_flow? made).of_subset fun code mem => .inl ((same code).2 mem))

theorem activeFlow?_eq_of_mem_iff (source : OptionSource) {codes others : List String}
    (same : ∀ code, code ∈ codes ↔ code ∈ others) (d : Definition) :
    d.activeFlow? source codes = d.activeFlow? source others := by
  unfold activeFlow?
  rw [flow?_eq_of_mem_iff source same]

/-! ## Saving -/

/-- Changing the document of a code changes the definition under it. -/
theorem forall₂_setFirst {docs : List Fields} {changes : Fields}
    (copies : List.Forall₂ (fun doc entry => Keeps doc entry.2) docs shelf)
    (codes : ∀ entry ∈ shelf, entry.2.code = entry.1) (present : d.code ∈ shelf.keys)
    (changed : ∀ doc e, Keeps doc e → Keeps (Table.setAll doc changes) d) :
    List.Forall₂ (fun doc entry => Keeps doc entry.2)
      (Database.setFirst (byCode d.code).holds changes docs) (shelf.set d.code d) := by
  induction copies with
  | nil => simp [Table.keys] at present
  | @cons doc entry docs shelf keeps rest ih =>
    obtain ⟨code, e⟩ := entry
    have here : e.code = code := codes (code, e) List.mem_cons_self
    unfold Database.setFirst Table.set
    rw [holds_byCode keeps, here]
    by_cases same : code = d.code
    · rw [if_pos (beq_iff_eq.2 same), if_pos same]
      exact .cons (changed doc e keeps) rest
    · rw [if_neg (by simpa using same), if_neg same]
      have elsewhere : d.code ∈ Table.keys shelf := by
        rcases List.mem_cons.1 present with first | elsewhere
        · exact absurd first.symm same
        · exact elsewhere
      exact .cons keeps (ih (fun e he => codes e (List.mem_cons_of_mem _ he)) elsewhere)

/-- The code of a definition on the shelf is asked for exactly where it is. -/
theorem any_byCode_iff {docs : List Fields}
    (copies : List.Forall₂ (fun doc entry => Keeps doc entry.2) docs shelf)
    (codes : ∀ entry ∈ shelf, entry.2.code = entry.1) (code : String) :
    docs.any (byCode code).holds = true ↔ code ∈ shelf.keys := by
  induction copies with
  | nil => simp [Table.keys]
  | @cons doc entry docs shelf keeps rest ih =>
    rw [List.any_cons, Bool.or_eq_true, ih fun e he => codes e (List.mem_cons_of_mem _ he),
      holds_byCode keeps, codes entry List.mem_cons_self, beq_iff_eq, Table.keys, Table.keys,
      List.map_cons, List.mem_cons, eq_comm]

theorem codes_set (codes : ∀ entry ∈ shelf, entry.2.code = entry.1) (d : Definition) :
    ∀ entry ∈ shelf.set d.code d, entry.2.code = entry.1 := by
  intro entry mem
  rcases Table.mem_of_mem_set mem with rfl | mem
  · rfl
  · exact codes entry mem

/-- The documents after a save are copies of the shelf with the definition put on it. -/
theorem forall₂_upsert {db : Database}
    (copies : List.Forall₂ (fun doc entry => Keeps doc entry.2) db.flows shelf)
    (codes : ∀ entry ∈ shelf, entry.2.code = entry.1) (d : Definition) {now : Stamp}
    (civil : now.IsCivil) :
    List.Forall₂ (fun doc entry => Keeps doc entry.2)
      (db.upsert .flows (byCode d.code) (d.authoredFields ++ [("updatedAt", .str now.text)])
        [("createdAt", .str now.text)]).flows (shelf.set d.code d) := by
  unfold Database.upsert
  by_cases present : d.code ∈ shelf.keys
  · have found : db.flows.any (byCode d.code).holds = true :=
      (any_byCode_iff copies codes d.code).2 present
    rw [show db.documents .flows = db.flows from rfl, if_pos found]
    refine forall₂_setFirst copies codes present fun doc e keeps => ?_
    obtain ⟨id, named, hasId⟩ := keeps.id
    obtain ⟨created, createdCivil, hasStamp⟩ := keeps.createdAt
    exact keeps_setAll d civil createdCivil named hasId hasStamp
  · have missing : ¬ db.flows.any (byCode d.code).holds = true := fun found =>
      present ((any_byCode_iff copies codes d.code).1 found)
    rw [show db.documents .flows = db.flows from rfl, if_neg missing, Table.set_of_notMem present]
    refine List.rel_append copies (.cons ?_ .nil)
    refine keeps_setAll d civil civil ?_ rfl rfl
    intro empty
    have lists := congrArg String.toList empty
    rw [String.toList_append] at lists
    cases lists

/-- A backend in which a definition was saved. -/
def saved (b : Backend) (d : Definition) (now : Stamp) : Backend :=
  Backend.noted { b.used with
    database := b.used.database.upsert .flows (byCode d.code)
      (d.authoredFields ++ [("updatedAt", .str now.text)]) [("createdAt", .str now.text)] }
    (.databaseUsed "save_flow" "success")

theorem outage_saved (b : Backend) (d : Definition) (now : Stamp) :
    (saved b d now).database.outage = b.database.outage := by
  show (Database.upsert ..).outage = _
  unfold Database.upsert
  dsimp only
  split <;> rfl

theorem holds_saved (holds : b.Holds shelf) (d : Definition) {now : Stamp}
    (civil : now.IsCivil) : (saved b d now).Holds (shelf.set d.code d) where
  up n := by
    rw [outage_saved]
    exact holds.up n
  docs :=
    have copies : List.Forall₂ (fun doc entry => Keeps doc entry.2) b.used.database.flows shelf :=
      holds.docs
    forall₂_upsert copies holds.codes d civil
  codes := codes_set holds.codes d
  distinct := Table.nodup_keys_set holds.distinct d.code d

/-- **Saving in a database that never fails** gives what is read back then. -/
theorem runFrom_save_of_up (up : b.Up) (d : Definition) (now : Stamp) :
    ∃ c, (saved b d now).Agrees c ∧ runFrom b (d.save now) =
      (.ok ((((saved b d now).database.first? .flows (byCode d.code)).bind ofDocument?).getD d),
        c) := by
  have upAfter : (saved b d now).Up := by
    intro n
    rw [outage_saved]
    exact up n
  obtain ⟨c, found⟩ := runFrom_findByCode upAfter.answers d.code
  have wrote : runFrom b (tryCatch (do
      upsert .flows [("code", .value (.str d.code))]
        (d.authoredFields ++ [("updatedAt", .str now.text)]) [("createdAt", .str now.text)]
      note (.databaseUsed "save_flow" "success")) fun fault => do
        note (.databaseUsed "save_flow" "failed")
        throw fault) = (.ok (), saved b d now) := by
    rw [runFrom_tryCatch, runFrom_bind_of_ok (runFrom_upsert up.answers ..), runFrom_note]
    rfl
  refine ⟨c, composable_reads.findByCode d.code found, ?_⟩
  unfold save
  rw [runFrom_bind_of_ok wrote, runFrom_bind_of_ok found]
  rfl

/-- What is read back from a shelf on which a definition was put is this definition. -/
theorem exists_found_saved (holds : b.Holds shelf) (d : Definition) {now : Stamp}
    (civil : now.IsCivil) :
    ∃ e, ((saved b d now).database.first? .flows (byCode d.code)).bind ofDocument? = some e ∧
      e.authored = d.authored := by
  have same := map_first?_byCode (holds_saved holds d civil) d.code
  rw [Table.get?_set_self] at same
  exact Option.map_eq_some_iff.1 same

/-- **Saving** puts a definition on the shelf, and gives what is stored then. -/
theorem runFrom_save (holds : b.Holds shelf) (d : Definition) {now : Stamp}
    (civil : now.IsCivil) :
    ∃ e c, runFrom b (d.save now) = (.ok e, c) ∧ e.authored = d.authored ∧
      c.Holds (shelf.set d.code d) := by
  obtain ⟨c, agrees, ran⟩ := runFrom_save_of_up holds.up d now
  obtain ⟨e, found, same⟩ := exists_found_saved holds d civil
  rw [found] at ran
  exact ⟨e, c, ran, same, (holds_saved holds d civil).of_agrees agrees⟩

end Definition

/-! ## A document by itself -/

open Definition

/-- A document that holds what an author wrote of a definition. -/
def document (id : String) (d : Definition) : Fields := ("_id", .str id) :: d.authoredFields

/-- The definition that is read from such a document. -/
def copy (id : String) (d : Definition) : Definition := { d.authored with id := some id }

theorem flow?_copy (id : String) (d : Definition) (source : OptionSource) (known : Known) :
    (copy id d).flow? source known = d.flow? source known :=
  (flow?_authored (copy id d) source known).symm.trans (flow?_authored d source known)

theorem ofDocument?_document {id : String} (named : id ≠ "") (d : Definition) :
    ofDocument? (document id d) = some (copy id d) := by
  have hasId : Table.get? (withDocumentId (document id d)) "id" = some (.ofText? (some id)) := by
    unfold withDocumentId
    rw [Table.get?_set_self]
    exact congrArg some (if_neg named)
  have written : ∀ entry ∈ d.authoredFields,
      Table.get? (withDocumentId (document id d)) entry.1 = some entry.2 := by
    intro entry mem
    have other := ne_of_mem_authoredFields mem
    rw [get?_withDocumentId other.1 other.2, document, Table.get?_cons, if_neg other.1.symm]
    exact get?_authoredFields mem
  unfold ofDocument?
  rw [if_neg (by simp [document]),
    readFields_of_authored written (Checked.maybe_text_of_get? hasId) rfl rfl]
  rfl

end Dialogue
