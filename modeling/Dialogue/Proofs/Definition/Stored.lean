import Dialogue.Proofs.Definition.Loading
import Dialogue.Proofs.Lookup
import Dialogue.Proofs.Table

/-!
# What is read from the database

When the database never fails, finding definitions gives what its documents hold, and no more than a
hundred documents are read at once. Loading gives the flows of the definitions that are found, as
long as no check stops.

Main statements: `runFrom_findAll` and `runFrom_loadAll`; `runFrom_loadOne` and
`runFrom_loadDefault`.
-/

namespace Dialogue

open Effect

namespace Definition

open Lookup

/-- The definition that is read from a document, if any. -/
def ofDocument? (doc : Fields) : Option Definition :=
  if doc.isEmpty then none else (readFields (withDocumentId doc)).toOption

/-- The definitions that are read at once. -/
def readable (db : Database) : List Definition :=
  (db.flows.take Database.readLimit).filterMap ofDocument?

/-- The document of a code. -/
def byCode (code : String) : Query := [("code", .value (.str code))]

/-- The active document that is flagged to open with. -/
def byDefault : Query := [("isDefault", .value (.bool true)), ("isActive", .value (.bool true))]

variable {b : Backend} (source : OptionSource) (known : List String)

/-! ## Finding -/

theorem runFrom_ofDocument (doc : Fields) (b : Backend) :
    ∃ c, runFrom b (ofDocument doc) = (.ok (ofDocument? doc), c) := by
  unfold ofDocument ofDocument?
  split
  · exact ⟨_, rfl⟩
  · cases readFields (withDocumentId doc) with
    | good d => exact ⟨_, rfl⟩
    | bad failures => exact ⟨_, rfl⟩

theorem runFrom_mapM_ofDocument (docs : List Fields) (b : Backend) :
    ∃ c, runFrom b (docs.mapM ofDocument) = (.ok (docs.map ofDocument?), c) := by
  induction docs generalizing b with
  | nil => exact ⟨b, rfl⟩
  | cons doc rest ih =>
    obtain ⟨c, first⟩ := runFrom_ofDocument doc b
    obtain ⟨e, others⟩ := ih c
    rw [List.mapM_cons, runFrom_bind_of_ok first, runFrom_bind_of_ok others]
    exact ⟨e, rfl⟩

/-- **All definitions**, as far as they can be read. -/
theorem runFrom_findAll (answers : b.Answers) :
    ∃ c, runFrom b findAll = (.ok (readable b.database), c) := by
  have all : b.database.select .flows [] none = b.database.flows.take Database.readLimit := by
    have every : b.database.flows.filter (Query.holds []) = b.database.flows :=
      List.filter_eq_self.2 fun _ _ => rfl
    exact congrArg (List.take Database.readLimit) every
  obtain ⟨c, read⟩ := runFrom_mapM_ofDocument (b.database.flows.take Database.readLimit)
    (b.used.noted (.databaseUsed "find_flows" "success"))
  unfold findAll
  rw [runFrom_bind_of_ok (runFrom_select answers .flows [] none), all]
  refine ⟨c, ?_⟩
  rw [runFrom_bind_of_ok (runFrom_note _ _), runFrom_bind_of_ok read]
  have given : ((b.database.flows.take Database.readLimit).map ofDocument?).filterMap (fun d => d) =
      readable b.database := List.filterMap_map
  rw [given]
  rfl

theorem runFrom_findAll_of_not_answers (down : ¬ b.Answers) :
    runFrom b findAll = (.error .databaseDown, b.used) :=
  runFrom_bind_of_error (runFrom_bind_of_error (runFrom_use_of_not_answers down))

theorem runFrom_findByCode (answers : b.Answers) (code : String) :
    ∃ c, runFrom b (findByCode code) =
      (.ok ((b.database.first? .flows (byCode code)).bind ofDocument?), c) := by
  unfold findByCode
  rw [runFrom_bind_of_ok (runFrom_first? answers .flows _)]
  rw [runFrom_bind_of_ok (runFrom_note _ _)]
  unfold byCode
  cases b.database.first? .flows [("code", .value (.str code))] with
  | none => exact ⟨_, rfl⟩
  | some doc => exact runFrom_ofDocument doc _

theorem runFrom_findDefault (answers : b.Answers) :
    ∃ c, runFrom b findDefault =
      (.ok ((b.database.first? .flows byDefault).bind ofDocument?), c) := by
  unfold findDefault
  rw [runFrom_bind_of_ok (runFrom_first? answers .flows _)]
  unfold byDefault
  cases b.database.first? .flows
    [("isDefault", .value (.bool true)), ("isActive", .value (.bool true))] with
  | none => exact ⟨_, rfl⟩
  | some doc => exact runFrom_ofDocument doc _

theorem runFrom_findDefault_of_not_answers (down : ¬ b.Answers) :
    runFrom b findDefault = (.error .databaseDown, b.used) :=
  runFrom_bind_of_error (runFrom_bind_of_error (runFrom_use_of_not_answers down))

/-! ## Loading -/

/-- The flows of the active ones among some definitions, built together. -/
def flows (source : OptionSource) (known : List String) (definitions : List Definition) :
    Table Flow :=
  (active definitions).foldl (put source (within known definitions)) []

theorem nodup_keys_foldl_put (definitions : List Definition) {table : Table Flow}
    (distinct : table.keys.Nodup) : (definitions.foldl (put source known) table).keys.Nodup := by
  induction definitions generalizing table with
  | nil => exact distinct
  | cons d rest ih =>
    refine ih ?_
    unfold put
    split
    · exact Table.nodup_keys_set distinct _ _
    · exact distinct

theorem nodup_keys_flows (definitions : List Definition) :
    (flows source known definitions).keys.Nodup :=
  nodup_keys_foldl_put source _ _ List.nodup_nil

/-- **The flow that is loaded under a code**, where codes differ: that of the active definition, if
it passes the check. -/
theorem get?_flows_iff {definitions : List Definition}
    (distinct : ((active definitions).map Definition.code).Nodup) {code : String} {flow : Flow} :
    (flows source known definitions).get? code = some flow ↔
      ∃ d ∈ active definitions, code = d.code ∧
        d.flow? source (some (within known definitions)) = some flow := by
  constructor
  · intro loaded
    exact (mem_foldl_put (Table.mem_of_get? loaded)).resolve_left List.not_mem_nil
  · rintro ⟨d, hd, rfl, made⟩
    exact get?_foldl_put [] distinct hd made

/-- The flow of an active definition and its code. -/
def activeFlow? (d : Definition) (source : OptionSource) (known : List String) :
    Option (String × Flow) :=
  if d.isActive then (d.flow? source (some known)).map fun flow => (d.code, flow) else none

/-- **What is loaded at once** when no check stops. -/
theorem runFrom_loadAll (answers : b.Answers)
    (run : ∀ d ∈ active (readable b.database), ∀ fault,
      ¬ d.Exceeds (some (within known (readable b.database))) fault) :
    ∃ c, runFrom b (loadAll source known) =
      (.ok (flows source known (readable b.database)), c) := by
  obtain ⟨c, found⟩ := runFrom_findAll answers
  unfold loadAll
  rw [runFrom_bind_of_ok found, loadActive_eq]
  exact runFrom_loadEach source _ [] c run

theorem runFrom_loadFound (found : Option Definition)
    (run : ∀ d ∈ found, d.isActive = true → ∀ fault, ¬ d.Exceeds (some known) fault)
    (b : Backend) :
    ∃ c, runFrom b (loadFound source known found) =
      (.ok (found.bind fun d => d.activeFlow? source known), c) := by
  unfold loadFound
  cases found with
  | none => exact ⟨b, rfl⟩
  | some d =>
    rw [Option.bind_some]
    unfold activeFlow?
    dsimp only
    cases isActive : d.isActive with
    | false => exact ⟨b, rfl⟩
    | true =>
      obtain ⟨c, loaded⟩ := runFrom_load source b (run d rfl isActive)
      refine ⟨c, ?_⟩
      rw [if_neg (by decide), if_pos rfl, runFrom_bind_of_ok loaded]
      rfl

theorem runFrom_loadOne (answers : b.Answers) (code : String)
    (run : ∀ d ∈ (b.database.first? .flows (byCode code)).bind ofDocument?, d.isActive = true →
      ∀ fault, ¬ d.Exceeds (some known) fault) :
    ∃ c, runFrom b (loadOne source known code) =
      (.ok ((((b.database.first? .flows (byCode code)).bind ofDocument?).bind fun d =>
        d.activeFlow? source known).map (·.2)), c) := by
  obtain ⟨c, found⟩ := runFrom_findByCode answers code
  obtain ⟨e, loaded⟩ := runFrom_loadFound source known _ run c
  unfold loadOne
  rw [runFrom_bind_of_ok found, runFrom_bind_of_ok loaded]
  exact ⟨e, rfl⟩

theorem runFrom_loadDefault (answers : b.Answers)
    (run : ∀ d ∈ (b.database.first? .flows byDefault).bind ofDocument?, d.isActive = true →
      ∀ fault, ¬ d.Exceeds (some known) fault) :
    ∃ c, runFrom b (loadDefault source known) =
      (.ok (((b.database.first? .flows byDefault).bind ofDocument?).bind fun d =>
        d.activeFlow? source known), c) := by
  obtain ⟨c, found⟩ := runFrom_findDefault answers
  unfold loadDefault
  rw [runFrom_bind_of_ok found]
  exact runFrom_loadFound source known _ run c

end Definition

end Dialogue
