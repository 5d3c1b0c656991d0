import Dialogue.Proofs.Definition.Stored
import Dialogue.Proofs.Table
import Dialogue.Startup

/-!
# What changes the registered flows

Every act that loads flows reads the database and then registers what was loaded. When the database
never fails and no check stops, the registry behind such an act is known exactly: it is the one
before with the loaded flows put in.

Main statements: `runFrom_loadDynamic`, `runFrom_loadOpening`, `runFrom_reload` and
`runFrom_deactivate`, one for each of these acts; `mem_keys_loaded_iff`, what is registered next to
the built-in flows.
-/

namespace Dialogue.Registry

open Effect Definition

variable {w : World}

theorem runFrom_codes (w : World) : runFrom w codes = (.ok (Table.keys w.registry), w) := rfl

theorem runFrom_register (code : String) (flow : Flow) (w : World) :
    runFrom w (register code flow) =
      (.ok (), { w with registry := Table.set w.registry code flow }) := rfl

theorem runFrom_unregister (code : String) (w : World) :
    runFrom w (unregister code) =
      (.ok (Table.has w.registry code), { w with registry := Table.erase w.registry code }) := rfl

/-- Registering several flows sets them all. -/
theorem runFrom_registerAll (flows : Registry) (w : World) :
    runFrom w (registerAll flows) =
      (.ok (), { w with registry := Table.setAll w.registry flows }) := by
  induction flows generalizing w with
  | nil => rfl
  | cons entry rest ih =>
    show runFrom w (register entry.1 entry.2 >>= fun _ => registerAll rest) = _
    rw [runFrom_bind_of_ok (runFrom_register entry.1 entry.2 w), ih]
    rfl

/-! ## The built-in flows -/

/-- The built-in flows over the stored stores. -/
def builtins : Registry := Catalogue.builtins Store.directory

theorem keys_builtins : builtins.keys = Catalogue.codes := rfl

theorem nodup_keys_builtins : builtins.keys.Nodup := by
  rw [keys_builtins]
  decide

/-- Registering the built-in flows puts them in front of what was there. -/
theorem runFrom_registerBuiltins (w : World) :
    runFrom w registerBuiltins =
      (.ok (), { w with registry := Table.setAll w.registry builtins }) :=
  runFrom_registerAll _ w

/-! ## Loading what is stored -/

/-- The flows of all stored definitions that are read at once. -/
def stored (w : World) : Table Flow :=
  flows Store.options (Table.keys w.registry) (readable w.backend.database)

/-- The flow that a bot can open with: the one of the first definition that is flagged. -/
def opened? (w : World) : Option (String × Flow) :=
  ((w.backend.database.first? .flows byDefault).bind ofDocument?).bind fun d =>
    d.activeFlow? Store.options (Table.keys w.registry)

/-- The flow of the active stored definition of a code. -/
def stored? (w : World) (code : String) : Option Flow :=
  (((w.backend.database.first? .flows (byCode code)).bind ofDocument?).bind fun d =>
    d.activeFlow? Store.options (Table.keys w.registry)).map (·.2)

/-- Loading all registers what is stored. -/
theorem runFrom_loadDynamic (answers : w.backend.Answers)
    (run : ∀ d ∈ active (readable w.backend.database), ∀ fault,
      ¬ d.Exceeds (some (within (Table.keys w.registry) (readable w.backend.database))) fault) :
    ∃ b, runFrom w loadDynamic = (.ok (stored w).length,
        { w with backend := b, registry := Table.setAll w.registry (stored w) }) ∧
      w.backend.Agrees b := by
  obtain ⟨b, loaded⟩ := runFrom_loadAll Store.options _ answers run
  refine ⟨b, ?_, Lookup.composable_reads.loadAll _ _ loaded⟩
  have looked : runFrom w (Act.lookup (loadAll Store.options (Table.keys w.registry))) =
      (.ok (stored w), { w with backend := b }) := by
    rw [runFrom_lookup, loaded]
    rfl
  unfold loadDynamic
  rw [runFrom_bind_of_ok (runFrom_codes w), runFrom_bind_of_ok looked,
    runFrom_bind_of_ok (runFrom_registerAll _ _)]
  rfl

/-- What keeps the stored definitions from being loaded leaves the registry as it is. -/
theorem runFrom_loadDynamic_of_error {fault : Fault} {b : Backend}
    (failed : runFrom w.backend (loadAll Store.options (Table.keys w.registry)) =
      (.error fault, b)) : runFrom w loadDynamic = (.error fault, { w with backend := b }) := by
  have looked : runFrom w (Act.lookup (loadAll Store.options (Table.keys w.registry))) =
      (.error fault, { w with backend := b }) := by
    rw [runFrom_lookup, failed]
  unfold loadDynamic
  rw [runFrom_bind_of_ok (runFrom_codes w), runFrom_bind_of_error looked]

/-- Choosing the flow to open with registers it. -/
theorem runFrom_loadOpening (answers : w.backend.Answers)
    (run : ∀ d ∈ (w.backend.database.first? .flows byDefault).bind ofDocument?, d.isActive = true →
      ∀ fault, ¬ d.Exceeds (some (Table.keys w.registry)) fault) :
    ∃ b, w.backend.Agrees b ∧ runFrom w loadOpening =
      match opened? w with
      | some (code, flow) => (.ok code, { w with backend := b, opening := code,
                                                 registry := Table.set w.registry code flow })
      | none => (.ok w.config.fallbackOpening,
          { w with backend := b, opening := w.config.fallbackOpening }) := by
  obtain ⟨b, loaded⟩ := runFrom_loadDefault Store.options _ answers run
  refine ⟨b, Lookup.composable_reads.loadDefault _ _ loaded, ?_⟩
  have looked : runFrom w (Act.lookup (loadDefault Store.options (Table.keys w.registry))) =
      (.ok (opened? w), { w with backend := b }) := by
    rw [runFrom_lookup, loaded]
    rfl
  unfold loadOpening
  rw [runFrom_bind_of_ok (runFrom_codes w), runFrom_bind_of_ok looked]
  cases opened? w with
  | none => rfl
  | some entry => rfl

theorem runFrom_loadOpening_of_not_answers (down : ¬ w.backend.Answers) :
    ∃ b, runFrom w loadOpening = (.error .databaseDown, { w with backend := b }) := by
  have looked : runFrom w (Act.lookup (loadDefault Store.options (Table.keys w.registry))) =
      (.error .databaseDown, { w with backend := w.backend.used }) := by
    unfold loadDefault
    rw [runFrom_lookup, runFrom_bind_of_error (runFrom_findDefault_of_not_answers down)]
  unfold loadOpening
  rw [runFrom_bind_of_ok (runFrom_codes w), runFrom_bind_of_error looked]
  exact ⟨_, rfl⟩

/-- Loading a flow again registers it, if its definition is active and has no problem. -/
theorem runFrom_reload (answers : w.backend.Answers) (code : String)
    (run : ∀ d ∈ (w.backend.database.first? .flows (byCode code)).bind ofDocument?,
      d.isActive = true → ∀ fault, ¬ d.Exceeds (some (Table.keys w.registry)) fault) :
    ∃ b, w.backend.Agrees b ∧ runFrom w (reload code) = (.ok (stored? w code),
      match stored? w code with
      | some flow => { w with backend := b, registry := Table.set w.registry code flow }
      | none => { w with backend := b }) := by
  obtain ⟨b, loaded⟩ := runFrom_loadOne Store.options _ answers code run
  refine ⟨b, Lookup.composable_reads.loadOne _ _ _ loaded, ?_⟩
  have looked : runFrom w (Act.lookup (loadOne Store.options (Table.keys w.registry) code)) =
      (.ok (stored? w code), { w with backend := b }) := by
    rw [runFrom_lookup, loaded]
    rfl
  unfold reload
  rw [runFrom_bind_of_ok (runFrom_codes w), runFrom_bind_of_ok looked]
  cases stored? w code with
  | none => rfl
  | some flow => rfl

/-! ## The built-in flows and those that are loaded -/

/-- The built-in flows, and over them those of some definitions that are loaded together. -/
def loaded (definitions : List Definition) : Registry :=
  Table.setAll builtins (flows Store.options Catalogue.codes definitions)

theorem get?_loaded (definitions : List Definition) (code : String) :
    Table.get? (loaded definitions) code =
      ((flows Store.options Catalogue.codes definitions).get? code).or
        (Table.get? builtins code) :=
  Table.get?_setAll _ (nodup_keys_flows _ _ _) code

/-- **The registered codes** are the built-in ones and those of the active definitions that pass the
check. -/
theorem mem_keys_loaded_iff {definitions : List Definition}
    (distinct : ((active definitions).map Definition.code).Nodup) {code : String} :
    code ∈ Table.keys (loaded definitions) ↔ code ∈ Catalogue.codes ∨
      ∃ d ∈ active definitions, code = d.code ∧
        ∃ flow, d.flow? Store.options (some (within Catalogue.codes definitions)) = some flow := by
  rw [Table.mem_keys_iff, ← keys_builtins, Table.mem_keys_iff, keys_builtins]
  constructor
  · rintro ⟨flow, found⟩
    rw [get?_loaded] at found
    rcases Option.or_eq_some_iff.1 found with stored | ⟨-, builtin⟩
    · obtain ⟨d, hd, same, made⟩ := (get?_flows_iff _ _ distinct).1 stored
      exact .inr ⟨d, hd, same, flow, made⟩
    · exact .inl ⟨flow, builtin⟩
  · rintro (⟨flow, builtin⟩ | ⟨d, hd, same, flow, made⟩)
    · rw [get?_loaded, builtin]
      exact ⟨_, Option.or_some⟩
    · rw [get?_loaded, (get?_flows_iff _ _ distinct).2 ⟨d, hd, same, made⟩]
      exact ⟨flow, rfl⟩

theorem within_of_mem_keys_loaded {definitions : List Definition}
    (distinct : ((active definitions).map Definition.code).Nodup) {code : String}
    (mem : code ∈ Table.keys (loaded definitions)) :
    code ∈ within Catalogue.codes definitions := by
  rcases (mem_keys_loaded_iff distinct).1 mem with builtin | ⟨d, hd, rfl, -⟩
  · exact List.mem_append_left _ builtin
  · exact List.mem_append_right _ (List.mem_map_of_mem hd)

/-! ## Taking out of service -/

/-- A world in which a flow was taken out of service. -/
def without (w : World) (code : String) : World :=
  match builtins.get? code with
  | some flow => { w with registry := Table.set (Table.erase w.registry code) code flow }
  | none =>
    { w with
      registry := Table.erase w.registry code
      opening := if w.opening = code then w.config.fallbackOpening else w.opening }

/-- Under the code of a flow that was taken out, the built-in flow is left, if there is one. -/
theorem get?_without (w : World) (code other : String) :
    Table.get? (without w code).registry other =
      if code = other then builtins.get? other else Table.get? w.registry other := by
  unfold without
  cases builtin : builtins.get? code with
  | some flow =>
    show Table.get? (Table.set (Table.erase w.registry code) code flow) other = _
    rw [Table.get?_set, Table.get?_erase]
    by_cases same : code = other
    · rw [if_pos same, if_pos same, ← same, builtin]
    · rw [if_neg same, if_neg same, if_neg same]
  | none =>
    show Table.get? (Table.erase w.registry code) other = _
    rw [Table.get?_erase]
    by_cases same : code = other
    · rw [if_pos same, if_pos same, ← same, builtin]
    · rw [if_neg same, if_neg same]

theorem without_backend (w : World) (code : String) : (without w code).backend = w.backend := by
  unfold without
  split <;> rfl

theorem without_clock (w : World) (code : String) : (without w code).clock = w.clock := by
  unfold without
  split <;> rfl

theorem without_config (w : World) (code : String) : (without w code).config = w.config := by
  unfold without
  split <;> rfl

theorem runFrom_deactivate (code : String) (w : World) :
    runFrom w (deactivate code) = (.ok (Table.has w.registry code), without w code) := by
  unfold deactivate without
  rw [runFrom_bind_of_ok (runFrom_unregister code w)]
  show runFrom _ (match builtins.get? code with | some flow => _ | none => _) = _
  cases builtins.get? code with
  | some flow => rfl
  | none =>
    show (Except.ok _, (if w.opening = code then _ else _ : World)) = _
    split <;> rfl

end Dialogue.Registry
