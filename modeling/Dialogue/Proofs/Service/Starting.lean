import Dialogue.Proofs.Service.Serving

/-!
# Starting a bot

A bot that starts registers the built-in flows, then the flows of the definitions that are read at
once, and then the flow to open with. When the database holds a shelf of saved definitions, the
registry and the flow to open with are known afterwards. A bot that starts with nothing stored
serves the empty shelf.

Main statements: `World.Stocks.runFrom_loadFlows` and `World.IsBlank.runFrom_loadFlows`.
-/

namespace Dialogue

open Effect Definition

/-- The definitions on a shelf that are read at once. -/
def atOnce (shelf : Table Definition) : List Definition :=
  (shelf.take Database.readLimit).map (·.2)

/-- The built-in flows, and those of the definitions that are read at once. -/
def reloaded (shelf : Table Definition) : Registry := Registry.loaded (atOnce shelf)

/-- The flow to open with after a start, and its code. -/
def restoredOpener? (shelf : Table Definition) : Option (String × Flow) :=
  opener? shelf (Table.keys (reloaded shelf))

/-- The registered flows after a start. -/
def restored (shelf : Table Definition) : Registry :=
  match restoredOpener? shelf with
  | some (code, flow) => Table.set (reloaded shelf) code flow
  | none => reloaded shelf

variable {shelf : Table Definition} {w : World}

theorem runFrom_registerBuiltins_of_empty (empty : w.registry = []) :
    runFrom w Registry.registerBuiltins = (.ok (), { w with registry := Registry.builtins }) := by
  have apart : (Table.keys (([] : Registry) ++ Registry.builtins)).Nodup :=
    Registry.nodup_keys_builtins
  rw [Registry.runFrom_registerBuiltins, empty, Table.setAll_of_nodup apart]
  rfl

theorem runFrom_loadFlows_of_empty (empty : w.registry = []) :
    runFrom w (Startup.loadFlows true) =
      runFrom { w with registry := Registry.builtins } Startup.loadStored := by
  unfold Startup.loadFlows
  rw [runFrom_bind_of_ok (runFrom_registerBuiltins_of_empty empty), if_pos rfl]

/-- What is stored is loaded, and then the flow to open with is chosen, which may fail. -/
theorem runFrom_loadStored_of_ok {u v : World} {n : Nat} {result : Except Fault String}
    (dynamic : runFrom w Registry.loadDynamic = (.ok n, u))
    (opened : runFrom u Registry.loadOpening = (result, v)) :
    runFrom w Startup.loadStored = (.ok (), v) := by
  unfold Startup.loadStored
  rw [runFrom_tryCatch, runFrom_bind_of_ok dynamic]
  cases result with
  | ok code =>
    rw [runFrom_bind_of_ok opened]
    rfl
  | error fault =>
    rw [runFrom_bind_of_error opened]
    rfl

/-- What is stored cannot be loaded. -/
theorem runFrom_loadStored_of_error {u : World} {fault : Fault}
    (dynamic : runFrom w Registry.loadDynamic = (.error fault, u)) :
    runFrom w Startup.loadStored = (.ok (), u) := by
  unfold Startup.loadStored
  rw [runFrom_tryCatch, runFrom_bind_of_error dynamic]
  rfl

/-- What is loaded next to the built-in flows. -/
theorem World.Stocks.runFrom_loadDynamic_builtins (stocks : w.Stocks shelf)
    (builtin : w.registry = Registry.builtins) :
    ∃ n b, w.backend.Agrees b ∧ runFrom w Registry.loadDynamic =
      (.ok n, { w with backend := b, registry := reloaded shelf }) := by
  obtain ⟨n, b, agrees, ran⟩ := stocks.runFrom_loadDynamic
  rw [builtin, Registry.keys_builtins] at ran
  exact ⟨n, b, agrees, ran⟩

/-- The flow that is chosen when all are loaded. -/
theorem World.Stocks.runFrom_loadOpening_reloaded (stocks : w.Stocks shelf)
    (loaded : w.registry = reloaded shelf) :
    ∃ code b, w.backend.Agrees b ∧ runFrom w Registry.loadOpening = (.ok code, { w with
      backend := b
      registry := restored shelf
      opening := ((restoredOpener? shelf).map (·.1)).getD w.config.fallbackOpening }) := by
  obtain ⟨b, agrees, ran⟩ := stocks.runFrom_loadOpening
  rw [loaded] at ran
  change runFrom w Registry.loadOpening = match restoredOpener? shelf with
    | some (code, flow) => _
    | none => _ at ran
  unfold restored
  cases opener : restoredOpener? shelf with
  | none =>
    rw [opener] at ran
    exact ⟨_, b, agrees, ran⟩
  | some entry =>
    rw [opener] at ran
    exact ⟨_, b, agrees, ran⟩

/-- **A start** on a database that holds a shelf of saved definitions. -/
theorem World.Stocks.runFrom_loadFlows (stocks : w.Stocks shelf) (empty : w.registry = []) :
    ∃ b, w.backend.Agrees b ∧ runFrom w (Startup.loadFlows true) = (.ok (), { w with
      backend := b
      registry := restored shelf
      opening := ((restoredOpener? shelf).map (·.1)).getD w.config.fallbackOpening }) := by
  let builtin : World := { w with registry := Registry.builtins }
  obtain ⟨n, b, agrees, dynamic⟩ :=
    (stocks.of_agrees ⟨rfl, rfl⟩ rfl : builtin.Stocks shelf).runFrom_loadDynamic_builtins rfl
  let loaded : World := { builtin with backend := b, registry := reloaded shelf }
  obtain ⟨code, c, agrees', opened⟩ :=
    (stocks.of_agrees agrees rfl : loaded.Stocks shelf).runFrom_loadOpening_reloaded rfl
  refine ⟨c, Lasting.trans agrees agrees', ?_⟩
  rw [runFrom_loadFlows_of_empty empty, runFrom_loadStored_of_ok dynamic opened]

/-! ## Starting with nothing -/

/-- Nothing is registered and no definition is stored. The database never fails. -/
structure World.IsBlank (w : World) : Prop where
  registry : w.registry = []
  flows : w.backend.database.flows = []
  up : w.backend.Up
  civil : w.clock.IsCivil

theorem World.IsBlank.stocks (blank : w.IsBlank) : w.Stocks [] where
  holds := {
    up := blank.up
    docs := by
      rw [blank.flows]
      exact .nil
    codes := List.forall_mem_nil _
    distinct := List.nodup_nil }
  civil := blank.civil
  accepted := List.forall_mem_nil _

theorem restoredOpener?_nil : restoredOpener? [] = none := rfl

theorem restored_nil : restored [] = Registry.builtins := by
  unfold restored
  rw [restoredOpener?_nil]
  rfl

/-- **A start with nothing stored** serves the empty shelf. -/
theorem World.IsBlank.runFrom_loadFlows (blank : w.IsBlank) :
    ∃ v, runFrom w (Startup.loadFlows true) = (.ok (), v) ∧ v.Serves [] ∧
      v.config = w.config ∧ v.opening = w.config.fallbackOpening := by
  obtain ⟨b, agrees, ran⟩ := blank.stocks.runFrom_loadFlows blank.registry
  rw [restored_nil, restoredOpener?_nil] at ran
  exact ⟨_, ran, ⟨blank.stocks.of_agrees agrees rfl, fun _ => rfl⟩, rfl, rfl⟩

end Dialogue
