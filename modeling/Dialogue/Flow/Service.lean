import Dialogue.Catalogue.Builtin
import Dialogue.Definition.Stored
import Dialogue.Store.Directory
import Dialogue.World

/-!
# Flows in service

The registered flows of a running bot. The built-in flows are registered first and those of stored
definitions over them. A flow is also loaded when it is first needed, replaced when its definition
was edited, and taken out when its definition was deactivated, which brings a built-in flow back.
One of the flows is the one that conversations open with.

Main statements: `run_register` and `run_unregister`, what the two changes do to the registry.
-/

namespace Dialogue.Registry

/-- The codes of the registered flows. -/
def codes : Act (List String) := return Table.keys (← get).registry

/-- Registers a flow under a code. -/
def register (code : String) (flow : Flow) : Act Unit :=
  modify fun w => { w with registry := Table.set w.registry code flow }

/-- Takes a flow out; the answer says whether there was one. -/
def unregister (code : String) : Act Bool := do
  let w ← get
  set { w with registry := Table.erase w.registry code }
  return Table.has w.registry code

/-- Registers flows one after another. -/
def registerAll (flows : Registry) : Act Unit := flows.forM fun (code, flow) => register code flow

/-- Registers the built-in flows. -/
def registerBuiltins : Act Unit := registerAll (Catalogue.builtins Store.directory)

/-- Registers the flows of all active stored definitions, and gives their number. -/
def loadDynamic : Act Nat := do
  let flows ← Act.lookup (Definition.loadAll Store.options (← codes))
  registerAll flows
  return flows.length

/-- Chooses the flow that conversations open with: the stored one that is flagged, which is
registered, or else the usual one. -/
def loadOpening : Act String := do
  match ← Act.lookup (Definition.loadDefault Store.options (← codes)) with
  | some (code, flow) =>
    register code flow
    modify fun w => { w with opening := code }
  | none => modify fun w => { w with opening := w.config.fallbackOpening }
  return (← get).opening

/-- Registers the flow of the stored definition of a code, if there is one. -/
def reload (code : String) : Act (Option Flow) := do
  match ← Act.lookup (Definition.loadOne Store.options (← codes) code) with
  | some flow =>
    register code flow
    return some flow
  | none => return none

/-- The flow of a code, which is loaded when it is not registered. -/
def ensure (code : String) : Act (Option Flow) := do
  match Registry.flow? (← get).registry code with
  | some flow => return some flow
  | none => reload code

/-- Takes a flow out of service; a built-in flow of the same code takes its place. The answer says
whether there was a flow. -/
def deactivate (code : String) : Act Bool := do
  let removed ← unregister code
  match Table.get? (Catalogue.builtins Store.directory) code with
  | some flow => register code flow
  | none =>
    modify fun w =>
      if w.opening = code then { w with opening := w.config.fallbackOpening } else w
  return removed

/-- The first problem of every registered flow. -/
def problems (registry : Registry) : Table (Option Problem) :=
  registry.map fun (code, flow) => (code, flow.problem? code (Table.keys registry))

theorem run_register (code : String) (flow : Flow) (w : World) :
    (register code flow).run.run w =
      (.ok (), { w with registry := Table.set w.registry code flow }) := rfl

theorem run_unregister (code : String) (w : World) :
    (unregister code).run.run w =
      (.ok (Table.has w.registry code), { w with registry := Table.erase w.registry code }) := rfl

end Dialogue.Registry
