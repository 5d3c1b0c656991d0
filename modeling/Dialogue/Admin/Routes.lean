import Dialogue.Admin.Request
import Dialogue.Flow.Service
import Dialogue.Settings
import Dialogue.Text.Case

/-!
# The admin interface

What can be asked of a running bot: whether it is well, which definitions are stored, to reload
them, and to save one. A definition with a problem is rejected and nothing is stored. A saved
definition is put in service at once, or taken out when it is not active.

An unknown path is not found, a known one refuses other methods, and a fault while answering is
reported without its cause. A request for the head alone is answered without a body.
-/

namespace Dialogue.Admin

/-! ## Envelopes -/

/-- The version of the interface. -/
def version : String := ({} : Settings).apiVersion

/-- An answer that something was done. -/
def success (message : String) (data : Fields) : Answer :=
  ⟨200, .obj [("success", .bool true), ("message", .str message), ("data", .obj data),
    ("version", .str version)]⟩

/-- A list of texts as JSON. -/
def textList (texts : List String) : Json := .arr (texts.map Json.str)

/-- Nothing is found. -/
def notFound : Answer := .detail 404 (.str "Not Found")

/-! ## Health -/

/-- The bot is running. -/
def health : Act Answer := do
  return ⟨200, .obj [("status", .str "healthy"),
    ("environment", .str ({} : Settings).environment),
    ("registered_flows", .int (← get).registry.length)]⟩

/-- Whether the database and the cache answer. -/
def readiness : Act Answer := do
  let database ← Act.lookup Lookup.isAlive
  let cache ← Act.isCacheAlive
  if database && cache then return ⟨200, .obj [("status", .str "ready")]⟩
  return .detail 503 (.obj [("database", .bool database), ("cache", .bool cache)])

/-! ## Definitions -/

/-- All stored definitions and the registered codes. -/
def listFlows : Act Answer := do
  let found ← Act.lookup Definition.findAll
  return success ("Retrieved " ++ toString found.length ++ " flow definitions")
    [("flows", .arr (found.map Definition.toJson)), ("registered", textList (← Registry.codes))]

/-- Loads all stored definitions again. -/
def reloadFlows : Act Answer := do
  let loaded ← Registry.loadDynamic
  let opening ← Registry.loadOpening
  return success ("Reloaded " ++ toString loaded ++ " persisted flows")
    [("loaded", .int loaded), ("default", .str opening),
      ("registered", textList (← Registry.codes))]

/-- The stored definition of a code. -/
def getFlow (code : String) : Act Answer := do
  match ← Act.lookup (Definition.findByCode code) with
  | none => return .detail 404 (.str "Flow not found")
  | some d =>
    return success "Flow retrieved successfully"
      [("flow", d.toJson), ("registered", .bool (Table.has (← get).registry code))]

/-- Puts a saved definition in service or takes it out; tells whether it was put in, and whether a
flow was taken out. -/
def putInService (d : Definition) (code : String) : Act (Bool × Bool) := do
  if d.isActive then return ((← Registry.reload code).isSome, false)
  return (false, ← Registry.deactivate code)

/-- Saves a definition that has passed the check and puts it in service. -/
def storeFlow (d : Definition) (code : String) : Act Answer := do
  let stored ← Act.lookup (d.save (← get).clock)
  let (reloaded, deactivated) ← putInService stored code
  if stored.isDefault || code = (← get).opening then
    let _ ← Registry.loadOpening
  return success ("Flow '" ++ code ++ "' saved")
    [("flow", stored.toJson), ("reloaded", .bool reloaded), ("deactivated", .bool deactivated)]

/-- Saves a definition under a code, unless the check finds a problem. -/
def saveFlow (code : String) (d : Definition) : Act Answer := do
  if d.code ≠ code then return .detail 400 (.str "Flow code does not match the URL")
  let known := (← Registry.codes) ++ [code]
  match ← Act.lookup (Lookup.ofExcept (d.check (some known))) with
  | some problem =>
    return .detail 422 (.obj [("error_code", .str problem.code), ("message", .str problem.message)])
  | none => storeFlow d code

/-- A failure of a body: records inside a body are reported like the body itself. -/
def bodyFailure (f : Failure) : Failure :=
  Failure.under "body" (if f.flaw = .notRecord then { f with flaw := .notVariant } else f)

/-- The definition that a body holds. -/
def readBody (body : Option Json) : Checked Definition :=
  match body with
  | none | some .null => .bad [⟨["body"], .missing⟩]
  | some value =>
    match Definition.read value with
    | .good d => .good d
    | .bad failures => .bad (failures.map bodyFailure)

/-- Saves the definition of a body. -/
def putFlow (code : String) (body : Option Json) : Act Answer := do
  match readBody body with
  | .good d => saveFlow code d
  | .bad failures => return .detail 422 (textList (failures.map Failure.text))

/-! ## Routes -/

/-- What stands under a path. -/
inductive Resource where
  | health
  | readiness
  | metrics
  | flows
  | flow (code : String)
  deriving DecidableEq

/-- The last part of a path is a name; a line feed may stand behind it. -/
def ends (part name : String) : Bool := part = name || part = name ++ "\n"

/-- The resource under the parts of a path. -/
def resource? (parts : List String) : Option Resource :=
  match parts with
  | [name] =>
    if ends name "health" then some .health
    else if ends name "metrics" then some .metrics else none
  | [name, check] => if name = "health" ∧ ends check "ready" then some .readiness else none
  | [api, v, admin, flows] =>
    if api = "api" ∧ v = version ∧ admin = "admin" ∧ ends flows "flows" then some .flows else none
  | [api, v, admin, flows, code] =>
    if api = "api" ∧ v = version ∧ admin = "admin" ∧ flows = "flows" ∧ code ≠ "" then
      some (.flow code)
    else none
  | _ => none

/-- What a method does with a resource. -/
def action? (method : String) (body : Option Json) : Resource → Option (Act Answer)
  | .health => if method = "GET" then some health else none
  | .readiness => if method = "GET" then some readiness else none
  | .metrics => if method = "GET" then some (return ⟨200, .str ""⟩) else none
  | .flows => if method = "GET" then some listFlows else none
  | .flow code =>
    if method = "POST" ∧ ends code "reload" then some reloadFlows
    else if method = "GET" then some (getFlow code)
    else if method = "PUT" then some (putFlow code body)
    else none

/-- A path that names a resource once the slashes at its end are dropped. -/
def isMisspelt (parts : List String) : Bool :=
  let bare := (parts.reverse.dropWhile (· = "")).reverse
  bare.length < parts.length && (resource? bare).isSome

/-- The answer to a request, with its body. -/
def respond (r : Request) : Act Answer := do
  let parts := pathParts r.path
  match resource? parts with
  | none => return if isMisspelt parts then ⟨307, .str ""⟩ else notFound
  | some resource =>
    match action? (Text.upper r.method) r.body resource with
    | none => return .detail 405 (.str "Method Not Allowed")
    | some action =>
      tryCatch action fun _ => return ⟨500, .str "Internal Server Error"⟩

/-- The answer to a request. A request for the head alone gets no body. -/
def handle (r : Request) : Act Answer := do
  let answer ← respond r
  return if Text.upper r.method = "HEAD" then { answer with body := .str "" } else answer

end Dialogue.Admin
