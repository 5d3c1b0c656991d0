import Dialogue.Checked.Fields
import Dialogue.Text.Blank
import Dialogue.Text.Case

/-!
# Settings

What an operator can set, with the values that hold otherwise. The name of a setting counts in any
case. A setting that does not exist is refused, and so is a deadline that is not in the future.
-/

namespace Dialogue

/-- The settings of the bot. -/
structure Settings where
  mongoUri : String := "mongodb://localhost:27017/supportbot"
  maxPoolSize : Int := 10
  minPoolSize : Int := 1
  mongoSsl : Bool := false
  redisUrl : String := "redis://localhost:6379"
  stateSeconds : Int := 86400
  flowMinutes : Int := 30
  flowCode : String := "main_menu"
  cancelCommands : String := "cancelar,salir,menu,inicio,volver,atras"
  loadDynamicFlows : Bool := true
  environment : String := "production"
  logLevel : String := ""
  workers : Int := 4
  corsOrigins : String := ""
  apiVersion : String := "v1"
  deriving DecidableEq

namespace Settings

open Checked

/-- The names of the settings. -/
def names : List String := [
  "mongo_uri", "max_pool_size", "min_pool_size", "mongo_ssl", "redis_url",
  "conversation_state_ttl_seconds", "default_flow_timeout_minutes", "default_flow_code",
  "flow_cancel_commands", "load_dynamic_flows", "environment", "log_level", "workers",
  "cors_allowed_origins", "api_version"]

/-- The settings as JSON. -/
def fields (s : Settings) : Fields :=
  names.zip [.str s.mongoUri, .int s.maxPoolSize, .int s.minPoolSize, .bool s.mongoSsl,
    .str s.redisUrl, .int s.stateSeconds, .int s.flowMinutes, .str s.flowCode,
    .str s.cancelCommands, .bool s.loadDynamicFlows, .str s.environment, .str s.logLevel,
    .int s.workers, .str s.corsOrigins, .str s.apiVersion]

/-- A number of minutes in the future. -/
def asDeadline (value : Json) : Checked Int :=
  (asInteger value).andThen fun i => if i ≤ 0 then flawed .refused else .good i

/-- The values under the names of the settings. A name counts in any case, and the first of several
spellings wins. -/
def underNames (values : Fields) : Fields :=
  values.map fun (key, value) =>
    if names.contains (Text.lower key) then (Text.lower key, value) else (key, value)

/-- Nothing is set that does not exist. -/
def noOthers (values : Fields) : Checked Unit :=
  match values.filter fun field => !names.contains field.1 with
  | [] => .good ()
  | others => .bad (others.map fun field => ⟨[field.1], .unexpected⟩)

/-- Reads settings. -/
def read (given : Fields) : Checked Settings :=
  let values := underNames given
  let d : Settings := {}
  let text (name fallback : String) := defaulted values [name] fallback asText
  let integer (name : String) (fallback : Int) := defaulted values [name] fallback asInteger
  let switch (name : String) (fallback : Bool) := defaulted values [name] fallback asSwitch
  Settings.mk <$> text "mongo_uri" d.mongoUri
    <*> integer "max_pool_size" d.maxPoolSize
    <*> integer "min_pool_size" d.minPoolSize
    <*> switch "mongo_ssl" d.mongoSsl
    <*> text "redis_url" d.redisUrl
    <*> integer "conversation_state_ttl_seconds" d.stateSeconds
    <*> defaulted values ["default_flow_timeout_minutes"] d.flowMinutes asDeadline
    <*> text "default_flow_code" d.flowCode
    <*> text "flow_cancel_commands" d.cancelCommands
    <*> switch "load_dynamic_flows" d.loadDynamicFlows
    <*> text "environment" d.environment
    <*> text "log_level" d.logLevel
    <*> integer "workers" d.workers
    <*> text "cors_allowed_origins" d.corsOrigins
    <*> text "api_version" d.apiVersion
    <* noOthers values

/-- Characters parted at every comma. -/
def splitCommas : List Char → List (List Char)
  | [] => [[]]
  | c :: cs =>
    if c = ',' then [] :: splitCommas cs
    else match splitCommas cs with
      | [] => [[c]]
      | part :: rest => (c :: part) :: rest

/-- The commands that cancel a flow: the parts between the commas that are not blank. -/
def cancelList (s : Settings) : List String :=
  ((splitCommas s.cancelCommands.toList).map fun part => Text.strip (String.ofList part)).filterMap
    fun part => if part = "" then none else some (Text.lower part)

/-! ## Log levels -/

/-- The levels by name. -/
def levels : Table Int := [
  ("CRITICAL", 50), ("FATAL", 50), ("ERROR", 40), ("WARNING", 30), ("WARN", 30), ("INFO", 20),
  ("DEBUG", 10), ("NOTSET", 0)]

/-- The level that is asked for: directly, by the settings, or by the environment. A name in any
case counts, and an unknown name stands for the usual level. -/
def resolveLevel (s : Settings) (asked : String) : Int :=
  let name :=
    if asked ≠ "" then asked
    else if s.logLevel ≠ "" then s.logLevel
    else if s.environment = "development" then "DEBUG" else "INFO"
  (levels.get? (Text.upper name)).getD 20

theorem read_nil : read [] = .good {} := rfl

end Settings

end Dialogue
