import Dialogue.Flow.Basic
import Dialogue.Json.Display
import Dialogue.Store.Basic
import Dialogue.Text.Case
import Dialogue.Text.Search

/-!
# The main menu

The flow that a conversation opens with: a greeting with three ways on, a search for the nearest
store by location or by zone, and the hand-off to a person. Zones may be typed in free words.

Main statement: `normalizeZone_of_mem`, the id of a zone stands for itself.
-/

namespace Dialogue.Catalogue.Menu

open Text

/-! ## Zones -/

/-- The ids of the zones. -/
def zoneIds : List String :=
  ["CABA", "ZONA_NORTE", "ZONA_NOROESTE", "ZONA_OESTE", "ZONA_SUR", "ZONA_NORTE_LEJANO"]

/-- The zone id that free words mean; other words stay as they are. -/
def normalizeZone (value : String) : String :=
  if zoneIds.contains value then value
  else
    let mentions (word : String) := occursIn word (lower value)
    if mentions "caba" || mentions "capital" then "CABA"
    else if mentions "noroeste" then "ZONA_NOROESTE"
    else if mentions "norte" && mentions "lejano" then "ZONA_NORTE_LEJANO"
    else if mentions "norte" then "ZONA_NORTE"
    else if mentions "oeste" then "ZONA_OESTE"
    else if mentions "sur" then "ZONA_SUR"
    else value

theorem normalizeZone_of_mem {value : String} (h : value ∈ zoneIds) :
    normalizeZone value = value := by
  simp [normalizeZone, h]

/-! ## What is known -/

/-- The input that stands for a shared location. -/
def locationReceived : String := "location_received"

/-- The id of the row that is offered when there is no store. -/
def noStoreId : String := "store_none"

/-- What is known under a key; null when nothing is. -/
def known (data : Fields) (key : String) : Json := (Table.get? data key).getD .null

/-- The first of two keys under which something is set. -/
def either (data : Fields) (key other : String) : Json :=
  (known data key).orIfUnset (known data other)

/-! ## Rules -/

/-- Where the greeting leads. -/
def afterWelcome (answer : String) (_ : Fields) : Option Outcome :=
  if answer = "menu_comprar" then some (.switchTo "quotation")
  else if answer = "menu_consultas" then some (.switchTo "info")
  else if answer = "menu_local" then some (.next "ask_location_method")
  else some (.next "welcome")

/-- Where the choice of a method leads. -/
def afterMethod (answer : String) (_ : Fields) : Option Outcome :=
  if answer = "location_zone" then some (.next "select_zone") else some (.next "waiting_location")

/-- Where the answer to the wait for a location leads. -/
def afterWaiting (answer : String) (data : Fields) : Option Outcome :=
  if answer = locationReceived || (known data "assignedStoreCode").isTruthy then
    some (.next "transfer_to_agent")
  else if occursIn "zona" (lower answer) then some (.next "select_zone")
  else some (.next "waiting_location")

/-- Where the choice of a zone leads. -/
def afterZone (answer : String) (_ : Fields) : Option Outcome :=
  if zoneIds.contains answer then some (.next "select_store") else some (.next "select_zone")

/-! ## Prompts -/

/-- The greeting, by name when the name is known. -/
def greeting (data : Fields) : Content :=
  let name := either data "customerName" "userName"
  let body :=
    if name.isTruthy then
      "¡Hola " ++ name.display ++ "! 👋 Qué bueno verte de nuevo.\n\n¿En qué podemos ayudarte hoy?"
    else "¡Hola! 👋 Bienvenido a *Reino Cerámicos*.\n\n¿En qué podemos ayudarte?"
  .ofButtons (Frame.of body none none) [
    Button.of "menu_comprar" "Quiero comprar",
    Button.of "menu_consultas" "Consultas frecuentes",
    Button.of "menu_local" "Buscar un local"]

/-- The two ways to find a store. -/
def methodPrompt : Content :=
  .ofButtons (Frame.of
      "Para conectarte con el vendedor del Reino más cercano, ¿cómo preferís indicar tu ubicación?"
      (some "Ubicación") (some "Tenemos 24 locales en Buenos Aires")) [
    Button.of "location_gps" "Compartir ubicación",
    Button.of "location_zone" "Elegir zona"]

/-- The request for a location. -/
def waitingPrompt : Content :=
  .ofText ("Perfecto, enviame tu ubicación usando el botón de adjuntar 📎 > " ++
    "Ubicación en WhatsApp." ++
    "\n\n_Si preferís elegir la zona manualmente, escribí *zona*_")

/-- A section with a single zone. -/
def zoneSection (title id rowTitle description : String) : Section :=
  Section.of (some title) [Row.of id rowTitle (some description)]

/-- The list of zones. -/
def zonePrompt : Content :=
  .ofList (Frame.of "Seleccioná la zona donde te encontrás:" none none) "Ver zonas" [
    zoneSection "Capital Federal" "CABA" "CABA" "Paternal, Villa Crespo",
    zoneSection "Zona Norte" "ZONA_NORTE" "Zona Norte" "San Martín, Tigre, Nordelta, Maschwitz",
    zoneSection "Zona Noroeste" "ZONA_NOROESTE" "Zona Noroeste"
      "Pilar, San Miguel, José C. Paz, Bella Vista",
    zoneSection "Zona Oeste" "ZONA_OESTE" "Zona Oeste"
      "Moreno, Gral Rodriguez, Francisco Alvarez, Luján",
    zoneSection "Zona Sur" "ZONA_SUR" "Zona Sur" "Cañuelas, Berazategui",
    zoneSection "Zona Norte Lejano" "ZONA_NORTE_LEJANO" "Zona Norte Lejano"
      "Campana, Capilla del Señor"]

/-- A store as a row, described by its address. -/
def storeRow (s : Store) : Row :=
  let address := s.shortAddress Limit.rowDescription
  Row.of s.code s.name (if address = "" then none else some address)

/-- A list of stores; without any, a single row that leads to a person. -/
def storeList (body : String) (stores : List Store) : Content :=
  let (body, rows) := match stores.take Limit.rows with
    | [] =>
      ("No encontramos Reinos disponibles en este momento. " ++
        "Tocá la opción y un vendedor te contacta.",
        [Row.of noStoreId "Hablar con un vendedor" none])
    | stores => (body, stores.map storeRow)
  .ofList (Frame.of body none none) "Ver Reinos" [Section.of (some "Reinos disponibles") rows]

/-- The stores of the chosen zone, or all stores. -/
def storePrompt (stores : StoreDirectory) (data : Fields) : Lookup Content := do
  let found ← stores.byZone (known data "selectedZone")
  if found.isEmpty then
    return storeList "Estos son nuestros Reinos disponibles. ¿Cuál te queda más cómodo?"
      (← stores.active)
  else
    return storeList
      "Estos son los Reinos disponibles en tu zona. ¿Cuál te queda más cómodo?" found

/-- The name of the store that a conversation is handed to: a known name, or the name of the store
of a known code. -/
def storeName (stores : StoreDirectory) (data : Fields) : Lookup Json := do
  let name := either data "assignedStoreName" "selectedStoreName"
  let code := either data "assignedStoreCode" "selectedStoreCode"
  if !name.isTruthy && code.isTruthy then
    match ← stores.byCode code with
    | some store => return .str store.name
    | none => return .null
  else return name

/-- The hand-off. -/
def handOffPrompt (stores : StoreDirectory) (data : Fields) : Lookup Content := do
  let name ← storeName stores data
  let place := if name.isTruthy then " de *" ++ name.display ++ "*" else ""
  return .ofText ("Perfecto, un vendedor" ++ place ++ " te va a contactar por acá. 🙌")

/-! ## Steps -/

/-- The steps of the menu. -/
def steps (stores : StoreDirectory) : List Step := [
  { id := "welcome"
    prompt := .resolved none fun data => return greeting data
    expects := .buttonReply
    rule := .decided afterWelcome },
  { id := "ask_location_method"
    prompt := .fixed methodPrompt
    expects := .buttonReply
    rule := .decided afterMethod
    saveAs := some "locationMethod" },
  { id := "waiting_location"
    prompt := .fixed waitingPrompt
    expects := .any
    rule := .decided afterWaiting
    saveAs := some "locationInput" },
  { id := "select_zone"
    prompt := .fixed zonePrompt
    expects := .any
    rule := .decided afterZone
    saveAs := some "selectedZone"
    normalize := some normalizeZone },
  { id := "select_store"
    prompt := .resolved (some "stores_by_zone") (storePrompt stores)
    expects := .listReply
    rule := .fixed (.next "transfer_to_agent")
    saveAs := some "selectedStoreCode" },
  { id := "transfer_to_agent"
    prompt := .resolved (some "store_by_code") (handOffPrompt stores)
    expects := .nothing
    handsOff := true }]

/-- The main menu over a directory of stores. -/
def flow (stores : StoreDirectory) : Flow where
  name := "main_menu"
  description := "Menú principal del chatbot"
  steps := (steps stores).map fun s => (s.id, s)
  initial := "welcome"
  minutes := Flow.halfHour
  has_initial := rfl
  minutes_pos := Flow.halfHour_pos

end Dialogue.Catalogue.Menu
