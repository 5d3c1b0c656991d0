import Dialogue.Flow.Basic
import Dialogue.Json.Display
import Dialogue.Text.Blank
import Dialogue.Text.Case
import Dialogue.Text.Class

/-!
# First contact

The flow for new customers: it asks for a name and then offers the main ways on.
-/

namespace Dialogue.Catalogue.FirstContact

open Text

/-- A name: two to sixty characters between blanks, none of them a digit. -/
def isName (value : String) : Bool :=
  let name := (strip value).toList
  2 ≤ name.length && name.length ≤ 60 && !name.any isDigit

/-- The words of a name, each with a capital and parted by single blanks. -/
def cleanName (value : String) : String := " ".intercalate ((words value).map capitalize)

/-- Where the greeting leads. -/
def afterGreeting (answer : String) (_ : Fields) : Option Outcome :=
  if answer = "menu_comprar" then some (.switchTo "quotation")
  else if answer = "menu_consultas" then some (.switchTo "info")
  else some (.next "confirm_name")

/-- The greeting by name. -/
def greeting (data : Fields) : Content :=
  let known := (Table.get? data "userName").getD .null
  let name := if known.isTruthy then known.display else "amigo"
  .ofButtons (Frame.of ("¡Mucho gusto, *" ++ name ++ "*! 🙌\n\n¿En qué podemos ayudarte hoy?")
      none none) [
    Button.of "menu_comprar" "Quiero comprar",
    Button.of "menu_consultas" "Tengo consultas"]

/-- The question for a name. -/
def namePrompt : Content :=
  .ofText ("¡Hola! 👋 Bienvenido a *Reino Cerámicos*." ++
    "\n\nPara poder ayudarte mejor, ¿cómo te llamas?")

/-- The steps of the flow. -/
def steps : List Step := [
  { id := "ask_name"
    prompt := .fixed namePrompt
    expects := .text
    rule := .fixed (.next "confirm_name")
    validator := some fun answer => .ok (isName answer)
    errorText := some "No llegué a entender tu nombre. ¿Me lo escribís de nuevo?"
    saveAs := some "userName"
    normalize := some cleanName },
  { id := "confirm_name"
    prompt := .resolved none fun data => return greeting data
    expects := .buttonReply
    rule := .decided afterGreeting }]

/-- The flow for new customers. -/
def flow : Flow where
  name := "onboarding"
  description := "Bienvenida para clientes nuevos"
  steps := steps.map fun s => (s.id, s)
  initial := "ask_name"
  minutes := Flow.halfHour
  has_initial := rfl
  minutes_pos := Flow.halfHour_pos

end Dialogue.Catalogue.FirstContact
