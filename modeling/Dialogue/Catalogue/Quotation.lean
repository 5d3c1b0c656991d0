import Dialogue.Flow.Basic
import Dialogue.Regex.Matcher
import Dialogue.Text.Blank

/-!
# Quotations

The flow that gathers what a quotation needs: the kind of product, details, a quantity and how to
reach the customer, with an address when that is by mail. A confirmed request goes to a person.
-/

namespace Dialogue.Catalogue.Quotation

/-! ## Mail addresses -/

/-- How the pattern of mail addresses compares characters. -/
def exactly : Regex.Mode := ⟨false, false⟩

/-- A character of an address: no blank and no at sign. -/
def addressChar : Regex.Node :=
  .char (.set [.category .blank false, .one '@'.toNat] true) exactly

/-- One or more characters of an address. -/
def addressChars : Regex.Node := .repeated .greedy 1 none addressChar

/-- A mail address: characters, an at sign, characters, a point, and characters to the end. -/
def addressPattern : Regex.Node :=
  .row [.anchor .textStart exactly, addressChars, .char (.code '@'.toNat false) exactly,
    addressChars, .char (.code '.'.toNat false) exactly, addressChars,
    .anchor .lastLineEnd exactly]

/-- A text that is a mail address between blanks. -/
def isEmail (value : String) : Bool :=
  (addressPattern.matchFrom (Text.strip value).toList.toArray 0).matched

/-! ## Rules -/

/-- Where the choice of a contact leads. -/
def afterContact (answer : String) (_ : Fields) : Option Outcome :=
  if answer = "contact_email" then some (.next "ask_email") else some (.next "confirm")

/-- Where the confirmation leads. -/
def afterConfirm (answer : String) (_ : Fields) : Option Outcome :=
  if answer = "confirm_yes" then some .transfer else some (.next "cancelled")

/-! ## Prompts -/

/-- The list of products. -/
def categoryPrompt : Content :=
  .ofList (Frame.of
      "¡Excelente! Para prepararte una cotización, ¿qué tipo de producto te interesa?"
      (some "Cotización") none) "Ver categorías" [
    Section.of (some "Pisos") [
      Row.of "cat_ceramico" "Cerámicos" (some "Pisos cerámicos varios"),
      Row.of "cat_porcelanato" "Porcelanato" (some "Alta resistencia"),
      Row.of "cat_vinilico" "Vinílicos" (some "Fácil instalación")],
    Section.of (some "Revestimientos") [
      Row.of "cat_azulejos" "Azulejos" (some "Para paredes"),
      Row.of "cat_mosaicos" "Mosaicos" (some "Decorativos")],
    Section.of (some "Otros") [
      Row.of "cat_pegamentos" "Pegamentos" (some "Adhesivos y pastinas"),
      Row.of "cat_otro" "Otro producto" (some "Consultar disponibilidad")]]

/-- The request for details. -/
def detailsPrompt : Content :=
  .ofText ("¿Podrías darme más detalles? Por ejemplo: medidas, color, modelo o " ++
    "cualquier característica que busques.")

/-- The request for a quantity. -/
def quantityPrompt : Content :=
  .ofText ("¿Qué cantidad necesitas? (metros cuadrados, cajas, unidades)" ++
    "\n\n_Ejemplo: 50 m2, 10 cajas_")

/-- The ways to be reached. -/
def contactPrompt : Content :=
  .ofButtons (Frame.of "¿Cómo preferís que te contactemos con la cotización?" none none) [
    Button.of "contact_whatsapp" "Por WhatsApp",
    Button.of "contact_email" "Por Email",
    Button.of "contact_call" "Llamada"]

/-- The request for a mail address. -/
def emailPrompt : Content :=
  .ofText "Por favor, indicame tu email para enviarte la cotización:"

/-- The request to confirm. -/
def confirmPrompt : Content :=
  .ofButtons (Frame.of
      ("¡Perfecto! Voy a pasar tu consulta a un vendedor que te preparará la cotización. " ++
        "¿Confirmamos?") none (some "Un vendedor te contactará a la brevedad")) [
    Button.of "confirm_yes" "Sí, confirmar",
    Button.of "confirm_no" "No, cancelar"]

/-- The end of a request that was not confirmed. -/
def cancelledPrompt : Content :=
  .ofText ("Entendido, he cancelado la cotización. Si necesitas algo más, " ++
    "¡estoy para ayudarte!")

/-! ## Steps -/

/-- The steps of a quotation. -/
def steps : List Step := [
  { id := "select_category"
    prompt := .fixed categoryPrompt
    expects := .listReply
    rule := .fixed (.next "ask_details")
    saveAs := some "category" },
  { id := "ask_details"
    prompt := .fixed detailsPrompt
    expects := .text
    rule := .fixed (.next "ask_quantity")
    saveAs := some "details" },
  { id := "ask_quantity"
    prompt := .fixed quantityPrompt
    expects := .text
    rule := .fixed (.next "ask_contact")
    saveAs := some "quantity" },
  { id := "ask_contact"
    prompt := .fixed contactPrompt
    expects := .buttonReply
    rule := .decided afterContact
    saveAs := some "contactPreference" },
  { id := "ask_email"
    prompt := .fixed emailPrompt
    expects := .text
    rule := .fixed (.next "confirm")
    validator := some fun answer => .ok (isEmail answer)
    errorText := some "El email no parece válido. Por favor, ingresá un email correcto."
    saveAs := some "email" },
  { id := "confirm"
    prompt := .fixed confirmPrompt
    expects := .buttonReply
    rule := .decided afterConfirm },
  { id := "cancelled"
    prompt := .fixed cancelledPrompt
    expects := .any }]

/-- The flow of quotations. -/
def flow : Flow where
  name := "quotation"
  description := "Solicitud de cotización de productos"
  steps := steps.map fun s => (s.id, s)
  initial := "select_category"
  minutes := Flow.halfHour
  has_initial := rfl
  minutes_pos := Flow.halfHour_pos

end Dialogue.Catalogue.Quotation
