import Dialogue.Flow.Basic
import Dialogue.Text.Search

/-!
# Frequent questions

The flow that answers questions of a few topics: hours, places, contact, shipping, payment and
warranty. Each topic has a step that shows its answer.
-/

namespace Dialogue.Catalogue.Topics

/-- The topics and their answers. -/
def topics : Table String := [
  ("horarios",
    "🕐 *Horarios de atención*\n\n" ++
    "📅 Lunes a Viernes: 8:00 a 18:00 hs\n" ++
    "📅 Sábados: 8:00 a 13:00 hs\n" ++
    "📅 Domingos y feriados: Cerrado\n\n" ++
    "¡Te esperamos!"),
  ("ubicacion",
    "📍 *Ubicación*\n\n" ++
    "Tenemos Reinos en CABA y Gran Buenos Aires.\n" ++
    "Escribí *menu* y elegí *Quiero comprar* para encontrar el más cercano."),
  ("contacto",
    "📞 *Contacto*\n\n" ++
    "📱 WhatsApp: este mismo número\n" ++
    "📧 Email: ventas@reinoceramicos.com\n\n" ++
    "🌐 Instagram: @reinoceramicos"),
  ("envios",
    "🚚 *Envíos*\n\n" ++
    "✅ Entregas en CABA y GBA en 24-48hs\n" ++
    "✅ Interior: 3-5 días hábiles\n" ++
    "📦 Retiro en local: sin cargo"),
  ("pagos",
    "💳 *Formas de pago*\n\n" ++
    "✅ Efectivo\n" ++
    "✅ Transferencia bancaria\n" ++
    "✅ Mercado Pago\n" ++
    "✅ Tarjetas de débito y crédito (hasta 12 cuotas)"),
  ("garantia",
    "🛡️ *Garantía*\n\n" ++
    "✅ Garantía de fábrica en todos los productos\n" ++
    "✅ 30 días para cambios por defectos\n\n" ++
    "📋 Presentá ticket o factura y el embalaje original.")]

/-- The id of the step that shows a topic. -/
def stepId (topic : String) : String := "show_" ++ topic

/-- Where the choice of a topic leads. -/
def afterSelect (answer : String) (_ : Fields) : Option Outcome :=
  let topic := Text.removeFirst "info_" answer
  if topics.has topic then some (.next (stepId topic)) else some (.next "select_topic")

/-- Where the offer of more leads. -/
def afterMore (answer : String) (_ : Fields) : Option Outcome :=
  if answer = "more_yes" then some (.next "select_topic")
  else if answer = "more_menu" then some (.switchTo "main_menu")
  else some .complete

/-- The list of topics. -/
def selectPrompt : Content :=
  .ofList (Frame.of "¿Sobre qué tema necesitas información?" (some "Información") none)
    "Ver temas" [
    Section.of (some "Información General") [
      Row.of "info_horarios" "Horarios" (some "Días y horarios de atención"),
      Row.of "info_ubicacion" "Ubicación" (some "Dirección y cómo llegar"),
      Row.of "info_contacto" "Contacto" (some "Teléfonos y redes sociales")],
    Section.of (some "Compras") [
      Row.of "info_envios" "Envíos" (some "Zonas y costos de envío"),
      Row.of "info_pagos" "Formas de pago" (some "Medios de pago aceptados"),
      Row.of "info_garantia" "Garantía" (some "Políticas de garantía")]]

/-- The offer of more. -/
def morePrompt : Content :=
  .ofButtons (Frame.of "¿Necesitas información sobre otro tema?" none none) [
    Button.of "more_yes" "Sí, ver más",
    Button.of "more_menu" "Menú principal",
    Button.of "more_no" "No, gracias"]

/-- The step that shows a topic. -/
def topicStep (topic body : String) : Step where
  id := stepId topic
  prompt := .fixed (.ofText (body ++ "\n\n_Respondé cualquier mensaje para continuar._"))
  expects := .any
  rule := .fixed (.next "ask_more")

/-- The choice of a topic. -/
def selectStep : Step where
  id := "select_topic"
  prompt := .fixed selectPrompt
  expects := .listReply
  rule := .decided afterSelect
  saveAs := some "topic"

/-- The offer of more. -/
def moreStep : Step where
  id := "ask_more"
  prompt := .fixed morePrompt
  expects := .buttonReply
  rule := .decided afterMore

/-- The steps of the flow. -/
def steps : List Step :=
  selectStep :: topics.map (fun (topic, body) => topicStep topic body) ++ [moreStep]

/-- The flow of frequent questions. -/
def flow : Flow where
  name := "info"
  description := "Consultas frecuentes"
  steps := steps.map fun s => (s.id, s)
  initial := "select_topic"
  minutes := 15
  has_initial := rfl
  minutes_pos := by decide

end Dialogue.Catalogue.Topics
