/-!
# Wording

The texts that customers read when no flow supplies one.
-/

namespace Dialogue.Wording

/-- A flow has reached its end. -/
def completed : String :=
  "¡Gracias! Hemos registrado tu consulta. ¿Hay algo más en que pueda ayudarte?"

/-- A flow hands the conversation to a person. -/
def transferred : String := "Perfecto, un vendedor te contactará en breve. 🙌"

/-- A flow was cancelled. -/
def cancelled : String :=
  "Entendido, he cancelado el proceso. ¿En qué más puedo ayudarte?"

/-- An answer was not accepted. -/
def invalidInput : String := "Respuesta no válida. Por favor, intenta de nuevo."

/-- A step has nothing to show. -/
def stepWithoutPrompt : String :=
  "Disculpá, no pude continuar con este paso. Escribí *menu* para volver a empezar."

/-- The label that opens a list. -/
def listLabel : String := "Ver opciones"

/-- The title of a section without a title. -/
def sectionTitle : String := "Opciones"

/-- A greeting when no flow can be started. -/
def welcome : String :=
  "¡Hola! 👋 Bienvenido a Reino Cerámicos. ¿En qué podemos ayudarte hoy?"

/-- An answer to what was not understood. -/
def fallback : String :=
  "Gracias por tu mensaje. Si necesitas hablar con un vendedor, escribí *vendedor* o *cotizar*."

/-- An answer to a farewell. -/
def farewell : String :=
  "¡Gracias por contactarnos! Si necesitas algo más, no dudes en escribirnos. ¡Hasta pronto! 👋"

/-- An answer to thanks. -/
def thanks : String := "¡De nada! Estamos para ayudarte. 😊"

end Dialogue.Wording
