import Dialogue.Number.Binary64
import Dialogue.Text.Fold
import Dialogue.Text.Search

/-!
# Intents

What a message outside of flows is about, told by the keywords that occur in it. The intent with the
most keywords wins, and of several the one that is listed first. Each keyword adds to the
confidence, up to certainty.

Main statement: `length_keywords_le_detect`, no intent has more keywords than the one
that is detected.
-/

namespace Dialogue

/-- What a message is about. -/
inductive Intent where
  | greeting
  | sale
  | question
  | farewell
  | thanks
  | unknown
  deriving DecidableEq

namespace Intent

/-- The name of an intent. -/
def name : Intent → String
  | .greeting => "GREETING"
  | .sale => "SALE_INTEREST"
  | .question => "QUESTION"
  | .farewell => "FAREWELL"
  | .thanks => "THANKS"
  | .unknown => "UNKNOWN"

/-- The keywords of the intents, in the order in which they are considered. -/
def vocabulary : List (Intent × List String) := [
  (.greeting, [
    "hola", "buenas", "buen dia", "buenos dias", "buenas tardes", "buenas noches",
    "hey", "que tal", "como estas", "hi", "hello"]),
  (.sale, [
    "comprar", "precio", "precios", "cotizacion", "cotizar", "presupuesto",
    "cuanto sale", "cuanto cuesta", "valor", "costo", "quiero", "necesito",
    "tienen", "hay stock", "disponible", "catalogo", "lista de precios", "vendedor"]),
  (.question, [
    "donde", "cuando", "como", "cual", "horario", "direccion", "ubicacion",
    "envio", "envios", "pago", "pagos", "abierto", "atienden", "trabajan"]),
  (.farewell, [
    "chau", "adios", "hasta luego", "nos vemos", "bye", "gracias por todo"]),
  (.thanks, [
    "gracias", "muchas gracias", "te agradezco", "agradezco", "thanks"])]

/-- An intent and the keywords that tell it. -/
structure Guess where
  intent : Intent
  keywords : List String
  deriving DecidableEq

/-- Nothing is known. -/
def noGuess : Guess := ⟨.unknown, []⟩

/-- The later guess, when it has more keywords. -/
def better (best next : Guess) : Guess :=
  if best.keywords.length < next.keywords.length then next else best

/-- The guesses of all intents for a folded message. -/
def guesses (message : String) : List Guess :=
  vocabulary.map fun (intent, keywords) => ⟨intent, keywords.filter (Text.occursIn · message)⟩

/-- What a message is about. -/
def detect (message : String) : Guess := (guesses (Text.fold message)).foldl better noGuess

/-- The confidence that one keyword adds. -/
def confidencePerKeyword : Binary64 := .ofRatio false 3 10

/-- The confidence of a guess. -/
def Guess.confidence (g : Guess) : Binary64 :=
  if g.keywords.isEmpty then .ofInt 0
  else
    let sum := (Binary64.ofInt g.keywords.length).mul confidencePerKeyword
    if sum.le (.ofInt 1) then sum else .ofInt 1

/-- A message shows the wish to buy, with the confidence of a keyword at least. -/
def isSale (message : String) : Bool :=
  let g := detect message
  g.intent = .sale && confidencePerKeyword.le g.confidence

/-- A message is a greeting. -/
def isGreeting (message : String) : Bool := (detect message).intent = .greeting

theorem length_keywords_better (best next : Guess) :
    (better best next).keywords.length = max best.keywords.length next.keywords.length := by
  unfold better
  split <;> omega

theorem length_keywords_le_foldl (best : Guess) (gs : List Guess) :
    best.keywords.length ≤ (gs.foldl better best).keywords.length ∧
      ∀ g ∈ gs, g.keywords.length ≤ (gs.foldl better best).keywords.length := by
  induction gs generalizing best with
  | nil => simp
  | cons g rest ih =>
    obtain ⟨h, hs⟩ := ih (better best g)
    have hb := length_keywords_better best g
    simp only [List.foldl_cons, List.mem_cons, forall_eq_or_imp]
    exact ⟨by omega, by omega, hs⟩

theorem length_keywords_le_detect (message : String) {g : Guess}
    (h : g ∈ guesses (Text.fold message)) :
    g.keywords.length ≤ (detect message).keywords.length :=
  (length_keywords_le_foldl noGuess _).2 g h

end Intent

end Dialogue
