import Dialogue.Catalogue.FirstContact
import Dialogue.Catalogue.Menu
import Dialogue.Catalogue.Quotation
import Dialogue.Catalogue.Topics
import Dialogue.Flow.Turn

/-!
# The built-in flows

The flows that are there from the start. A stored definition with the same code takes the place of
one of them, and gives it back when it is taken out of service.
-/

namespace Dialogue.Catalogue

/-- The code of the main menu. -/
def menuCode : String := "main_menu"

/-- The code of quotations. -/
def quotationCode : String := "quotation"

/-- The code of frequent questions. -/
def topicsCode : String := "info"

/-- The code of the first contact. -/
def firstContactCode : String := "onboarding"

/-- The built-in flows under their codes, over a directory of stores. -/
def builtins (stores : StoreDirectory) : Registry := [
  (menuCode, Menu.flow stores),
  (quotationCode, Quotation.flow),
  (topicsCode, Topics.flow),
  (firstContactCode, FirstContact.flow)]

/-- The codes of the built-in flows. -/
def codes : List String := [menuCode, quotationCode, topicsCode, firstContactCode]

theorem keys_builtins (stores : StoreDirectory) : (builtins stores).keys = codes := rfl

end Dialogue.Catalogue
