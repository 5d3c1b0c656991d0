import Dialogue.Proofs.Catalogue.Gathering
import Dialogue.Proofs.Conversation.Runs

/-!
# A seller receives complete quotations

Where the built-in flows are the only ones, a quotation is entered at its first step alone, by
whatever way a customer gets there: none of its steps switches, and no other flow goes on to one of
its steps. What it gathers is known at each of its steps from then on, through questions that are
asked again and through what is stored and read back. So the position at the confirmation holds all
that a seller needs, and no other step of a quotation hands the conversation to a person.

Main statements: `persists_quotes`, what answers keep; `confirm_of_transferred`, from where a
quotation is handed over; `quotesCompletely_of_transcript`.
-/

namespace Dialogue

open Effect Catalogue Conversation

/-- Only built-in flows are registered, over a directory of stores. -/
def Registry.BuiltinOnly (stores : StoreDirectory) (registry : Registry) : Prop :=
  ∀ ⦃code flow⦄, registry.flow? code = some flow →
    (Catalogue.builtins stores).flow? code = some flow

/-- A position in a quotation holds what is known at its step. -/
def Position.Quotes (p : Position) : Prop :=
  p.flow = some quotationCode → ∀ name, p.step = some name → Quotation.Gathered name p.data

variable {stores : StoreDirectory} {registry : Registry} {code : String} {flow : Flow}
  {step : Step} {p : Position}

/-- A position that waits at a built-in step names it by its id. -/
theorem Position.WaitsAt.step_eq (waits : p.WaitsAt registry code flow step)
    (only : registry.BuiltinOnly stores) : p.step = some step.id := by
  obtain ⟨same, named⟩ := named_of_step? (only waits.registered) waits.found
  cases atStep : p.step with
  | none =>
    rw [atStep] at same
    exact absurd same.symm named
  | some name =>
    rw [atStep] at same
    exact congrArg some same

/-- **A position that waits in a quotation** is at one of its steps, and holds what is known
there. -/
theorem Position.Quotes.gathered (quotes : p.Quotes) (only : registry.BuiltinOnly stores)
    (waits : p.WaitsAt registry quotationCode flow step) :
    flow = Quotation.flow ∧ step ∈ Quotation.steps ∧ Quotation.Gathered step.id p.data := by
  have same : some Quotation.flow = some flow := only waits.registered
  cases same
  exact ⟨rfl, (Flow.listed_of_step? rfl waits.found).1,
    quotes waits.inFlow _ (waits.step_eq only)⟩

/-- Nothing has to be known where a flow begins. -/
theorem Position.quotes_initial (only : registry.BuiltinOnly stores)
    (registered : registry.flow? code = some flow) (data : Fields) (start : Option Stamp) :
    Quotes ⟨some code, some flow.initialStep.id, data, start⟩ := by
  intro inFlow name atStep
  cases inFlow
  have same : some Quotation.flow = some flow := only registered
  cases same
  cases atStep
  exact Quotation.gathered_first data

/-- What is gathered in quotations persists. -/
theorem persists_quotes (stores : StoreDirectory) :
    Position.Persists fun registry p => registry.BuiltinOnly stores → p.Quotes where
  empty _ _ := nofun
  grows grows holds only := holds fun _ _ found => only (grows found)
  restarts _ := id
  opens := by
    rintro registry m q ⟨registered⟩ only
    exact Position.quotes_initial only registered _ _
  leads := by
    intro registry p q _ holds leads only
    have quotes := holds only
    cases leads with
    | stays waits =>
      intro inFlow name atStep
      cases inFlow
      cases atStep
      exact (quotes.gathered only waits).2.2
    | switches waits takes keeps outcome registered =>
      exact Position.quotes_initial only registered _ _
    | advances waits takes keeps outcome found =>
      intro inFlow name atStep
      cases inFlow
      cases atStep
      subst keeps
      obtain ⟨rfl, listed, gathered⟩ := quotes.gathered only waits
      rw [← (Flow.listed_of_step? rfl found).2]
      exact Quotation.gathered_of_advance listed takes gathered outcome

/-- **A quotation is handed over from its confirmation alone**, when all that a seller needs is
known. -/
theorem confirm_of_transferred (only : registry.BuiltinOnly stores) (quotes : p.Quotes)
    (inFlow : p.flow = some quotationCode) {b c : Backend} {address : Address} {input : String}
    {kind : InputKind} {t : Turn}
    (ran : runFrom b (Turn.answer registry address p input (.ok kind)) = (.ok (some t), c))
    (transferred : t.status = .transferred) :
    p.step = some "confirm" ∧ Quotation.Complete p.data := by
  obtain ⟨code, flow, step, waits, did⟩ := Turn.answer_cases ran
  cases inFlow.symm.trans waits.inFlow
  obtain ⟨rfl, listed, gathered⟩ := quotes.gathered only waits
  have confirmed : step.id = "confirm" := by
    rcases did with ⟨-, stays⟩ | ⟨takes, goes⟩
    · have open_ := stays.unfinished
      rw [Turn.isCompleted, transferred] at open_
      cases open_
    · generalize outcome : step.rule.resolve (step.normalized input)
        (step.keep (step.normalized input) p.data) = led at goes
      cases goes with
      | transfers => exact Quotation.eq_confirm_of_transfer listed outcome
      | handsOver found handsOff =>
        rw [Quotation.stays_of_listed _ (Flow.listed_of_step? rfl found).1] at handsOff
        cases handsOff
      | completes status | switches _ status | advances _ _ status | misses _ status =>
        rw [transferred] at status
        cases status
  rw [confirmed] at gathered
  exact ⟨confirmed ▸ waits.step_eq only, gathered.complete⟩

/-! ## Runs -/

/-- A quotation is complete when it is to be confirmed and when it is handed over: a position at the
confirmation holds all that a seller needs, and only at such a position is a message in a quotation
answered by handing over. -/
structure World.QuotesCompletely (w : World) : Prop where
  confirms : ∀ customer now, (w.position customer now).flow = some quotationCode →
    (w.position customer now).step = some "confirm" →
      Quotation.Complete (w.position customer now).data
  handsOver : ∀ m r v, runFrom w (process m) = (.ok r, v) → r.status = "transferred" →
    (w.position m.customer w.now).flow = some quotationCode →
      (w.position m.customer w.now).step = some "confirm" ∧
        Quotation.Complete (w.position m.customer w.now).data

theorem Status.eq_transferred {status : Status} (named : status.name = "transferred") :
    status = .transferred := by
  cases status <;> first | rfl | exact absurd named (by decide)

/-- A message is answered by handing over at the position that is stored. -/
theorem exists_answer_of_transferred {w v : World} {m : Incoming} {r : Response}
    (ran : runFrom w (process m) = (.ok r, v)) (transferred : r.status = "transferred")
    (complete : w.Complete) : ∃ b c t, t.status = .transferred ∧
      runFrom b (Turn.answer w.registry m.address (w.position m.customer w.now) m.input
        (.ok m.inputKind)) = (.ok (some t), c) := by
  obtain ⟨p, read, deed⟩ := deed_of_process ran
  rcases deed.responds r rfl with plain | ⟨before, t, turns, told⟩
  · rw [transferred] at plain
    exact absurd plain (name_notMem .transferred)
  · have status := Status.eq_transferred (told.symm.trans transferred)
    rw [deed.complete complete] at turns
    cases turns with
    | starts ran =>
      rw [Turn.status_of_start ran] at status
      cases status
    | answers ran =>
      rcases read with rfl | rfl
      · obtain ⟨_, _, _, waits, -⟩ := Turn.answer_cases ran
        exact absurd waits.set (by decide)
      · exact ⟨_, _, t, status, ran⟩

/-- **A seller never receives an incomplete quotation.** Over every directory of stores, where only
the built-in flows are registered and no definition is ever stored, whatever messages come in at a
bot that holds nothing yet, and whatever time passes in between: a stored position at the
confirmation of a quotation holds the kind of product, the details, the quantity and the way to
reach the customer, with a valid mail address when that is by mail, and a message in a quotation is
answered by handing over only there. What happens may end anywhere, so this is so at any time. -/
theorem quotesCompletely_of_transcript {w : World} {events : List Happening}
    (empty : w.cache.entries = []) (builtin : w.registry = Catalogue.builtins stores)
    (unstored : w.Throughout (fun v => v.backend.database.flows = []) events) :
    (w.transcript events).2.QuotesCompletely := by
  have complete : w.Throughout World.Complete events := unstored.mono fun v => .of_empty
  have only : (w.transcript events).2.registry.BuiltinOnly stores := by
    rw [registry_transcript complete, builtin]
    exact fun _ _ => id
  have quotes (customer : String) (now : Instant) :
      ((w.transcript events).2.position customer now).Quotes :=
    (holds_of_transcript (persists_quotes stores) empty events customer now).2 only
  constructor
  · intro customer now inFlow atConfirm
    exact (quotes customer now inFlow _ atConfirm).complete
  · intro m r v ran transferred inFlow
    obtain ⟨b, c, t, status, answered⟩ :=
      exists_answer_of_transferred ran transferred complete.last
    exact confirm_of_transferred only (quotes _ _) inFlow answered status

/-- A bot that opens with quotations. -/
def salesroom : World where
  config := { cancelCommands := ["cancelar"] }
  clock := ⟨0, none⟩
  opening := quotationCode
  registry := Catalogue.builtins Store.directory

/-- What a customer writes or taps. -/
def utter (kind content : String) : Incoming := ⟨"549", none, none, kind, some content, none, []⟩

/-- A customer asks for a quotation, and takes a while over the details. -/
def haggling : List Happening := [.sent (utter "button_reply" "yes"),
  .sent (utter "list_reply" "cat_ceramico"), .passed 60000000, .sent (utter "text" "beige"),
  .sent (utter "text" "10 cajas"), .sent (utter "button_reply" "contact_call")]

theorem quotesCompletely_of_transcript_salesroom :
    salesroom.cache.entries = [] ∧ salesroom.registry = Catalogue.builtins Store.directory ∧
      salesroom.Throughout (fun v => v.backend.database.flows = []) haggling ∧
      (salesroom.transcript haggling).2.QuotesCompletely := by
  have unstored : salesroom.Throughout (fun v => v.backend.database.flows = []) haggling :=
    World.throughout_unstored rfl Lookup.composable_looks.builtins haggling
  exact ⟨rfl, rfl, unstored, quotesCompletely_of_transcript rfl rfl unstored⟩

end Dialogue
