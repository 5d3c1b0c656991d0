import Dialogue.Proofs.Catalogue.Steps
import Dialogue.Proofs.Flow.Changing
import Dialogue.Proofs.Flow.Going
import Dialogue.Store.Directory

/-!
# Built-in flows lead on

A built-in step leads to a step of its own flow or to a built-in flow, whatever the answer and what
is known. So while the built-in flows are registered, a conversation that was begun in one of them
waits at a built-in step until it ends, whatever is answered: the answer gives a turn, unless
something fails on the way, and no flow is ended because its next step does not exist.

Main statements: `atBuiltin_of_meetAll`, where answers lead; `goesOn_of_builtins`.
-/

namespace Dialogue

open Effect Catalogue

/-- The built-in flows are registered, over a directory of stores. -/
def Registry.HasBuiltins (registry : Registry) (stores : StoreDirectory) : Prop :=
  ∀ code ∈ Catalogue.codes, registry.flow? code = (Catalogue.builtins stores).flow? code

/-- A position waits at a step of a built-in flow. -/
def Position.AtBuiltin (registry : Registry) (p : Position) : Prop :=
  ∃ code flow step, code ∈ codes ∧ p.WaitsAt registry code flow step

/-- Whatever is answered at a position gives a turn, unless it fails, and does not lead to a step
that does not exist. -/
structure Position.GoesOn (registry : Registry) (p : Position) : Prop where
  turns : ∀ a : Arrival, a.turn? registry p ≠ .ok none
  leads : ∃ code flow step, p.WaitsAt registry code flow step ∧
    ∀ answer data key, step.rule.resolve answer data = .next key → (flow.step? key).isSome

variable {stores : StoreDirectory} {registry : Registry} {code name : String} {flow : Flow}
  {step : Step} {p q : Position}

namespace Registry.HasBuiltins

theorem registered (has : registry.HasBuiltins stores) (builtin : code ∈ Catalogue.codes)
    (found : registry.flow? code = some flow) :
    (Catalogue.builtins stores).flow? code = some flow :=
  (has code builtin).symm.trans found

theorem exists_flow? (has : registry.HasBuiltins stores) (builtin : code ∈ Catalogue.codes) :
    ∃ flow, registry.flow? code = some flow := by
  rw [has code builtin]
  simp only [Catalogue.codes, List.mem_cons, List.not_mem_nil, or_false] at builtin
  rcases builtin with rfl | rfl | rfl | rfl <;> exact ⟨_, rfl⟩

end Registry.HasBuiltins

namespace Position

/-! ## Waiting at a built-in step -/

theorem AtBuiltin.mem_codes (atBuiltin : p.AtBuiltin registry)
    (waits : p.WaitsAt registry code flow step) : code ∈ codes := by
  obtain ⟨code', flow', step', builtin, waits'⟩ := atBuiltin
  cases waits.inFlow.symm.trans waits'.inFlow
  exact builtin

/-- A position that names a built-in step by its id waits there. -/
theorem atBuiltin_of_found (has : registry.HasBuiltins stores) (builtin : code ∈ codes)
    (registered : registry.flow? code = some flow) (found : flow.step? name = some step)
    (data : Fields) (start : Option Stamp) :
    AtBuiltin registry ⟨some code, some step.id, data, start⟩ := by
  obtain ⟨rfl, named⟩ := named_of_step? (has.registered builtin registered) found
  refine ⟨code, flow, step, builtin, ?_, rfl, registered, found⟩
  simp [isSet, isNamed, Turn.ne_empty_of_flow? registered, named]

/-- **An answer at a built-in step** leads to a built-in step. -/
theorem atBuiltin_of_leads (has : registry.HasBuiltins stores) (atBuiltin : p.AtBuiltin registry)
    (leads : p.Leads registry q) : q.AtBuiltin registry := by
  cases leads with
  | stays waits =>
    exact atBuiltin_of_found has (atBuiltin.mem_codes waits) waits.registered waits.found _ _
  | @switches code target input flow other step kind data waits takes keeps outcome registered =>
    have builtin := has.registered (atBuiltin.mem_codes waits) waits.registered
    have within := resolves_of_step? builtin waits.found (step.normalized input) data
    rw [outcome] at within
    exact atBuiltin_of_found has within registered other.step?_initial _ _
  | advances waits takes keeps outcome found =>
    exact atBuiltin_of_found has (atBuiltin.mem_codes waits) waits.registered found _ _

/-- The start of a position does not say where it waits. -/
theorem AtBuiltin.restarts (atBuiltin : p.AtBuiltin registry) (start : Option Stamp) :
    AtBuiltin registry { p with startedAt := start } := by
  obtain ⟨code, flow, step, builtin, waits⟩ := atBuiltin
  exact ⟨code, flow, step, builtin, waits.set, waits.inFlow, waits.registered, waits.found⟩

theorem atBuiltin_of_meet (has : registry.HasBuiltins stores) (atBuiltin : p.AtBuiltin registry)
    {a : Arrival} (next : p.meet registry a = some q) : q.AtBuiltin registry := by
  unfold meet at next
  split at next
  · next t turned =>
    have ran : runFrom a.backend (Turn.answer registry a.address p a.input (.ok a.kind)) =
        (.ok (some t), _) := Prod.ext turned rfl
    obtain ⟨leads, place⟩ := Turn.leads_of_after ran next
    rw [place]
    exact (atBuiltin_of_leads has atBuiltin leads).restarts _
  · cases next

/-- **Answers lead from built-in steps to built-in steps**, as long as no flow ends. -/
theorem atBuiltin_of_meetAll (has : registry.HasBuiltins stores) (arrivals : List Arrival)
    (atBuiltin : p.AtBuiltin registry) (met : arrivals.foldlM (meet registry) p = some q) :
    q.AtBuiltin registry := by
  induction arrivals generalizing p with
  | nil =>
    cases met
    exact atBuiltin
  | cons a rest ih =>
    rw [List.foldlM_cons] at met
    obtain ⟨next, first, met⟩ := Option.bind_eq_some_iff.1 met
    exact ih (atBuiltin_of_meet has atBuiltin first) met

/-! ## Going on -/

/-- **Whatever is answered at a built-in step**, the conversation goes on. -/
theorem AtBuiltin.goesOn (has : registry.HasBuiltins stores) (atBuiltin : p.AtBuiltin registry) :
    p.GoesOn registry := by
  obtain ⟨code, flow, step, builtin, waits⟩ := atBuiltin
  have within := resolves_of_step? (has.registered builtin waits.registered) waits.found
  refine ⟨fun a none_ => ?_, code, flow, step, waits, fun answer data key leads => ?_⟩
  · have ran : runFrom a.backend (Turn.answer registry a.address p a.input (.ok a.kind)) =
        (.ok none, _) := Prod.ext none_ rfl
    rw [Turn.answer_eq_of_waitsAt waits] at ran
    obtain ⟨target, outcome, missing⟩ := Turn.unregistered_of_respond ran
    have toBuiltin := within (step.normalized a.input)
      (step.keep (step.normalized a.input) p.data)
    rw [outcome] at toBuiltin
    obtain ⟨other, registered⟩ := has.exists_flow? toBuiltin
    rw [missing] at registered
    cases registered
  · have found := within answer data
    rw [leads] at found
    exact found

end Position

/-- **Built-in flows lead on.** Over every directory of stores, every step of a built-in flow leads
to a step of this flow or to a built-in flow, if it goes on at all, whatever the answer and what is
known. So where the built-in flows are registered, starting one of them gives a turn, unless it
fails. And wherever any answers have led from there, whatever is answered next gives a turn, unless
it fails, and does not end the flow because the next step does not exist. An answer that fails
leaves the position as it was, and may be left out. -/
theorem goesOn_of_builtins (stores : StoreDirectory) :
    (∀ code flow, (builtins stores).flow? code = some flow →
      ∀ name step, flow.step? name = some step → ∀ answer data,
        (step.rule.resolve answer data).Within (fun key => (flow.step? key).isSome) (· ∈ codes)) ∧
    ∀ registry : Registry, registry.HasBuiltins stores →
      ∀ code ∈ codes, ∀ (address : Address) (data : Fields) (b : Backend),
        (runFrom b (Turn.start registry address (some code) data)).1 ≠ .ok none ∧
        ∀ t, (runFrom b (Turn.start registry address (some code) data)).1 = .ok (some t) →
          ∀ (before : Position) (now : Stamp) (p : Position), before.after t.move now = some p →
            ∀ (arrivals : List Arrival) (q : Position),
              arrivals.foldlM (Position.meet registry) p = some q → q.GoesOn registry := by
  constructor
  · exact fun code flow registered name step found => resolves_of_step? registered found
  · intro registry has code builtin address data b
    obtain ⟨flow, registered⟩ := has.exists_flow? builtin
    refine ⟨Turn.start_ne_none registered, fun t started before now p next arrivals q met => ?_⟩
    obtain ⟨flow', registered', -, leads⟩ := Turn.leadsTo_of_start (Prod.ext started rfl)
    have named : t.flow ≠ "" := leads.flow ▸ Turn.ne_empty_of_flow? registered
    have atBuiltin : p.AtBuiltin registry := by
      rw [(Turn.eq_place_of_after named next).2, leads.place]
      exact Position.atBuiltin_of_found has builtin registered' flow'.step?_initial _ _
    exact (Position.atBuiltin_of_meetAll has arrivals atBuiltin met).goesOn has

/-- A customer chooses a kind of product. -/
def choose : Arrival := ⟨⟨"549", none⟩, "cat_ceramico", .listReply, ⟨0, none⟩, {}⟩

/-- The turn that begins a quotation. -/
def begun : Turn :=
  ⟨.started, ⟨"549", Quotation.categoryPrompt.deliverable, none⟩, quotationCode,
    some "select_category", []⟩

/-- The position where the kind of product is asked for. -/
def choosing : Position := ⟨some quotationCode, some "select_category", [], some ⟨0, none⟩⟩

/-- The position where the details are asked for. -/
def detailing : Position :=
  ⟨some quotationCode, some "ask_details", [("category", .str "cat_ceramico")], some ⟨0, none⟩⟩

theorem meet_choose : choosing.meet (builtins Store.directory) choose = some detailing := by
  have waits : choosing.WaitsAt (builtins Store.directory) quotationCode Quotation.flow
      Quotation.flow.initialStep := ⟨rfl, rfl, rfl, rfl⟩
  have turned : choose.turn? (builtins Store.directory) choosing = .ok (some ⟨.advanced,
      ⟨"549", Quotation.detailsPrompt.deliverable, none⟩, quotationCode, some "ask_details",
        [("category", .str "cat_ceramico")]⟩) := by
    unfold Arrival.turn?
    rw [Turn.answer_eq_of_waitsAt waits]
    rfl
  unfold Position.meet
  rw [turned]
  rfl

theorem goesOn_of_builtins_choose :
    Registry.HasBuiltins (builtins Store.directory) Store.directory ∧
      (runFrom {} (Turn.start (builtins Store.directory) ⟨"549", none⟩ (some quotationCode)
        [])).1 = .ok (some begun) ∧
      Position.after {} begun.move ⟨0, none⟩ = some choosing ∧
      [choose].foldlM (Position.meet (builtins Store.directory)) choosing = some detailing ∧
      detailing.GoesOn (builtins Store.directory) := by
  have has : Registry.HasBuiltins (builtins Store.directory) Store.directory := fun _ _ => rfl
  have registered : (builtins Store.directory).flow? quotationCode = some Quotation.flow := rfl
  have started : (runFrom {} (Turn.start (builtins Store.directory) ⟨"549", none⟩
      (some quotationCode) [])).1 = .ok (some begun) := by
    rw [Turn.start_eq registered]
    rfl
  have met : [choose].foldlM (Position.meet (builtins Store.directory)) choosing =
      some detailing := by
    rw [List.foldlM_cons, meet_choose]
    rfl
  exact ⟨has, started, rfl, met, ((goesOn_of_builtins Store.directory).2 _ has quotationCode
    (by decide) _ _ _).2 begun started {} _ choosing rfl [choose] detailing met⟩

end Dialogue
