import Dialogue.Conversation.Basic
import Dialogue.Proofs.Flow.Composing
import Dialogue.Proofs.World

/-!
# Messages put together from acts

The answer to a message of a customer is put together from few acts: lookups, the flows and the
canned replies that all customers share, and the use of the one key under which the customer's
position is stored. Besides, it looks at the settings, the clock and the registered flows. A
property of acts that these have, and that a sequence has when its parts have it, is
*conversational* for this customer. It carries over to the whole answer.

Main statements: `Answering.respondAt`, once the position is known; `Conversational.process`.
-/

namespace Dialogue

open Effect

/-! ## Lookups that only look -/

/-- A lookup that has every composable property: it is put together from notes, queries and
computations without effects. -/
def Lookup.Looks {α : Type} (l : Lookup α) : Prop :=
  ∀ P : (∀ α : Type, Lookup α → Prop), Composable P → P α l

theorem Lookup.composable_looks : Composable fun _ l => Lookup.Looks l where
  ofExcept x _ c := c.ofExcept x
  note e _ c := c.note e
  select collection query order _ c := c.select collection query order
  first? collection query _ c := c.first? collection query
  bind first rest P c := c.bind (first P c) fun a => rest a P c

/-- A prompt that resolves to what is put together from notes, queries and computations without
effects. -/
abbrev Prompt.Looks : Prompt → Prop := Prompt.Satisfies fun _ l => Lookup.Looks l

/-! ## Conversational properties -/

/-- Two worlds with the same settings, clock and flows. -/
structure World.Accords (w v : World) : Prop where
  config : v.config = w.config
  clock : v.clock = w.clock
  opening : v.opening = w.opening
  registry : v.registry = w.registry

theorem World.Spares.accords {key : String} {w v : World} (spares : w.Spares key v) :
    w.Accords v :=
  ⟨spares.config, spares.clock, spares.opening, spares.registry⟩

/-- A property that the acts have from which answers to a customer are put together once the
customer's position is known, and that a sequence has when its parts do. What follows on looking at
the world may be told apart by the settings, the clock and the registered flows only. -/
structure Answering (customer : String) (P : ∀ α : Type, Act α → Prop) : Prop where
  looks : ∀ {α : Type} {l : Lookup α}, l.Looks → P α (Act.lookup l)
  reads : ∀ {α : Type} {f : World → Act α},
    (∀ {w v : World}, w.Accords v → f v = f w) →
      (∀ w : World, w.registry.EveryPrompt Prompt.Looks → P α (f w)) → P α (get >>= f)
  opens : ∀ code : String, P _ (Registry.ensure code)
  replies : P _ CannedReply.active
  remembers : ∀ (text : String) (seconds : Int),
    P _ (Act.remember (Position.cacheKey customer) text seconds)
  forgets : P _ (Act.forget (Position.cacheKey customer))
  bind : ∀ {α β : Type} {x : Act α} {f : α → Act β}, P α x → (∀ a, P β (f a)) → P β (x >>= f)

/-- A property that reading the customer's position has as well. -/
structure Conversational (customer : String) (P : ∀ α : Type, Act α → Prop) : Prop
    extends Answering customer P where
  recalls : P _ (Act.cached? (Position.cacheKey customer))

/-- The response to a message, once the position of its sender is known. -/
def Conversation.respondAt (m : Incoming) (p : Position) : Act Response := do
  if m.inputKind = .text && Turn.isCancel (← get).config.cancelCommands m.input then
    Conversation.cancel m p
  else
    let p ← Conversation.current m p
    if p.isSet then Conversation.answerAt m p else Conversation.answerFresh m

theorem Conversation.respond_eq (m : Incoming) :
    Conversation.respond m = Position.stored m.customer >>= Conversation.respondAt m := rfl

namespace Answering

open Conversation

variable {P : ∀ α : Type, Act α → Prop} {α : Type} {customer : String} {m : Incoming}

theorem ofExcept (c : Answering customer P) (x : Except Fault α) :
    P α (Act.lookup (Lookup.ofExcept x)) :=
  c.looks (Lookup.composable_looks.ofExcept x)

theorem pure (c : Answering customer P) (a : α) : P α (Pure.pure a) := c.ofExcept (.ok a)

theorem note (c : Answering customer P) (e : Event) : P _ (Act.note e) :=
  c.looks (Lookup.composable_looks.note e)

/-! ## Positions -/

theorem save (c : Answering customer P) (p : Position) : P _ (Position.save customer p) := by
  have remembers : P Unit (do
      Act.remember (Position.cacheKey customer) p.text (← get).config.stateSeconds) := by
    refine c.reads (fun accords => ?_) fun w _ => c.remembers _ _
    rw [accords.config]
  unfold Position.save
  split
  · exact c.bind (c.ofExcept (.error .tooDeepToStore)) fun _ => remembers
  · exact remembers

/-! ## Turns -/

theorem say (c : Answering customer P) (m : Incoming) (body status : String) :
    P _ (say m body status) :=
  c.bind (c.ofExcept _) fun _ => c.pure _

theorem settle (c : Answering m.customer P) (before : Position) (turn : Turn) :
    P _ (settle m before turn) := by
  refine c.reads (fun accords => ?_) fun w _ => ?_
  · rw [accords.clock]
  · dsimp only
    cases before.after turn.move w.clock with
    | none => exact c.bind c.forgets fun _ => c.pure _
    | some p => exact c.bind (c.save p) fun _ => c.pure _

theorem start (c : Answering m.customer P) (code : String) : P _ (start m code) := by
  refine c.bind (c.opens code) fun _ => ?_
  refine c.reads (fun accords => ?_) fun w every => ?_
  · rw [accords.registry]
  · refine c.bind (c.looks (Lookup.composable_looks.start m.address every _ _)) fun turn? => ?_
    cases turn? with
    | none => exact c.say m _ _
    | some turn => exact c.settle {} turn

theorem openMenu (c : Answering m.customer P) : P _ (openMenu m) := by
  refine c.reads (fun accords => ?_) fun w _ => c.start w.opening
  rw [accords.opening]

theorem cancel (c : Answering m.customer P) (p : Position) : P _ (cancel m p) := by
  unfold Conversation.cancel
  split
  · exact c.openMenu
  · exact c.bind c.forgets fun _ => c.bind (c.ofExcept _) fun _ => c.pure _

theorem answerIntent (c : Answering m.customer P) (intent : Intent) :
    P _ (answerIntent m intent) := by
  cases intent with
  | greeting => exact c.openMenu
  | sale => exact c.start _
  | question => exact c.start _
  | farewell => exact c.say m _ _
  | thanks => exact c.say m _ _
  | unknown => exact c.say m _ _

theorem findMatch (c : Answering customer P) (message : String) :
    P _ (CannedReply.findMatch message) := by
  unfold CannedReply.findMatch
  dsimp only
  split
  · exact c.pure none
  · refine c.bind c.replies fun replies => c.bind (c.ofExcept _) fun reply? => ?_
    cases reply? with
    | none => exact c.pure none
    | some reply => exact c.bind (c.note _) fun _ => c.pure _

theorem cannedReply? (c : Answering customer P) (input : String) :
    P _ (cannedReply? input) := by
  refine c.reads (fun accords => ?_) fun w _ => ?_
  · rw [accords.config]
  · split
    · exact c.findMatch input
    · exact c.pure none

theorem answerFresh (c : Answering m.customer P) : P _ (answerFresh m) := by
  unfold Conversation.answerFresh
  split
  · exact c.openMenu
  · dsimp only
    split
    · exact c.answerIntent _
    · refine c.bind (c.cannedReply? m.input) fun reply? => ?_
      cases reply? with
      | none => exact c.answerIntent _
      | some reply => exact c.say m _ _

theorem answerAt (c : Answering m.customer P) (p : Position) : P _ (answerAt m p) := by
  unfold Conversation.answerAt
  dsimp only
  refine c.bind (c.opens _) fun _ => ?_
  refine c.reads (fun accords => ?_) fun w every => ?_
  · rw [accords.registry]
  · refine c.bind (c.looks (Lookup.composable_looks.answer m.address every p m.input _))
      fun turn? => ?_
    cases turn? with
    | none => exact c.bind c.forgets fun _ => c.say m _ _
    | some turn => exact c.settle p turn

theorem current (c : Answering m.customer P) (p : Position) : P _ (current m p) := by
  unfold Conversation.current
  split
  · exact c.pure p
  · refine c.reads (fun accords => ?_) fun w _ => c.bind (c.ofExcept _) fun isActive => ?_
    · unfold World.now
      rw [accords.registry, accords.config, accords.clock]
    · split
      · exact c.pure p
      · exact c.bind c.forgets fun _ => c.pure _

theorem respondAt (c : Answering m.customer P) (p : Position) : P _ (respondAt m p) := by
  refine c.reads (fun accords => ?_) fun w _ => ?_
  · rw [accords.config]
  · split
    · exact c.cancel p
    · refine c.bind (c.current p) fun q => ?_
      split
      · exact c.answerAt q
      · exact c.answerFresh

end Answering

namespace Conversational

open Conversation

variable {P : ∀ α : Type, Act α → Prop} {customer : String} {m : Incoming}

theorem stored (c : Conversational customer P) : P _ (Position.stored customer) :=
  c.bind c.recalls fun _ => c.pure _

/-- **The answer to a message** has a conversational property of its sender. -/
theorem process (c : Conversational m.customer P) : P _ (process m) :=
  c.bind (c.bind c.stored c.respondAt) fun _ => c.bind (c.note _) fun _ => c.pure _

end Conversational

end Dialogue
