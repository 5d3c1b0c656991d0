import Dialogue.Definition.Stored
import Dialogue.Reply.Active
import Dialogue.Store.Directory

/-!
# Properties that carry over to sequences

Whatever is looked up in a conversation is put together from notes, queries and computations without
effects. A property of lookups that these have, and that a sequence has when its parts have it, is
*composable*. It carries over to the stores, the canned replies and the definitions, and to the
prompts of definitions.

Main statements: `Composable.options`, `Composable.loadOne` and `Composable.prompt`.
-/

namespace Dialogue

/-- A property that notes, queries and computations without effects have, and that a sequence has
when its parts do. -/
structure Composable (P : ∀ α : Type, Lookup α → Prop) : Prop where
  ofExcept : ∀ {α : Type} (x : Except Fault α), P α (Lookup.ofExcept x)
  note : ∀ e : Event, P Unit (Lookup.note e)
  select : ∀ (collection : Collection) (query : Query) (order : Option Order),
    P _ (Lookup.select collection query order)
  first? : ∀ (collection : Collection) (query : Query), P _ (Lookup.first? collection query)
  bind : ∀ {α β : Type} {x : Lookup α} {f : α → Lookup β}, P α x → (∀ a, P β (f a)) →
    P β (x >>= f)

/-- What a prompt resolves to has a property. -/
def Prompt.Satisfies (P : ∀ α : Type, Lookup α → Prop) : Prompt → Prop
  | .missing | .fixed _ => True
  | .resolved _ resolve => ∀ data, P Content (resolve data)

namespace Composable

variable {P : ∀ α : Type, Lookup α → Prop} {α β : Type}

theorem pure (c : Composable P) (a : α) : P α (Pure.pure a) := c.ofExcept (.ok a)

theorem throw (c : Composable P) (fault : Fault) : P α (MonadExcept.throw fault) :=
  c.ofExcept (.error fault)

theorem map (c : Composable P) {x : Lookup α} (f : α → β) (h : P α x) : P β (f <$> x) := by
  rw [map_eq_pure_bind]
  exact c.bind h fun a => c.pure (f a)

theorem mapM (c : Composable P) {f : α → Lookup β} (each : ∀ a, P β (f a)) (items : List α) :
    P (List β) (items.mapM f) := by
  induction items with
  | nil => exact c.pure []
  | cons a items ih =>
    rw [List.mapM_cons]
    exact c.bind (each a) fun b => c.bind ih fun rest => c.pure (b :: rest)

/-! ## Stores and canned replies -/

theorem allActive (c : Composable P) : P _ Store.allActive :=
  c.bind (c.select _ _ _) fun _ => c.bind (c.note _) fun _ => c.ofExcept _

theorem withZoneNames (c : Composable P) (names : List String) :
    P _ (Store.withZoneNames names) :=
  c.bind (c.select _ _ _) fun _ => c.bind (c.note _) fun _ => c.ofExcept _

theorem inZone (c : Composable P) (id : Json) : P _ (Store.inZone id) := by
  refine c.bind (c.ofExcept _) fun zone? => ?_
  cases zone? with
  | none => exact c.allActive
  | some zone =>
    refine c.bind (c.withZoneNames _) fun stores => ?_
    split
    · exact c.allActive
    · exact c.pure _

theorem withCode (c : Composable P) (code : Json) : P _ (Store.withCode code) := by
  refine c.bind (c.first? _ _) fun doc => ?_
  cases doc with
  | none => exact c.pure none
  | some doc => exact c.ofExcept _

/-- **The sources of options** have a composable property. -/
theorem options (c : Composable P) (source : String) (data : Fields) :
    P _ (Store.options source data) := by
  unfold Store.options
  split
  · exact c.map _ (c.inZone _)
  · split
    · exact c.map _ c.allActive
    · split
      · exact c.pure _
      · exact c.throw _

theorem findActive (c : Composable P) : P _ CannedReply.findActive :=
  c.bind (c.select _ _ _) fun _ => c.bind (c.note _) fun _ => c.pure _

theorem fresh (c : Composable P) : P _ CannedReply.fresh :=
  c.bind c.findActive fun _ => c.bind (c.ofExcept _) fun _ => c.pure _

/-! ## Definitions -/

open Definition

theorem ofDocument (c : Composable P) (doc : Fields) : P _ (Definition.ofDocument doc) := by
  unfold Definition.ofDocument
  split
  · exact c.pure none
  · split
    · exact c.pure _
    · exact c.bind (c.note _) fun _ => c.pure none

theorem findAll (c : Composable P) : P _ Definition.findAll :=
  c.bind (c.select _ _ _) fun _ => c.bind (c.note _) fun _ =>
    c.bind (c.mapM c.ofDocument _) fun _ => c.pure _

theorem findByCode (c : Composable P) (code : String) : P _ (Definition.findByCode code) := by
  refine c.bind (c.first? _ _) fun doc => c.bind (c.note _) fun _ => ?_
  cases doc with
  | none => exact c.pure none
  | some doc => exact c.ofDocument doc

theorem findDefault (c : Composable P) : P _ Definition.findDefault := by
  refine c.bind (c.first? _ _) fun doc => ?_
  cases doc with
  | none => exact c.pure none
  | some doc => exact c.ofDocument doc

theorem load (c : Composable P) (d : Definition) (source : OptionSource) (known : Known) :
    P _ (d.load source known) :=
  c.bind (c.ofExcept _) fun _ => c.bind (c.note _) fun _ => c.pure _

theorem loadEach (c : Composable P) (source : OptionSource) (known : List String)
    (definitions : List Definition) (flows : Table Flow) :
    P _ (Definition.loadEach source known definitions flows) := by
  induction definitions generalizing flows with
  | nil => exact c.pure flows
  | cons d rest ih =>
    refine c.bind (c.load d source _) fun flow? => ?_
    cases flow? with
    | none => exact ih flows
    | some flow => exact ih _

theorem loadAll (c : Composable P) (source : OptionSource) (known : List String) :
    P _ (Definition.loadAll source known) :=
  c.bind c.findAll fun _ => c.loadEach _ _ _ _

theorem loadFound (c : Composable P) (source : OptionSource) (known : List String)
    (found : Option Definition) : P _ (Definition.loadFound source known found) := by
  unfold Definition.loadFound
  cases found with
  | none => exact c.pure none
  | some d =>
    dsimp only
    split
    · exact c.pure none
    · exact c.bind (c.load d source _) fun _ => c.pure _

theorem loadOne (c : Composable P) (source : OptionSource) (known : List String) (code : String) :
    P _ (Definition.loadOne source known code) :=
  c.bind (c.findByCode code) fun _ => c.bind (c.loadFound source known _) fun _ => c.pure _

theorem loadDefault (c : Composable P) (source : OptionSource) (known : List String) :
    P _ (Definition.loadDefault source known) :=
  c.bind c.findDefault fun _ => c.loadFound source known _

/-! ## Prompts -/

theorem offered (c : Composable P) (s : Definition.Step) (name : String) (data : Fields) :
    P _ (s.offered name Store.options data) := by
  have list (frame : Frame) (make : List Row → List Section) : P Content (do
      let options ← Store.options name data
      let rows ← Lookup.ofExcept ((options.take Limit.rows).mapM rowOf)
      return .ofList frame s.label (make rows)) :=
    c.bind (c.options name data) fun _ => c.bind (c.ofExcept _) fun _ => c.pure _
  unfold Definition.Step.offered
  dsimp only
  split
  · exact c.pure _
  · exact c.pure _
  · exact c.bind (c.options name data) fun _ => c.bind (c.ofExcept _) fun _ => c.pure _
  · exact list _ _
  · exact list _ _

/-- **The prompts of definitions** have a composable property. -/
theorem prompt (c : Composable P) (s : Definition.Step) :
    (s.prompt Store.options).Satisfies P := by
  unfold Definition.Step.prompt
  cases present? s.source with
  | none => trivial
  | some name => exact c.offered s name

end Composable

end Dialogue
