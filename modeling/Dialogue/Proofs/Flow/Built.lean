import Dialogue.Flow.Service
import Dialogue.Proofs.Definition.Accepted
import Dialogue.Proofs.Definition.Named
import Dialogue.Proofs.Flow.Turns
import Dialogue.Proofs.World

/-!
# Flows as they are built

Flows are built from a list of steps or from a definition that passes the check. Either way every
step of a flow can be found under its own id, so a turn that names the id of a step names a step.
A flow that is loaded when it is needed is built as well.

Main statements: `IsBuilt.exists_step?_id`, `isBuilt_builtins` and `ensure_spares`.
-/

namespace Dialogue

open Effect

namespace Flow

/-- A flow made from a list of steps, or from a definition that passes the check. -/
inductive IsBuilt (flow : Flow) : Prop
  | ofSteps {name description : String} {steps : List Step} {initial : String} {minutes : Int}
      (made : Flow.ofSteps name description steps initial minutes = .ok flow)
  | ofDefinition {d : Definition} {source : Definition.OptionSource} {known : Definition.Known}
      (made : d.toFlow? source known = .ok (some flow))

/-- The flow of a definition that passes the check, with its options from the stores. -/
def IsStored (flow : Flow) : Prop :=
  ∃ (d : Definition) (known : Definition.Known), d.toFlow? Store.options known = .ok (some flow)

variable {flow : Flow}

theorem IsStored.isBuilt (stored : flow.IsStored) : flow.IsBuilt := by
  obtain ⟨d, known, made⟩ := stored
  exact .ofDefinition made

theorem steps_of_make {name description initial : String} {steps : Table Step} {minutes : Int}
    (made : make name description steps initial minutes = .ok flow) : flow.steps = steps := by
  unfold make at made
  split at made
  · split at made
    · cases made
      rfl
    · simp at made
  · simp at made

theorem minutes_of_make {name description initial : String} {steps : Table Step} {minutes : Int}
    (made : make name description steps initial minutes = .ok flow) : flow.minutes = minutes := by
  unfold make at made
  split at made
  · split at made
    · cases made
      rfl
    · simp at made
  · simp at made

/-- A flow from a list has its steps under their ids. -/
theorem steps_of_ofSteps {name description initial : String} {steps : List Step} {minutes : Int}
    (made : ofSteps name description steps initial minutes = .ok flow) :
    flow.steps = steps.map fun s => (s.id, s) := by
  obtain ⟨indexed, index, made⟩ := bind_eq_ok_iff.1 made
  rw [steps_of_make made, index_eq index, List.nil_append]

theorem index_of_nodup {known : Table Step} {steps : List Step}
    (distinct : (known.keys ++ steps.map Step.id).Nodup) :
    index known steps = .ok (known ++ steps.map fun s => (s.id, s)) := by
  induction steps generalizing known with
  | nil => rw [index, List.map_nil, List.append_nil]
  | cons step rest ih =>
    have fresh : known.has step.id = false := by
      rw [Bool.eq_false_iff, ne_eq, Table.has_iff]
      rintro ⟨s, found⟩
      have mem : step.id ∈ known.keys := List.mem_map_of_mem (Table.mem_of_get? found)
      exact (List.nodup_append.1 distinct).2.2 _ mem _ (by simp) rfl
    have keys : (Table.keys (known ++ [(step.id, step)])) = known.keys ++ [step.id] := by
      simp [Table.keys]
    rw [index, fresh, if_neg Bool.false_ne_true, ih (by rw [keys]; simpa using distinct)]
    simp

/-- A flow whose steps are those of a list, each under its own id, is built. -/
theorem isBuilt_of_map (steps : List Step) (eq : flow.steps = steps.map fun s => (s.id, s))
    (distinct : (steps.map Step.id).Nodup) : flow.IsBuilt := by
  have indexed : index [] steps = .ok ([] ++ steps.map fun s => (s.id, s)) :=
    index_of_nodup distinct
  have made : Flow.ofSteps flow.name flow.description steps flow.initial flow.minutes =
      .ok flow := by
    unfold Flow.ofSteps
    rw [indexed, List.nil_append, ← eq]
    show make _ _ flow.steps _ _ = _
    rw [make, dif_pos flow.has_initial, dif_pos flow.minutes_pos]
  exact .ofSteps made

/-- A flow of a definition that passes the check has the steps of the definition. -/
theorem steps_of_toFlow? {d : Definition} {source : Definition.OptionSource}
    {known : Definition.Known} (made : d.toFlow? source known = .ok (some flow)) :
    flow.steps = d.stepTable source := by
  obtain ⟨problem, checked, made⟩ := bind_eq_ok_iff.1 made
  cases problem with
  | some problem => cases made
  | none =>
    obtain ⟨built, flows, made⟩ := bind_eq_ok_iff.1 made
    cases made
    have ok := Definition.check_eq_none_iff.1 checked
    obtain ⟨first, begins⟩ := ok.begins
    obtain ⟨flow', flows', steps, -⟩ := Definition.toFlow_eq source begins ok.timed
    rw [flows] at flows'
    cases flows'
    exact steps

/-- It has the minutes of the definition, too. -/
theorem minutes_of_toFlow? {d : Definition} {source : Definition.OptionSource}
    {known : Definition.Known} (made : d.toFlow? source known = .ok (some flow)) :
    flow.minutes = d.minutes := by
  obtain ⟨problem, -, made⟩ := bind_eq_ok_iff.1 made
  cases problem with
  | some problem => cases made
  | none =>
    obtain ⟨built, flows, made⟩ := bind_eq_ok_iff.1 made
    cases made
    unfold Definition.toFlow at flows
    split at flows
    · exact minutes_of_make flows
    · cases flows

/-- **Every step is found under its own id**, though another step may be found there. -/
theorem IsBuilt.exists_step?_id (built : flow.IsBuilt) {name : String} {step : Step}
    (found : flow.step? name = some step) : ∃ s, flow.step? step.id = some s := by
  cases built with
  | ofSteps made =>
    have steps := steps_of_ofSteps made
    have mem : (name, step) ∈ flow.steps := Table.mem_of_get? found
    rw [steps, List.mem_map] at mem
    obtain ⟨s, -, eq⟩ := mem
    cases eq
    exact ⟨step, found⟩
  | @ofDefinition d source known made =>
    have steps := steps_of_toFlow? made
    rw [step?, steps, Definition.get?_stepTable] at found
    obtain ⟨s, bearer, rfl⟩ := Option.map_eq_some_iff.1 found
    -- The id may have gone to a later step that has it for a code.
    obtain ⟨t, own⟩ := Definition.exists_bearer?_key (Definition.bearer?_mem bearer).1
    refine ⟨t.toStep source, ?_⟩
    show flow.steps.get? s.key = _
    rw [steps, Definition.get?_stepTable, own, Option.map_some]

end Flow

namespace Registry

/-- All registered flows are built. -/
def IsBuilt (registry : Registry) : Prop := ∀ entry ∈ registry, entry.2.IsBuilt

theorem IsBuilt.flow? {registry : Registry} (built : registry.IsBuilt) {code : String}
    {flow : Flow} (found : registry.flow? code = some flow) : flow.IsBuilt :=
  built (code, flow) (mem_of_flow? found)

theorem IsBuilt.set {registry : Registry} (built : registry.IsBuilt) {flow : Flow}
    (new : flow.IsBuilt) (code : String) : IsBuilt (Table.set registry code flow) := by
  intro entry mem
  rcases Table.mem_of_mem_set mem with rfl | mem
  · exact new
  · exact built entry mem

/-- The built-in flows are built. -/
theorem isBuilt_builtins (stores : StoreDirectory) : IsBuilt (Catalogue.builtins stores) := by
  intro entry mem
  simp only [Catalogue.builtins, List.mem_cons, List.not_mem_nil, or_false] at mem
  rcases mem with rfl | rfl | rfl | rfl
  · exact Flow.isBuilt_of_map (Catalogue.Menu.steps stores) rfl (by simp [Catalogue.Menu.steps])
  · exact Flow.isBuilt_of_map Catalogue.Quotation.steps rfl (by decide)
  · exact Flow.isBuilt_of_map Catalogue.Topics.steps rfl (by decide)
  · exact Flow.isBuilt_of_map Catalogue.FirstContact.steps rfl (by decide)

/-! ## Loading flows -/

theorem toFlow?_of_load {d : Definition} {source : Definition.OptionSource}
    {known : Definition.Known} {b c : Backend} {flow : Flow}
    (ran : runFrom b (d.load source known) = (.ok (some flow), c)) :
    d.toFlow? source known = .ok (some flow) := by
  unfold Definition.load at ran
  obtain ⟨found, e, made, ran⟩ := runFrom_bind_eq_ok_iff.1 ran
  obtain ⟨-, f, -, ran⟩ := runFrom_bind_eq_ok_iff.1 ran
  cases ran
  exact (Prod.mk.inj made).1

theorem exists_toFlow?_of_loadOne {source : Definition.OptionSource} {known : List String}
    {code : String} {b c : Backend} {flow : Flow}
    (ran : runFrom b (Definition.loadOne source known code) = (.ok (some flow), c)) :
    ∃ d : Definition, d.toFlow? source (some known) = .ok (some flow) := by
  unfold Definition.loadOne at ran
  obtain ⟨d, e, -, ran⟩ := runFrom_bind_eq_ok_iff.1 ran
  obtain ⟨loaded, f, found, ran⟩ := runFrom_bind_eq_ok_iff.1 ran
  cases d with
  | none =>
    cases found
    cases ran
  | some d =>
    unfold Definition.loadFound at found
    dsimp only at found
    split at found
    · cases found
      cases ran
    · obtain ⟨made, g, built, found⟩ := runFrom_bind_eq_ok_iff.1 found
      cases found
      cases made with
      | none => cases ran
      | some made =>
        cases ran
        exact ⟨d, toFlow?_of_load built⟩

/-- What loading does: nothing but a lookup, or a lookup and the registration of the flow of a
definition. -/
theorem reload_cases {code : String} {w w' : World} {result : Except Fault (Option Flow)}
    (ran : runFrom w (reload code) = (result, w')) :
    ∃ b, w' = { w with backend := b } ∨ ∃ flow : Flow, flow.IsStored ∧
      w' = { w with backend := b, registry := Table.set w.registry code flow } := by
  unfold reload at ran
  rw [runFrom_bind_of_ok (show runFrom w codes = (.ok (Table.keys w.registry), w) from rfl),
    runFrom_bind, runFrom_lookup] at ran
  rcases looked : runFrom w.backend
      (Definition.loadOne Store.options (Table.keys w.registry) code) with ⟨fault | found, b⟩
  · rw [looked] at ran
    cases ran
    exact ⟨b, .inl rfl⟩
  · rw [looked] at ran
    cases found with
    | none =>
      cases ran
      exact ⟨b, .inl rfl⟩
    | some flow =>
      cases ran
      obtain ⟨d, made⟩ := exists_toFlow?_of_loadOne looked
      exact ⟨b, .inr ⟨flow, ⟨d, _, made⟩, rfl⟩⟩

/-- Under its code, the flow that was loaded when it was needed is found; the empty code names
none. -/
theorem flow?_of_ensure {code : String} {w w' : World} {flow? : Option Flow}
    (ran : runFrom w (ensure code) = (.ok flow?, w')) :
    w'.registry.flow? code = if code = "" then none else flow? := by
  unfold ensure at ran
  rw [runFrom_bind_of_ok (runFrom_get w)] at ran
  split at ran
  · next flow found =>
    cases ran
    unfold Registry.flow? at found ⊢
    split
    · rfl
    · next named => rwa [if_neg named] at found
  · next missing =>
    unfold reload at ran
    have coded : runFrom w codes = (.ok (Table.keys w.registry), w) := rfl
    rw [runFrom_bind_of_ok coded] at ran
    obtain ⟨loaded, v, looked, ran⟩ := runFrom_bind_eq_ok_iff.1 ran
    rw [runFrom_lookup] at looked
    obtain ⟨-, rfl⟩ := Prod.mk.inj looked
    cases loaded with
    | none =>
      cases ran
      rw [ite_self]
      exact missing
    | some flow =>
      cases ran
      show (if code = "" then none else Table.get? (Table.set w.registry code flow) code) = _
      rw [Table.get?_set_self]

/-- **Loading a flow when it is needed** changes nothing but the registry, which stays built. -/
theorem ensure_spares {code : String} {w w' : World} {result : Except Fault (Option Flow)}
    (ran : runFrom w (ensure code) = (result, w')) (built : IsBuilt w.registry) (key : String) :
    IsBuilt w'.registry ∧ World.Spares key { w with registry := w'.registry } w' := by
  unfold ensure at ran
  rw [runFrom_bind_of_ok (runFrom_get w)] at ran
  split at ran
  · cases ran
    exact ⟨built, .refl key w⟩
  · obtain ⟨b, rfl | ⟨flow, new, rfl⟩⟩ := reload_cases ran
    · exact ⟨built, rfl, rfl, rfl, rfl, rfl, rfl, rfl, rfl⟩
    · exact ⟨built.set new.isBuilt code, rfl, rfl, rfl, rfl, rfl, rfl, rfl, rfl⟩

end Registry

end Dialogue
