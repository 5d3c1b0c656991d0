import Dialogue.Proofs.Conversation.Settled

/-!
# Bots with nothing left to load

A flow is registered when it is needed, and none that is registered is replaced on that occasion. So
while messages come in, the registered flows only become more. Where no definition waits to be
loaded they stay what they are.

Main statements: `grows_ensure`, what is found is found still; `registry_of_ensure`, in a complete
bot nothing is loaded; `abides_process`, a message leaves a complete bot complete.
-/

namespace Dialogue

open Effect

/-- Every flow of the first registry is found in the second. -/
def Registry.Grows (first second : Registry) : Prop :=
  ∀ ⦃code : String⦄ ⦃flow : Flow⦄, first.flow? code = some flow → second.flow? code = some flow

theorem Registry.Grows.refl (registry : Registry) : registry.Grows registry := fun _ _ => id

theorem Registry.Grows.trans {first second third : Registry} (left : first.Grows second)
    (right : second.Grows third) : first.Grows third := fun _ _ found => right (left found)

/-- No stored definition waits to be loaded. -/
def World.Complete (w : World) : Prop := ∀ d flow, ¬ w.Awaits d flow

namespace World.Complete

variable {w v : World}

/-- A bot is complete still when the same is stored and registered. -/
theorem of_agrees (complete : w.Complete) (agrees : w.backend.Agrees v.backend)
    (registry : v.registry = w.registry) : v.Complete := by
  intro d flow awaits
  have same (query : Query) :
      v.backend.database.first? .flows query = w.backend.database.first? .flows query := by
    show v.backend.database.flows.find? _ = w.backend.database.flows.find? _
    rw [agrees.flows]
  refine complete d flow ⟨?_, awaits.active, ?_, ?_⟩
  · rw [← same]
    exact awaits.found
  · rw [← registry]
    exact awaits.made
  · rw [← registry]
    exact awaits.missing

/-- Where no definition is stored, none waits. -/
theorem of_empty (empty : w.backend.database.flows = []) : w.Complete := by
  intro d flow awaits
  have none_ : w.backend.database.first? .flows (Definition.byCode d.code) = none := by
    show w.backend.database.flows.find? _ = none
    rw [empty]
    rfl
  have found := awaits.found
  rw [none_] at found
  cases found

end World.Complete

namespace Registry

variable {code : String} {w v : World} {result : Except Fault (Option Flow)}

/-- What is loaded when it is needed waited to be loaded. -/
theorem awaits_of_loadOne {flow : Flow} {b : Backend} (missing : w.registry.flow? code = none)
    (loaded : runFrom w.backend (Definition.loadOne Store.options (Table.keys w.registry) code) =
      (.ok (some flow), b)) : ∃ d, w.Awaits d flow := by
  obtain ⟨d, found, active, made⟩ := Definition.found_of_loadOne loaded
  obtain ⟨doc, first, read⟩ := Option.bind_eq_some_iff.1 found
  obtain rfl : d.code = code := Definition.code_of_ofDocument? (List.find?_some first) read
  have named : d.code ≠ "" := by
    obtain ⟨problem, checked, accepted⟩ := bind_eq_ok_iff.1 made
    cases problem with
    | some problem => cases accepted
    | none =>
      intro empty
      have blank := (Definition.check_eq_none_iff.1 checked).named
      rw [empty] at blank
      exact blank rfl
  unfold Registry.flow? at missing
  rw [if_neg named] at missing
  exact ⟨d, found, active, made, missing⟩

/-- Loading a flow that is not registered adds one that waited, or none. -/
theorem reload_cases_awaits (missing : w.registry.flow? code = none)
    (ran : runFrom w (reload code) = (result, v)) :
    v.registry = w.registry ∨
      ∃ d flow, w.Awaits d flow ∧ v.registry = Table.set w.registry code flow := by
  unfold reload at ran
  rw [runFrom_bind_of_ok (runFrom_codes w), runFrom_bind, runFrom_lookup] at ran
  rcases looked : runFrom w.backend
      (Definition.loadOne Store.options (Table.keys w.registry) code) with ⟨fault | found, b⟩
  · rw [looked] at ran
    cases ran
    exact .inl rfl
  · rw [looked] at ran
    cases found with
    | none =>
      cases ran
      exact .inl rfl
    | some flow =>
      cases ran
      obtain ⟨d, awaits⟩ := awaits_of_loadOne missing looked
      exact .inr ⟨d, flow, awaits, rfl⟩

/-- **Flows that are found are found still** when another one is loaded. -/
theorem grows_ensure (ran : runFrom w (ensure code) = (result, v)) :
    w.registry.Grows v.registry := by
  unfold ensure at ran
  rw [runFrom_bind_of_ok (runFrom_get w)] at ran
  split at ran
  · cases ran
    exact .refl _
  · next missing =>
    rcases reload_cases_awaits missing ran with same | ⟨d, flow, -, registered⟩
    · rw [same]
      exact .refl _
    · intro other flow' found
      have different : code ≠ other := by
        rintro rfl
        rw [missing] at found
        cases found
      unfold Registry.flow? at found ⊢
      rwa [registered, Table.get?_set_of_ne _ _ different]

/-- **In a complete bot nothing is loaded.** -/
theorem registry_of_ensure (complete : w.Complete) (ran : runFrom w (ensure code) = (result, v)) :
    v.registry = w.registry := by
  unfold ensure at ran
  rw [runFrom_bind_of_ok (runFrom_get w)] at ran
  split at ran
  · cases ran
    rfl
  · next missing =>
    rcases reload_cases_awaits missing ran with same | ⟨d, flow, awaits, -⟩
    · exact same
    · exact absurd awaits (complete d flow)

end Registry

/-! ## Messages to complete bots -/

/-- What leaves a complete bot as it is: where prompts only look things up, it changes neither the
registered flows nor the stored definitions. -/
def World.Abides (w v : World) : Prop :=
  w.registry.EveryPrompt Prompt.Looks → w.Complete →
    v.registry = w.registry ∧ w.backend.Agrees v.backend

namespace World

instance : Lasting Abides where
  refl w _ _ := ⟨rfl, Lasting.refl w.backend⟩
  trans first second looks complete := by
    obtain ⟨same, agrees⟩ := first looks complete
    obtain ⟨same', agrees'⟩ := second (same ▸ looks) (complete.of_agrees agrees same)
    exact ⟨same'.trans same, Lasting.trans agrees agrees'⟩

theorem Idles.abides {w v : World} (idles : w.Idles v) : w.Abides v := fun _ _ =>
  ⟨idles.registry, idles.backend.agrees⟩

theorem tolerant_abides : Tolerant Abides where
  looks rests _ _ _ ran := (tolerant_idles.looks rests ran).abides
  uses _ _ _ ran := (tolerant_idles.uses ran).abides

end World

namespace Conversation

open World

theorem conversational_abides (customer : String) :
    Conversational customer fun _ x => Within Abides x where
  looks looks := tolerant_abides.looks (looks _ Lookup.composable_rests)
  reads _ rest := by
    intro w v result ran looks complete
    rw [runFrom_bind_of_ok (runFrom_get w)] at ran
    exact rest w looks ran looks complete
  opens code := by
    intro w v result ran _ complete
    exact ⟨Registry.registry_of_ensure complete ran,
      (Registry.loads_ensure code ran).backend.agrees⟩
  replies := tolerant_abides.activeReplies fun w _ => (w.idles_cache _).abides
  recalls := tolerant_abides.lenient.cached? _
  remembers := tolerant_abides.lenient.remember fun w _ => (w.idles_cache _).abides
  forgets := tolerant_abides.lenient.forget fun w => (w.idles_cache _).abides
  bind := within_bind

/-- **A message leaves a complete bot complete.** -/
theorem abides_process (m : Incoming) : Within Abides (process m) :=
  (conversational_abides m.customer).process

end Conversation

end Dialogue
