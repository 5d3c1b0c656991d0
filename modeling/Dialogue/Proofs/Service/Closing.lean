import Dialogue.Proofs.Definition.Together
import Dialogue.Proofs.Flow.Switching
import Dialogue.Proofs.Service.Running

/-!
# Switches after a start

A start checks every active definition next to the built-in flows and all active definitions, before
it is known which of these pass the check themselves. So every switch of a registered flow leads to
a built-in flow or to an active definition, but that may have been left out.

Main statements: `World.IsIdle.runFrom_loadFlows`, the flows that a start registers; and
`closed_of_loadFlows_iff`, when all their switches lead to registered flows.
-/

namespace Dialogue

open Effect Definition

/-- A bot before its start. It has no more documents than are read at once, and the definitions in
them have different codes. -/
structure World.IsIdle (w : World) : Prop where
  registry : w.registry = []
  few : w.backend.database.flows.length ≤ Database.readLimit
  distinct : ((readable w.backend.database).map Definition.code).Nodup

/-- The codes that the stored definitions may switch to at a start. -/
abbrev knownAtStart (db : Database) : List String := within Catalogue.codes (readable db)

/-- Nothing is loaded: the database does not answer, or the check of a stored definition stops. -/
def World.Stops (w : World) : Prop :=
  ¬ w.backend.Answers ∨ ∃ d ∈ active (readable w.backend.database), ∃ fault,
    d.Exceeds (some (knownAtStart w.backend.database)) fault

variable {w : World} {d : Definition}

/-! ## What a start registers -/

theorem World.Stops.not_loadable (stops : w.Stops) : ¬ Loadable w.backend Catalogue.codes := by
  intro loadable
  rcases stops with down | ⟨d, hd, fault, exceeds⟩
  · exact down loadable.answers
  · exact loadable.run d hd fault exceeds

theorem runFrom_loadDynamic_of_stops (builtin : w.registry = Registry.builtins) (stops : w.Stops) :
    ∃ fault b, runFrom w Registry.loadDynamic = (.error fault, { w with backend := b }) := by
  obtain ⟨fault, b, failed⟩ := runFrom_loadAll_of_not_loadable Store.options stops.not_loadable
  rw [← Registry.keys_builtins, ← builtin] at failed
  exact ⟨fault, b, Registry.runFrom_loadDynamic_of_error failed⟩

namespace World.IsIdle

theorem nodup_active (idle : w.IsIdle) :
    ((active (readable w.backend.database)).map Definition.code).Nodup :=
  Definition.nodup_active idle.distinct

/-- The definition that is flagged is among those that are read at once. -/
theorem mem_readable_of_first? (idle : w.IsIdle)
    (first : (w.backend.database.first? .flows byDefault).bind ofDocument? = some d) :
    d ∈ readable w.backend.database := by
  obtain ⟨doc, found, read⟩ := Option.bind_eq_some_iff.1 first
  rw [readable_of_few idle.few]
  exact List.mem_filterMap.2 ⟨doc, List.mem_of_find?_eq_some found, read⟩

/-- A start that loads nothing leaves the built-in flows. -/
theorem runFrom_loadFlows_of_stops (idle : w.IsIdle) (stops : w.Stops) :
    ∃ v, runFrom w (Startup.loadFlows true) = (.ok (), v) ∧ v.registry = Registry.builtins := by
  let builtin : World := { w with registry := Registry.builtins }
  obtain ⟨fault, b, failed⟩ := @runFrom_loadDynamic_of_stops builtin rfl stops
  rw [runFrom_loadFlows_of_empty idle.registry, runFrom_loadStored_of_error failed]
  exact ⟨_, rfl, rfl⟩

/-- Next to all that was loaded, choosing the flow to open with registers none that is not. -/
theorem runFrom_loadOpening (idle : w.IsIdle) (runs : ¬ w.Stops) {u : World}
    (agrees : w.backend.Agrees u.backend)
    (loaded : u.registry = Registry.loaded (readable w.backend.database)) :
    ∃ result v, runFrom u Registry.loadOpening = (result, v) ∧
      ∀ code, Table.get? v.registry code = Table.get? u.registry code := by
  have distinct := idle.nodup_active
  have fewer {code : String} (mem : code ∈ Table.keys u.registry) :
      code ∈ knownAtStart w.backend.database :=
    Registry.within_of_mem_keys_loaded distinct (loaded ▸ mem)
  by_cases answers : u.backend.Answers
  · have listed {d : Definition}
        (first : d ∈ (u.backend.database.first? .flows byDefault).bind ofDocument?)
        (isActive : d.isActive = true) : d ∈ active (readable w.backend.database) := by
      unfold Database.first? Database.documents at first
      rw [agrees.flows] at first
      exact List.mem_filter.2 ⟨idle.mem_readable_of_first? first, isActive⟩
    obtain ⟨c, -, opened⟩ := Registry.runFrom_loadOpening answers
      fun d first isActive fault exceeds => runs (.inr ⟨d, listed first isActive, fault,
        exceeds.mono (MaySwitch.of_subset fun code mem => .inl (fewer mem))⟩)
    cases opener : Registry.opened? u with
    | none =>
      rw [opener] at opened
      exact ⟨_, _, opened, fun _ => rfl⟩
    | some entry =>
      rw [opener] at opened
      refine ⟨_, _, opened, fun code => ?_⟩
      obtain ⟨d, first, inUse⟩ := Option.bind_eq_some_iff.1 opener
      obtain ⟨isActive, built⟩ := Option.ite_none_right_eq_some.1 inUse
      obtain ⟨flow, made, rfl⟩ := Option.map_eq_some_iff.1 built
      have again : Table.get? u.registry d.code = some flow := by
        have accepted := (accepted_of_flow? made).of_subset fun code mem => .inl (fewer mem)
        have stored := (get?_flows_iff Store.options Catalogue.codes distinct).2
          ⟨d, listed first isActive, rfl, flow?_of_accepted made accepted⟩
        rw [loaded, Registry.get?_loaded, stored]
        rfl
      show Table.get? (Table.set u.registry d.code flow) code = Table.get? u.registry code
      rw [Table.get?_set]
      split
      · next same => rw [← same, again]
      · rfl
  · obtain ⟨c, failed⟩ := Registry.runFrom_loadOpening_of_not_answers answers
    exact ⟨_, _, failed, fun _ => rfl⟩

/-- **A start registers** the built-in flows, and over them those of the active definitions.
Choosing the flow to open with adds none. -/
theorem runFrom_loadFlows (idle : w.IsIdle) (runs : ¬ w.Stops) :
    ∃ v, runFrom w (Startup.loadFlows true) = (.ok (), v) ∧ ∀ code,
      Table.get? v.registry code =
        Table.get? (Registry.loaded (readable w.backend.database)) code := by
  obtain ⟨answers, run⟩ := not_or.1 runs
  let builtin : World := { w with registry := Registry.builtins }
  obtain ⟨b, dynamic, agrees⟩ := @Registry.runFrom_loadDynamic builtin (not_not.1 answers)
    fun d hd fault exceeds => run ⟨d, hd, fault, exceeds⟩
  let loaded : World :=
    { builtin with backend := b, registry := Registry.loaded (readable w.backend.database) }
  obtain ⟨result, v, opened, same⟩ := @runFrom_loadOpening w idle runs loaded agrees rfl
  rw [runFrom_loadFlows_of_empty idle.registry, runFrom_loadStored_of_ok dynamic opened]
  exact ⟨v, rfl, same⟩

end World.IsIdle

/-! ## Where the registered flows lead -/

namespace Registry

variable {definitions : List Definition} {code target : String} {flow : Flow}

/-- The flow of an active definition that passes the check, next to all active definitions. -/
abbrev together? (definitions : List Definition) (d : Definition) : Option Flow :=
  d.flow? Store.options (some (within Catalogue.codes definitions))

theorem Closed.congr {registry other : Registry}
    (same : ∀ code, Table.get? registry code = Table.get? other code) :
    registry.Closed ↔ other.Closed := by
  have keys (code : String) : code ∈ Table.keys registry ↔ code ∈ Table.keys other := by
    rw [Table.mem_keys_iff, Table.mem_keys_iff, same]
  unfold Closed
  simp only [same, keys]

theorem closed_builtins : Closed builtins := by
  intro code flow found target switches
  rw [keys_builtins]
  exact Catalogue.mem_codes_of_switchesTo found switches

/-- A registered flow is a built-in one or that of an active definition. -/
theorem of_get?_loaded (distinct : ((active definitions).map Definition.code).Nodup)
    (found : Table.get? (loaded definitions) code = some flow) :
    (∃ d ∈ active definitions, together? definitions d = some flow) ∨
      Table.get? builtins code = some flow := by
  rw [get?_loaded] at found
  rcases Option.or_eq_some_iff.1 found with stored | ⟨-, builtin⟩
  · obtain ⟨d, hd, -, made⟩ := (get?_flows_iff _ _ distinct).1 stored
    exact .inl ⟨d, hd, made⟩
  · exact .inr builtin

/-- Every switch leads to a built-in flow or to an active definition. -/
theorem within_of_switchesTo (distinct : ((active definitions).map Definition.code).Nodup)
    (found : Table.get? (loaded definitions) code = some flow) (switches : flow.SwitchesTo target) :
    target ∈ within Catalogue.codes definitions := by
  rcases of_get?_loaded distinct found with ⟨d, hd, made⟩ | builtin
  · rcases mem_of_switchesTo made switches with known | rfl
    · exact known
    · exact List.mem_append_right _ (List.mem_map_of_mem hd)
  · exact List.mem_append_left _ (Catalogue.mem_codes_of_switchesTo builtin switches)

/-- The registry is closed when each active definition that passes the check leads to such ones. -/
theorem closed_loaded_iff (distinct : ((active definitions).map Definition.code).Nodup) :
    Closed (loaded definitions) ↔
      ∀ d ∈ active definitions, ∀ flow, together? definitions d = some flow →
        ∀ target, flow.SwitchesTo target → target ∈ Catalogue.codes ∨
          ∃ e ∈ active definitions, target = e.code ∧
            ∃ other, together? definitions e = some other := by
  constructor
  · intro closed d hd flow made target switches
    have found : Table.get? (loaded definitions) d.code = some flow := by
      rw [get?_loaded, (get?_flows_iff _ _ distinct).2 ⟨d, hd, rfl, made⟩]
      rfl
    exact (mem_keys_loaded_iff distinct).1 (closed d.code flow found target switches)
  · intro leads code flow found target switches
    refine (mem_keys_loaded_iff distinct).2 ?_
    rcases of_get?_loaded distinct found with ⟨d, hd, made⟩ | builtin
    · exact leads d hd flow made target switches
    · exact .inl (Catalogue.mem_codes_of_switchesTo builtin switches)

end Registry

/-- **Which switches lead nowhere after a start.** A start gives a registry in which every switch
leads to a built-in flow or to an active definition. All of them lead to registered flows exactly
when a check has stopped the loading, or when the active definitions that pass the check lead to
built-in flows and to such definitions alone. -/
theorem closed_of_loadFlows_iff (idle : w.IsIdle) :
    ∃ v, runFrom w (Startup.loadFlows true) = (.ok (), v) ∧
      (∀ code flow, Table.get? v.registry code = some flow → ∀ target, flow.SwitchesTo target →
        target ∈ knownAtStart w.backend.database) ∧
      (v.registry.Closed ↔ w.Stops ∨
        ∀ d ∈ active (readable w.backend.database), ∀ flow,
          d.flow? Store.options (some (knownAtStart w.backend.database)) = some flow →
          ∀ target, flow.SwitchesTo target → target ∈ Catalogue.codes ∨
            ∃ e ∈ active (readable w.backend.database), target = e.code ∧ ∃ other,
              e.flow? Store.options (some (knownAtStart w.backend.database)) = some other) := by
  by_cases stops : w.Stops
  · obtain ⟨v, ran, builtin⟩ := idle.runFrom_loadFlows_of_stops stops
    refine ⟨v, ran, fun code flow found target switches => ?_, ?_⟩
    · rw [builtin] at found
      exact List.mem_append_left _ (Catalogue.mem_codes_of_switchesTo found switches)
    · rw [builtin]
      exact iff_of_true Registry.closed_builtins (.inl stops)
  · obtain ⟨v, ran, same⟩ := idle.runFrom_loadFlows stops
    refine ⟨v, ran, fun code flow found target switches => ?_, ?_⟩
    · rw [same] at found
      exact Registry.within_of_switchesTo idle.nodup_active found switches
    · rw [Registry.Closed.congr same, Registry.closed_loaded_iff idle.nodup_active,
        or_iff_right stops]

/-! ## Two databases -/

/-- A bot that has stored two definitions, before its start. -/
def shelved (d e : Definition) : World :=
  { newborn with backend := { database := { flows := [document "1" d, document "2" e] } } }

theorem readable_shelved (d e : Definition) :
    readable (shelved d e).backend.database = [copy "1" d, copy "2" e] := by
  show [document "1" d, document "2" e].filterMap ofDocument? = _
  rw [List.filterMap_cons, ofDocument?_document (by decide), List.filterMap_cons,
    ofDocument?_document (by decide), List.filterMap_nil]

theorem isIdle_shelved {d e : Definition} (differ : d.code ≠ e.code) : (shelved d e).IsIdle where
  registry := rfl
  few := show 2 ≤ 100 by decide
  distinct := by
    rw [readable_shelved]
    exact List.nodup_cons.2 ⟨fun mem => differ (List.mem_singleton.1 mem), List.nodup_singleton _⟩

theorem mem_active_shelved {d e f : Definition}
    (mem : f ∈ active (readable (shelved d e).backend.database)) :
    f = copy "1" d ∨ f = copy "2" e := by
  rw [readable_shelved] at mem
  simpa using (List.mem_filter.1 mem).1

/-- A definition that leads back to the one that leads to it. -/
def back : Definition :=
  plain "offers" [{ Step.plain "hello" "Our offers" with defaultNext := some "FLOW:hub" }]

/-- Two definitions that lead to one another. -/
theorem closed_of_loadFlows_back :
    (shelved hub back).IsIdle ∧ ∃ v,
      runFrom (shelved hub back) (Startup.loadFlows true) = (.ok (), v) ∧ v.registry.Closed := by
  have idle : (shelved hub back).IsIdle := isIdle_shelved (show "hub" ≠ "offers" by decide)
  obtain ⟨v, ran, -, closed⟩ := closed_of_loadFlows_iff idle
  refine ⟨idle, v, ran, closed.2 (.inr fun d hd flow made target switches => ?_)⟩
  have known : target ∈ knownAtStart (shelved hub back).backend.database :=
    (mem_of_switchesTo made switches).elim id fun own =>
      own ▸ List.mem_append_right _ (List.mem_map_of_mem hd)
  refine (List.mem_append.1 known).imp_right fun listed => ?_
  obtain ⟨e, he, rfl⟩ := List.mem_map.1 listed
  refine ⟨e, he, rfl, ?_⟩
  unfold knownAtStart
  rw [readable_shelved]
  rcases mem_active_shelved he with rfl | rfl
  · rw [flow?_copy]
    exact exists_flow?_of_accepted Store.options (check_hub.2 (by decide))
  · rw [flow?_copy]
    exact exists_flow?_of_accepted Store.options (by cbv)

/-- A definition that is in use but says nothing. -/
def blank : Definition := { offers with steps := [] }

theorem not_stops_shelved : ¬ (shelved hub blank).Stops := by
  rintro (down | ⟨d, hd, fault, exceeds⟩)
  · exact down rfl
  rcases mem_active_shelved hd with rfl | rfl
  · have accepted := check_eq_none_iff.1 (check_hub.2 (List.mem_singleton_self _))
    exact not_exceeds_of_authored (show (copy "1" hub).authored = hub.authored from rfl)
      accepted.compiles _ _ exceeds
  · exact not_exceeds_of_authored (show (copy "2" blank).authored = blank.authored from rfl)
      (List.forall_mem_nil _) _ _ exceeds

/-- The flow that leads on switches to a definition that says nothing, which is left out. -/
theorem dead_end_hub :
    (shelved hub blank).IsIdle ∧ ∃ v flow,
      runFrom (shelved hub blank) (Startup.loadFlows true) = (.ok (), v) ∧
      Table.get? v.registry "hub" = some flow ∧ flow.SwitchesTo "offers" ∧
      "offers" ∉ Table.keys v.registry := by
  have idle : (shelved hub blank).IsIdle := isIdle_shelved (show "hub" ≠ "offers" by decide)
  obtain ⟨v, ran, same⟩ := idle.runFrom_loadFlows not_stops_shelved
  have distinct := idle.nodup_active
  rw [readable_shelved] at same distinct
  have known : "offers" ∈ within Catalogue.codes [copy "1" hub, copy "2" blank] := by decide
  obtain ⟨flow, made⟩ := exists_flow?_of_accepted Store.options (check_hub.2 known)
  have loaded := (get?_flows_iff Store.options Catalogue.codes distinct).2
    ⟨copy "1" hub, List.mem_cons_self, rfl, (flow?_copy "1" hub Store.options _).trans made⟩
  refine ⟨idle, v, flow, ran, ?_, ?_, ?_⟩
  · rw [same, Registry.get?_loaded, show "hub" = (copy "1" hub).code from rfl, loaded]
    rfl
  · exact switchesTo_of_rule made (List.mem_singleton_self question)
      (fun t ht _ => List.mem_singleton.1 ht)
      (by cbv : question.rule.resolve "" [] = .switchTo "offers")
  · rw [Table.mem_keys_iff, same, ← Table.mem_keys_iff, Registry.mem_keys_loaded_iff distinct]
    rintro (builtin | ⟨d, hd, same, other, made⟩)
    · exact absurd builtin (by decide)
    · rcases List.mem_pair.1 (List.mem_filter.1 hd).1 with rfl | rfl
      · exact absurd same (show "offers" ≠ "hub" by decide)
      · exact absurd rfl (accepted_of_flow? made).peopled

end Dialogue
