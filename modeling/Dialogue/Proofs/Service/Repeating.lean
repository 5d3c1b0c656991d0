import Dialogue.Proofs.Service.Closing

/-!
# Loading again

Loading all stored definitions enlarges the registry, and the registry is what the definitions are
checked against. But the codes that it gains are those of definitions that are in use, which may be
switched to anyway. So loading settles at once: a second time it gives the same flows, and so it
does when the documents are listed in another order.

Main statement: `settles_of_loadAll`.
-/

namespace Dialogue

open Effect Definition

variable {w v : World}

namespace Registry

theorem readable_of_agrees (agrees : w.backend.Agrees v.backend) :
    readable v.backend.database = readable w.backend.database := by
  unfold readable
  rw [agrees.flows]

/-! ## After all was loaded -/

/-- What may be switched to when all was loaded is what might be switched to before. -/
theorem mem_within_of_loaded (agrees : w.backend.Agrees v.backend)
    (registry : v.registry = Table.setAll w.registry (stored w)) (code : String) :
    code ∈ within (Table.keys v.registry) (readable v.backend.database) ↔
      code ∈ within (Table.keys w.registry) (readable w.backend.database) := by
  have keys (code : String) : code ∈ Table.keys v.registry ↔
      code ∈ Table.keys (stored w) ∨ code ∈ Table.keys w.registry := by
    rw [registry]
    exact Table.mem_keys_setAll_iff (nodup_keys_flows _ _ _)
  rw [readable_of_agrees agrees]
  refine mem_within_of_subset (fun code mem => (keys code).2 (.inr mem)) ?_ code
  intro code mem
  rcases (keys code).1 mem with added | old
  · exact within_of_mem_keys_flows added
  · exact List.mem_append_left _ old

/-- The same flows would be loaded again. -/
theorem stored_of_loaded (agrees : w.backend.Agrees v.backend)
    (registry : v.registry = Table.setAll w.registry (stored w)) : stored v = stored w := by
  have same := mem_within_of_loaded agrees registry
  unfold stored
  rw [readable_of_agrees agrees] at same ⊢
  exact flows_eq_of_within_iff Store.options same

/-- **A second loading** leaves the registry as it is, and gives the same number unless the database
fails. -/
theorem runFrom_loadDynamic_again (loadable : Loadable w.backend (Table.keys w.registry))
    (agrees : w.backend.Agrees v.backend)
    (registry : v.registry = Table.setAll w.registry (stored w)) :
    (runFrom v loadDynamic).2.registry = v.registry ∧
      (v.backend.Answers → (runFrom v loadDynamic).1 = .ok (stored w).length) := by
  by_cases answers : v.backend.Answers
  · have again : Loadable v.backend (Table.keys v.registry) := by
      have same := mem_within_of_loaded agrees registry
      refine loadable.congr answers (fun d mem => ?_) fun code => (same code).1
      rwa [readable_of_agrees agrees] at mem
    obtain ⟨b, ran, -⟩ := runFrom_loadDynamic again.answers again.run
    rw [stored_of_loaded agrees registry] at ran
    rw [ran]
    refine ⟨?_, fun _ => rfl⟩
    show Table.setAll v.registry (stored w) = v.registry
    rw [registry]
    exact Table.setAll_setAll _ (nodup_keys_flows _ _ _)
  · obtain ⟨fault, b, failed⟩ := runFrom_loadAll_of_not_loadable Store.options
      fun loadable : Loadable v.backend (Table.keys v.registry) => answers loadable.answers
    rw [runFrom_loadDynamic_of_error failed]
    exact ⟨rfl, fun up => absurd up answers⟩

end Registry

/-- **Loading settles.** When no more definitions are stored than are read at once, their codes
differ, and loading them gives flows, it gives the same flow under each code when the documents are
listed in another order. Registering them a second time changes nothing, and if the database answers
then, the same number of flows is registered. -/
theorem settles_of_loadAll {b : Backend} {loaded : Table Flow}
    (few : w.backend.database.flows.length ≤ 100)
    (distinct : ((allStored w.backend.database).map Definition.code).Nodup)
    (returns : runFrom w.backend (loadAll Store.options (Table.keys w.registry)) =
      (.ok loaded, b)) :
    (∀ c : Backend, c.Answers → c.database.flows.Perm w.backend.database.flows →
      ∃ again e, runFrom c (loadAll Store.options (Table.keys w.registry)) = (.ok again, e) ∧
        ∀ code, again.get? code = loaded.get? code) ∧
    ∃ v, runFrom w Registry.loadDynamic = (.ok loaded.length, v) ∧ w.backend.Agrees v.backend ∧
      (∀ code, Table.get? v.registry code =
        (loaded.get? code).or (Table.get? w.registry code)) ∧
      (runFrom v Registry.loadDynamic).2.registry = v.registry ∧
      (v.backend.Answers → (runFrom v Registry.loadDynamic).1 = .ok loaded.length) := by
  obtain ⟨loadable, rfl⟩ := loadable_of_runFrom returns
  constructor
  · intro c answers perm
    have again := loadable.of_perm few answers perm
    obtain ⟨e, ran⟩ := runFrom_loadAll Store.options _ again.answers again.run
    refine ⟨_, e, ran, fun code => ?_⟩
    rw [readable_of_few few, readable_of_few (perm.length_eq.trans_le few)]
    exact get?_flows_of_perm _ _ distinct (perm.filterMap _) code
  · obtain ⟨c, ran, agrees⟩ := Registry.runFrom_loadDynamic loadable.answers loadable.run
    refine ⟨_, ran, agrees, fun code => ?_, ?_⟩
    · exact Table.get?_setAll w.registry (nodup_keys_flows _ _ _) code
    · exact Registry.runFrom_loadDynamic_again loadable agrees rfl

/-! ## Two definitions that lead to one another -/

theorem few_shelved (d e : Definition) : (shelved d e).backend.database.flows.length ≤ 100 :=
  show 2 ≤ 100 by decide

theorem distinct_shelved {d e : Definition} (differ : d.code ≠ e.code) :
    ((allStored (shelved d e).backend.database).map Definition.code).Nodup := by
  rw [← readable_of_few (few_shelved d e)]
  exact (isIdle_shelved differ).distinct

theorem compiles_hub : ∀ s ∈ hub.steps, s.Compiles :=
  (check_eq_none_iff.1 (check_hub.2 (List.mem_singleton_self _))).compiles

theorem compiles_back : ∀ s ∈ back.steps, s.Compiles :=
  (check_eq_none_iff.1 (by cbv : back.check (some ["hub"]) = .ok none)).compiles

theorem loadable_shelved {d e : Definition} (first : ∀ s ∈ d.steps, s.Compiles)
    (second : ∀ s ∈ e.steps, s.Compiles) (known : List String) :
    Loadable (shelved d e).backend known where
  answers := rfl
  run f hf := by
    rcases mem_active_shelved hf with rfl | rfl
    · exact not_exceeds_of_authored (show (copy "1" d).authored = d.authored from rfl) first _
    · exact not_exceeds_of_authored (show (copy "2" e).authored = e.authored from rfl) second _

theorem length_flows_back :
    (flows Store.options [] (readable (shelved hub back).backend.database)).length = 2 := by
  have known : "offers" ∈ within [] [copy "1" hub, copy "2" back] := by decide
  obtain ⟨first, made⟩ := exists_flow?_of_accepted Store.options (check_hub.2 known)
  obtain ⟨second, made'⟩ := exists_flow?_of_accepted Store.options
    (by cbv : back.check (some (within [] [copy "1" hub, copy "2" back])) = .ok none)
  have inUse : active [copy "1" hub, copy "2" back] = [copy "1" hub, copy "2" back] := rfl
  rw [readable_shelved]
  unfold flows
  rw [inUse, List.foldl_cons, List.foldl_cons, List.foldl_nil]
  unfold put
  rw [flow?_copy, flow?_copy, made, made']
  rfl

/-- Both are loaded, in either order and as often as one likes. -/
theorem settles_of_loadAll_back :
    ∃ loaded again v, loaded.length = 2 ∧
      (∃ b, runFrom (shelved hub back).backend (loadAll Store.options []) = (.ok loaded, b)) ∧
      (∃ b, runFrom { database := { flows := [document "2" back, document "1" hub] } }
        (loadAll Store.options []) = (.ok again, b)) ∧
      (∀ code, again.get? code = loaded.get? code) ∧
      runFrom (shelved hub back) Registry.loadDynamic = (.ok loaded.length, v) ∧
      (runFrom v Registry.loadDynamic).1 = .ok loaded.length ∧
      (runFrom v Registry.loadDynamic).2.registry = v.registry := by
  have differ : hub.code ≠ back.code := show "hub" ≠ "offers" by decide
  have loadable := loadable_shelved compiles_hub compiles_back []
  obtain ⟨b, returns⟩ := runFrom_loadAll Store.options [] loadable.answers loadable.run
  obtain ⟨reordered, v, ran, agrees, -, settled, again⟩ := settles_of_loadAll
    (few_shelved hub back) (distinct_shelved differ) returns
  obtain ⟨others, e, loaded, same⟩ := reordered
    { database := { flows := [document "2" back, document "1" hub] } } rfl (List.Perm.swap _ _ _)
  have up : (shelved hub back).backend.Up := fun _ => rfl
  exact ⟨_, others, v, length_flows_back, ⟨b, returns⟩, ⟨e, loaded⟩, same, ran,
    again (agrees.up up).answers, settled⟩

end Dialogue
