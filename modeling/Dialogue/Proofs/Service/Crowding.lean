import Dialogue.Proofs.Service.Repeating

/-!
# Loading from a crowded database

No more than a hundred documents are read at once, whether or not their definitions are in use, or
can be read at all. A definition that stands behind these is stored but not registered when all are
loaded, and neither is one that leads to a definition behind them, although both are fit to run.

Main statements: `registered_of_loadDynamic`, which definitions are registered; and
`not_registered_greeting`, one that is not.
-/

namespace Dialogue

open Effect Definition

variable {w v : World} {n : Nat} {d e : Definition}

/-- A definition is fit to run next to all definitions that are stored and in use. -/
def World.Fits (w : World) (d : Definition) : Prop :=
  d ∈ active (allStored w.backend.database) ∧
    d.check (some (within (Table.keys w.registry) (allStored w.backend.database))) = .ok none

/-- A definition is read at once with others, and fit to run next to those that are read. -/
def World.Reaches (w : World) (d : Definition) : Prop :=
  d ∈ readable w.backend.database ∧
    d.check (some (within (Table.keys w.registry) (readable w.backend.database))) = .ok none

/-! ## What is registered -/

/-- Loading that gives a number has loaded all that is read at once. -/
theorem Registry.loadable_of_loadDynamic (ran : runFrom w loadDynamic = (.ok n, v)) :
    Loadable w.backend (Table.keys w.registry) ∧
      v.registry = Table.setAll w.registry (stored w) := by
  by_cases loadable : Loadable w.backend (Table.keys w.registry)
  · obtain ⟨b, gives, -⟩ := runFrom_loadDynamic loadable.answers loadable.run
    rw [gives] at ran
    cases ran
    exact ⟨loadable, rfl⟩
  · obtain ⟨fault, b, failed⟩ := runFrom_loadAll_of_not_loadable Store.options loadable
    rw [runFrom_loadDynamic_of_error failed] at ran
    cases ran

/-- Under the code of a stored definition, its own flow is loaded or none. -/
theorem Registry.get?_stored_iff
    (distinct : ((allStored w.backend.database).map Definition.code).Nodup)
    (mem : d ∈ active (allStored w.backend.database)) {flow : Flow} :
    (stored w).get? d.code = some flow ↔ w.Reaches d ∧ d.toFlow Store.options = .ok flow := by
  have sublist := readable_sublist w.backend.database
  have distinct' := nodup_active (distinct.sublist (sublist.map Definition.code))
  obtain ⟨listed, isActive⟩ := List.mem_filter.1 mem
  unfold stored
  rw [get?_flows_iff _ _ distinct']
  constructor
  · rintro ⟨e, he, same, made⟩
    -- What was loaded under this code is what stands in the document of this very definition.
    have read : e ∈ readable w.backend.database := (List.mem_filter.1 he).1
    obtain rfl : d = e := eq_of_code distinct listed (sublist.subset read) same
    obtain ⟨passes, built⟩ := flow?_eq_some_iff.1 made
    exact ⟨⟨read, passes⟩, built⟩
  · rintro ⟨⟨read, passes⟩, built⟩
    exact ⟨d, List.mem_filter.2 ⟨read, isActive⟩, rfl, flow?_eq_some_iff.2 ⟨passes, built⟩⟩

theorem World.Fits.reaches_of_few (fits : w.Fits d)
    (few : w.backend.database.flows.length ≤ 100) : w.Reaches d := by
  obtain ⟨mem, passes⟩ := fits
  unfold World.Reaches
  rw [readable_of_few few]
  exact ⟨(List.mem_filter.1 mem).1, passes⟩

/-- **Which definitions are registered** when all are loaded and their codes differ. A definition
that is fit to run next to all others has a flow. It is registered under its code if the definition
is read at once with others, and fit to run next to these; otherwise nothing changes under this
code. When no more than a hundred definitions are stored, it is always registered. -/
theorem registered_of_loadDynamic
    (distinct : ((allStored w.backend.database).map Definition.code).Nodup)
    (ran : runFrom w Registry.loadDynamic = (.ok n, v)) (fits : w.Fits d) :
    ∃ flow, d.toFlow Store.options = .ok flow ∧
      (w.Reaches d → Table.get? v.registry d.code = some flow) ∧
      (¬ w.Reaches d → Table.get? v.registry d.code = Table.get? w.registry d.code) ∧
      (w.backend.database.flows.length ≤ 100 → Table.get? v.registry d.code = some flow) := by
  obtain ⟨-, registry⟩ := Registry.loadable_of_loadDynamic ran
  obtain ⟨flow, made⟩ := exists_flow?_of_accepted Store.options fits.2
  have built := (flow?_eq_some_iff.1 made).2
  have found : Table.get? v.registry d.code =
      ((Registry.stored w).get? d.code).or (Table.get? w.registry d.code) := by
    rw [registry]
    exact Table.get?_setAll _ (nodup_keys_flows _ _ _) _
  have registers (reaches : w.Reaches d) : Table.get? v.registry d.code = some flow := by
    rw [found, (Registry.get?_stored_iff distinct fits.1).2 ⟨reaches, built⟩]
    rfl
  refine ⟨flow, built, registers, fun beyond => ?_, fun few => registers (fits.reaches_of_few few)⟩
  have none_ : (Registry.stored w).get? d.code = none := by
    rw [Option.eq_none_iff_forall_ne_some]
    intro other loaded
    exact beyond ((Registry.get?_stored_iff distinct fits.1).1 loaded).1
  rw [found, none_]
  rfl

theorem registered_of_loadDynamic_hub :
    ∃ v flow, runFrom (shelved hub back) Registry.loadDynamic = (.ok 2, v) ∧
      hub.toFlow Store.options = .ok flow ∧ Table.get? v.registry "hub" = some flow := by
  have few := few_shelved hub back
  have distinct := distinct_shelved (show hub.code ≠ back.code from (by decide : "hub" ≠ "offers"))
  have fits : (shelved hub back).Fits (copy "1" hub) := by
    unfold World.Fits
    rw [← readable_of_few few, readable_shelved]
    exact ⟨List.mem_cons_self, by cbv⟩
  have loadable := loadable_shelved compiles_hub compiles_back []
  obtain ⟨b, ran, -⟩ := Registry.runFrom_loadDynamic loadable.answers loadable.run
  have two : (Registry.stored (shelved hub back)).length = 2 := length_flows_back
  rw [two] at ran
  obtain ⟨flow, built, -, -, registered⟩ := registered_of_loadDynamic distinct ran fits
  exact ⟨_, flow, ran, built, registered few⟩

/-! ## A crowd -/

/-- Definitions that are no longer in use, each with a code of its own. -/
def crowd (n : Nat) : List Definition :=
  (List.range n).map fun i => { retired with code := String.ofList (List.replicate (i + 1) 'x') }

/-- A bot that has stored some definitions, each in a document that has its code as id. -/
def storing (ds : List Definition) : World :=
  { newborn with backend := { database := { flows := ds.map fun d => document d.code d } } }

theorem filterMap_documents {ds : List Definition} (named : ∀ d ∈ ds, d.code ≠ "") :
    (ds.map fun d => document d.code d).filterMap ofDocument? = ds.map fun d => copy d.code d := by
  induction ds with
  | nil => rfl
  | cons d rest ih =>
    rw [List.map_cons, List.filterMap_cons, ofDocument?_document (named d List.mem_cons_self),
      ih fun e he => named e (List.mem_cons_of_mem _ he), List.map_cons]

theorem readable_storing {ds : List Definition} (named : ∀ d ∈ ds, d.code ≠ "") :
    readable (storing ds).backend.database =
      (ds.take Database.readLimit).map fun d => copy d.code d := by
  show ((ds.map fun d => document d.code d).take Database.readLimit).filterMap ofDocument? = _
  rw [← List.map_take]
  exact filterMap_documents fun d hd => named d (List.mem_of_mem_take hd)

theorem allStored_storing {ds : List Definition} (named : ∀ d ∈ ds, d.code ≠ "") :
    allStored (storing ds).backend.database = ds.map fun d => copy d.code d :=
  filterMap_documents named

theorem of_mem_crowd (hd : d ∈ crowd n) :
    d.isActive = false ∧ d.code.toList ≠ [] ∧ ∀ c ∈ d.code.toList, c = 'x' := by
  obtain ⟨i, -, rfl⟩ := List.mem_map.1 hd
  simp [retired]

theorem active_crowd (n : Nat) : active ((crowd n).map fun d => copy d.code d) = [] := by
  refine List.filter_eq_nil_iff.2 fun e he => ?_
  obtain ⟨d, hd, rfl⟩ := List.mem_map.1 he
  show ¬ d.isActive = true
  simp [(of_mem_crowd hd).1]

theorem take_crowd (d : Definition) :
    (crowd 100 ++ [d]).take Database.readLimit = crowd 100 :=
  List.take_left' (by simp [crowd] : (crowd 100).length = 100)

theorem named_crowd_greeting (n : Nat) : ∀ d ∈ crowd n ++ [greeting], d.code ≠ "" := by
  intro d hd
  rcases List.mem_append.1 hd with crowded | last
  · intro empty
    exact (of_mem_crowd crowded).2.1 (by simp [empty])
  · rw [List.mem_singleton.1 last]
    decide

theorem nodup_crowd_greeting (n : Nat) :
    ((crowd n ++ [greeting]).map Definition.code).Nodup := by
  rw [List.map_append, List.nodup_append]
  refine ⟨?_, List.nodup_singleton _, ?_⟩
  · unfold crowd
    rw [List.map_map]
    refine List.nodup_range.map fun i j same => ?_
    have lengths := congrArg (fun code : String => code.toList.length) same
    simpa using lengths
  · rintro code crowded last own rfl
    obtain ⟨d, hd, rfl⟩ := List.mem_map.1 crowded
    have same : d.code = "greeting" := List.mem_singleton.1 own
    have first : 'g' = 'x' := (of_mem_crowd hd).2.2 'g' (by simp [same])
    exact absurd first (by decide)

/-- The definition that stands behind a hundred others is not registered, although it is fit to run
and the only one in use. -/
theorem not_registered_greeting :
    ((allStored (storing (crowd 100 ++ [greeting])).backend.database).map Definition.code).Nodup ∧
      (storing (crowd 100 ++ [greeting])).Fits (copy "greeting" greeting) ∧
      ∃ v, runFrom (storing (crowd 100 ++ [greeting])) Registry.loadDynamic = (.ok 0, v) ∧
        Table.get? v.registry "greeting" = none := by
  have named := named_crowd_greeting 100
  have inUse : active (allStored (storing (crowd 100 ++ [greeting])).backend.database) =
      [copy "greeting" greeting] := by
    have none_ := active_crowd 100
    unfold active at none_ ⊢
    rw [allStored_storing named, List.map_append, List.filter_append, none_]
    rfl
  have nothing : active (readable (storing (crowd 100 ++ [greeting])).backend.database) = [] := by
    rw [readable_storing named, take_crowd, active_crowd]
  refine ⟨?_, ?_, ?_⟩
  · rw [allStored_storing named, List.map_map]
    exact nodup_crowd_greeting 100
  · unfold World.Fits within
    rw [inUse]
    exact ⟨List.mem_cons_self, by cbv⟩
  · obtain ⟨b, ran, -⟩ := @Registry.runFrom_loadDynamic (storing (crowd 100 ++ [greeting])) rfl
      (by simp [nothing])
    have empty : Registry.stored (storing (crowd 100 ++ [greeting])) = [] := by
      unfold Registry.stored flows
      rw [nothing]
      rfl
    rw [empty] at ran
    exact ⟨_, ran, rfl⟩

end Dialogue
