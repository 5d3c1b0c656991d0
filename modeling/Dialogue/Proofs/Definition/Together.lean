import Dialogue.Proofs.Definition.Shelf

/-!
# Definitions that are loaded together

Whether a definition is loaded depends on the codes of all the others that are in use, but not on
the order in which they are listed. Where codes differ, the loaded flows are therefore the same
however the definitions are ordered; and they stay the same when some of those that are in use are
known before.

Main statements: `loadable_of_runFrom`, when loading all definitions gives flows, and which;
`get?_flows_of_perm` and `flows_eq_of_within_iff`, what these flows do not depend on.
-/

namespace Dialogue.Definition

open Effect

variable {b c : Backend} {db : Database} {source : OptionSource} {known other : List String}
  {ds es : List Definition}

/-! ## All definitions -/

/-- All definitions that are stored, also where they are more than are read at once. -/
def allStored (db : Database) : List Definition := db.flows.filterMap ofDocument?

theorem readable_sublist (db : Database) : (readable db).Sublist (allStored db) :=
  (List.take_sublist _ _).filterMap _

theorem readable_of_few (few : db.flows.length ≤ Database.readLimit) :
    readable db = allStored db := by
  unfold readable allStored
  rw [List.take_of_length_le few]

theorem nodup_active (distinct : (ds.map Definition.code).Nodup) :
    ((active ds).map Definition.code).Nodup :=
  distinct.sublist (List.filter_sublist.map _)

/-- Where codes differ, a code tells which definition it is. -/
theorem eq_of_code (distinct : (ds.map Definition.code).Nodup) {d e : Definition} (hd : d ∈ ds)
    (he : e ∈ ds) (same : d.code = e.code) : d = e :=
  List.inj_on_of_nodup_map distinct hd he same

/-! ## The flows they make -/

theorem mem_within_of_perm (perm : es.Perm ds) (code : String) :
    code ∈ within known es ↔ code ∈ within known ds := by
  have active_ : (active es).Perm (active ds) := perm.filter _
  exact ((active_.map _).append_left known).mem_iff

/-- **The order of the definitions** does not matter to what is loaded under a code. -/
theorem get?_flows_of_perm (source : OptionSource) (known : List String)
    (distinct : (ds.map Definition.code).Nodup) (perm : es.Perm ds) (code : String) :
    (flows source known es).get? code = (flows source known ds).get? code := by
  have distinct' : (es.map Definition.code).Nodup := (perm.map _).nodup_iff.2 distinct
  have active_ : (active es).Perm (active ds) := perm.filter _
  refine Option.ext fun flow => ?_
  rw [get?_flows_iff _ _ (nodup_active distinct'), get?_flows_iff _ _ (nodup_active distinct)]
  simp only [active_.mem_iff, flow?_eq_of_mem_iff source (mem_within_of_perm perm)]

/-- **The known flows** matter only as far as the definitions that are in use are not among them. -/
theorem flows_eq_of_within_iff (source : OptionSource)
    (same : ∀ code, code ∈ within other ds ↔ code ∈ within known ds) :
    flows source other ds = flows source known ds := by
  unfold flows
  congr 1
  funext table d
  unfold put
  rw [flow?_eq_of_mem_iff source same]

theorem within_of_mem_keys_flows {code : String} (mem : code ∈ (flows source known ds).keys) :
    code ∈ within known ds := by
  obtain ⟨flow, found⟩ := Table.mem_keys_iff.1 mem
  have loaded := (mem_foldl_put (Table.mem_of_get? found)).resolve_left List.not_mem_nil
  obtain ⟨d, hd, same, -⟩ := loaded
  exact List.mem_append_right _ (List.mem_map.2 ⟨d, hd, same.symm⟩)

/-- To know some of the definitions that are loaded adds nothing. -/
theorem mem_within_of_subset (subset : known ⊆ other) (fewer : other ⊆ within known ds)
    (code : String) : code ∈ within other ds ↔ code ∈ within known ds := by
  unfold within at fewer ⊢
  simp only [List.mem_append]
  constructor
  · rintro (mem | listed)
    · exact List.mem_append.1 (fewer mem)
    · exact .inr listed
  · exact Or.imp_left fun mem => subset mem

/-! ## Loading all of them -/

/-- All stored definitions can be loaded: the database answers, and no check stops. -/
structure Loadable (b : Backend) (known : List String) : Prop where
  answers : b.Answers
  run : ∀ d ∈ active (readable b.database), ∀ fault,
    ¬ d.Exceeds (some (within known (readable b.database))) fault

theorem runFrom_loadAll_of_not_loadable (source : OptionSource) (stops : ¬ Loadable b known) :
    ∃ fault c, runFrom b (loadAll source known) = (.error fault, c) := by
  unfold loadAll
  by_cases answers : b.Answers
  · obtain ⟨d, hd, fault, exceeds⟩ : ∃ d ∈ active (readable b.database), ∃ fault,
        d.Exceeds (some (within known (readable b.database))) fault := by
      by_contra none_
      exact stops ⟨answers, fun d hd fault exceeds => none_ ⟨d, hd, fault, exceeds⟩⟩
    obtain ⟨c, found⟩ := runFrom_findAll answers
    obtain ⟨fault, e, failed⟩ := runFrom_loadEach_of_exceeds source hd exceeds [] c
    rw [runFrom_bind_of_ok found, loadActive_eq]
    exact ⟨_, e, failed⟩
  · exact ⟨_, _, runFrom_bind_of_error (runFrom_findAll_of_not_answers answers)⟩

/-- **Loading gives flows** only if all stored definitions can be loaded, and these are the flows of
the definitions that are read at once. -/
theorem loadable_of_runFrom {loaded : Table Flow}
    (returns : runFrom b (loadAll source known) = (.ok loaded, c)) :
    Loadable b known ∧ loaded = flows source known (readable b.database) := by
  by_cases loadable : Loadable b known
  · obtain ⟨e, gives⟩ := runFrom_loadAll source known loadable.answers loadable.run
    rw [gives] at returns
    cases returns
    exact ⟨loadable, rfl⟩
  · obtain ⟨fault, e, failed⟩ := runFrom_loadAll_of_not_loadable source loadable
    rw [failed] at returns
    cases returns

/-- Whether the definitions can be loaded depends on the ones that are read, and on the codes that
they may switch to. -/
theorem Loadable.congr (loadable : Loadable b known) (answers : c.Answers)
    (listed : ∀ d, d ∈ readable c.database → d ∈ readable b.database)
    (same : ∀ code, code ∈ within other (readable c.database) →
      code ∈ within known (readable b.database)) : Loadable c other where
  answers := answers
  run d hd fault exceeds := by
    obtain ⟨mem, isActive⟩ := List.mem_filter.1 hd
    exact loadable.run d (List.mem_filter.2 ⟨listed d mem, isActive⟩) fault
      (exceeds.mono (MaySwitch.of_subset fun code known => .inl (same code known)))

/-- The definitions can be loaded in any other order of their documents. -/
theorem Loadable.of_perm (loadable : Loadable b known)
    (few : b.database.flows.length ≤ Database.readLimit) (answers : c.Answers)
    (perm : c.database.flows.Perm b.database.flows) : Loadable c known := by
  have readable_ : (readable c.database).Perm (readable b.database) := by
    rw [readable_of_few few, readable_of_few (perm.length_eq.trans_le few)]
    exact perm.filterMap _
  exact loadable.congr answers (fun _ => readable_.mem_iff.1)
    fun code => (mem_within_of_perm readable_ code).1

end Dialogue.Definition
