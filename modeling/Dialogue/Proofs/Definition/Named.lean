import Dialogue.Definition.Build

/-!
# Steps by name

The flow of a definition keeps its steps in one table, each under its id and under its code, and a
later step takes over the names of an earlier one. So a name stands for the last step, in order,
that goes by it: the *bearer* of the name.

Main statements: `get?_stepTable`, the table finds the bearer of a name, and `has_stepTable`, it has
exactly the names of the steps.
-/

namespace Dialogue.Definition

/-- The last step, in order, that goes by a name. -/
def bearer? (d : Definition) (name : String) : Option Step :=
  d.sortedSteps.reverse.find? (·.goesBy name)

/-- No other step goes by the id of a step. -/
def OwnsKey (d : Definition) (s : Step) : Prop := ∀ t ∈ d.steps, t.goesBy s.key = true → t = s

variable {d : Definition} {source : OptionSource}

/-! ## Bearers -/

theorem Step.goesBy_iff (s : Step) (name : String) :
    s.goesBy name = true ↔ s.key = name ∨ s.code = name := by
  unfold goesBy key
  cases present? s.id with
  | none => simp
  | some id => simp [or_comm]

theorem bearer?_mem {name : String} {s : Step} (h : d.bearer? name = some s) :
    s ∈ d.steps ∧ s.goesBy name = true := by
  refine ⟨mem_sortedSteps.1 (List.mem_reverse.1 (List.mem_of_find?_eq_some h)), ?_⟩
  simpa using List.find?_some h

theorem isSome_bearer? (name : String) : (d.bearer? name).isSome = d.hasStep name := by
  rw [Bool.eq_iff_iff, hasStep_iff, bearer?, List.find?_isSome]
  simp only [List.mem_reverse, mem_sortedSteps]

/-- Every step has a bearer of its id, which may be another step. -/
theorem exists_bearer?_key {s : Step} (hs : s ∈ d.steps) : ∃ t, d.bearer? s.key = some t := by
  rw [← Option.isSome_iff_exists, isSome_bearer?, hasStep_iff]
  exact ⟨s, hs, s.goesBy_key⟩

/-- A step that shares its id with no other step bears it. -/
theorem eq_of_bearer?_key {s t : Step} (own : d.OwnsKey s) (h : d.bearer? s.key = some t) :
    t = s := by
  obtain ⟨mem, goes⟩ := bearer?_mem h
  exact own t mem goes

/-! ## The table -/

/-- A table with a step under its id and its code. -/
def Step.enter (source : OptionSource) (table : Table Dialogue.Step) (s : Step) :
    Table Dialogue.Step :=
  (table.set s.key (s.toStep source)).set s.code (s.toStep source)

theorem stepTable_eq_foldl (d : Definition) (source : OptionSource) :
    d.stepTable source = d.sortedSteps.foldl (Step.enter source) [] := rfl

theorem get?_enter (table : Table Dialogue.Step) (s : Step) (name : String) :
    (s.enter source table).get? name =
      if s.goesBy name = true then some (s.toStep source) else table.get? name := by
  unfold Step.enter
  rw [Table.get?_set, Table.get?_set]
  by_cases code : s.code = name
  · rw [if_pos code, if_pos ((s.goesBy_iff name).2 (.inr code))]
  · rw [if_neg code]
    by_cases key : s.key = name
    · rw [if_pos key, if_pos ((s.goesBy_iff name).2 (.inl key))]
    · rw [if_neg key, if_neg fun goes => ((s.goesBy_iff name).1 goes).elim key code]

theorem get?_foldl_enter (steps : List Step) (table : Table Dialogue.Step) (name : String) :
    (steps.foldl (Step.enter source) table).get? name =
      ((steps.reverse.find? (·.goesBy name)).map (Step.toStep · source)).or (table.get? name) := by
  induction steps generalizing table with
  | nil => rfl
  | cons s rest ih =>
    rw [List.foldl_cons, ih, get?_enter, List.reverse_cons, List.find?_append]
    -- A later bearer has taken the name over; else it is this step or an earlier one.
    cases List.find? (fun s => s.goesBy name) rest.reverse with
    | some t => rfl
    | none => by_cases goes : s.goesBy name = true <;> simp [goes]

/-- **A name stands for its bearer** in the flow of a definition. -/
theorem get?_stepTable (d : Definition) (source : OptionSource) (name : String) :
    (d.stepTable source).get? name = (d.bearer? name).map (Step.toStep · source) := by
  rw [stepTable_eq_foldl, get?_foldl_enter, bearer?, Table.get?_nil, Option.or_none]

theorem has_stepTable (d : Definition) (source : OptionSource) (name : String) :
    (d.stepTable source).has name = d.hasStep name := by
  rw [Table.has, get?_stepTable, Option.isSome_map, isSome_bearer?]

theorem mem_foldl_enter {steps : List Step} {table : Table Dialogue.Step}
    {entry : String × Dialogue.Step} (h : entry ∈ steps.foldl (Step.enter source) table) :
    entry ∈ table ∨ ∃ s ∈ steps, entry.2 = s.toStep source := by
  induction steps generalizing table with
  | nil => exact .inl h
  | cons s rest ih =>
    rcases ih h with h | ⟨t, ht, he⟩
    · rcases Table.mem_of_mem_set h with rfl | h
      · exact .inr ⟨s, List.mem_cons_self, rfl⟩
      · rcases Table.mem_of_mem_set h with rfl | h
        · exact .inr ⟨s, List.mem_cons_self, rfl⟩
        · exact .inl h
    · exact .inr ⟨t, List.mem_cons_of_mem _ ht, he⟩

/-- The table holds nothing but the steps of the definition. -/
theorem mem_stepTable {entry : String × Dialogue.Step} (h : entry ∈ d.stepTable source) :
    ∃ s ∈ d.steps, entry.2 = s.toStep source := by
  rcases mem_foldl_enter h with h | ⟨s, hs, he⟩
  · simp at h
  · exact ⟨s, mem_sortedSteps.1 hs, he⟩

/-! ## The flow -/

theorem mem_of_initial? {first : Step} (begins : d.initial? = some first) : first ∈ d.steps := by
  unfold initial? at begins
  split at begins
  · exact (goesBy_of_step? begins).1
  · exact mem_sortedSteps.1 (List.mem_of_head? begins)

/-- The flow of a definition that begins somewhere and has time. -/
theorem toFlow_eq (source : OptionSource) {first : Step} (begins : d.initial? = some first)
    (timed : 0 < d.minutes) :
    ∃ flow, d.toFlow source = .ok flow ∧ flow.steps = d.stepTable source ∧
      flow.initial = first.key := by
  have has : (d.stepTable source).has first.key = true := by
    rw [has_stepTable, hasStep_iff]
    exact ⟨first, mem_of_initial? begins, first.goesBy_key⟩
  unfold toFlow
  rw [begins]
  simp only [Flow.make, has, timed, dite_true]
  exact ⟨_, rfl, rfl, rfl⟩

end Dialogue.Definition
