import Mathlib
import Dialogue.Definition.Stored
import Dialogue.Proofs.Definition.Accepted
import Dialogue.Proofs.Definition.Named
import Dialogue.Proofs.Effect

/-!
# Loading definitions together

Definitions are loaded one after another, and each is checked first. A definition with a problem is
left out and costs nothing but its own flow. A pattern that exceeds the engine is no problem that
the check reports: it stops the check, and with it the loading of all definitions.

Main statements: `runFrom_loadEach`, what is loaded when no check stops, and
`loadActive_returns_iff`, loading returns exactly when no active definition has such a pattern.
-/

namespace Dialogue.Definition

open Effect

variable {source : OptionSource} {known : List String}

/-! ## One definition -/

/-- The flow of a definition that passes the check; none of any other. -/
def flow? (d : Definition) (source : OptionSource) (known : Known) : Option Flow :=
  match d.check known with
  | .ok none => (d.toFlow source).toOption
  | _ => none

theorem flow?_eq_some_iff {d : Definition} {known : Known} {flow : Flow} :
    d.flow? source known = some flow ↔
      d.check known = .ok none ∧ d.toFlow source = .ok flow := by
  unfold flow?
  split
  · next accepted =>
    rw [accepted]
    cases d.toFlow source <;> simp [Except.toOption]
  · next refused =>
    simp only [reduceCtorEq, false_iff, not_and]
    exact fun accepted => absurd accepted refused

theorem exists_flow?_of_accepted (source : OptionSource) {d : Definition} {known : Known}
    (accepted : d.check known = .ok none) : ∃ flow, d.flow? source known = some flow := by
  have ok := check_eq_none_iff.1 accepted
  obtain ⟨first, begins⟩ := ok.begins
  obtain ⟨flow, made, -⟩ := toFlow_eq source begins ok.timed
  exact ⟨flow, flow?_eq_some_iff.2 ⟨accepted, made⟩⟩

/-- A definition whose check does not stop is loaded, or left out. -/
theorem runFrom_load (source : OptionSource) {d : Definition} {known : Known} (b : Backend)
    (runs : ∀ fault, ¬ d.Exceeds known fault) :
    ∃ c, runFrom b (d.load source known) = (.ok (d.flow? source known), c) := by
  unfold load
  rcases exceeds_or_checked d known with ⟨fault, exceeds, -⟩ | ⟨problem, refused⟩ | accepted
  · exact absurd exceeds (runs fault)
  · have left : d.toFlow? source known = .ok none := by
      simp only [toFlow?, refused]
      rfl
    have none_ : d.flow? source known = none := by simp only [flow?, refused]
    rw [left, none_]
    exact ⟨_, rfl⟩
  · obtain ⟨flow, made⟩ := exists_flow?_of_accepted source accepted
    have built : d.toFlow? source known = .ok (some flow) := by
      simp only [toFlow?, accepted, (flow?_eq_some_iff.1 made).2]
      rfl
    rw [built, made]
    exact ⟨_, rfl⟩

/-- A definition whose check stops cannot be loaded. -/
theorem runFrom_load_of_exceeds (source : OptionSource) {d : Definition} {known : Known}
    (b : Backend) {fault : Regex.Fault} (exceeds : d.Exceeds known fault) :
    runFrom b (d.load source known) = (.error (.badPattern fault), b) := by
  have stops : d.check known = .error (.badPattern fault) :=
    (check_eq_error_iff _).2 ⟨fault, rfl, exceeds⟩
  have failed : d.toFlow? source known = .error (.badPattern fault) := by
    simp only [toFlow?, stops]
    rfl
  unfold load
  rw [failed]
  rfl

/-! ## Several definitions -/

/-- A table of flows with the flow of a definition, if there is one, under its code. -/
def put (source : OptionSource) (known : List String) (flows : Table Flow) (d : Definition) :
    Table Flow :=
  match d.flow? source (some known) with
  | some flow => flows.set d.code flow
  | none => flows

/-- **What is loaded** when no check stops: the flows of the definitions that pass, in turn. -/
theorem runFrom_loadEach (source : OptionSource) (definitions : List Definition)
    (flows : Table Flow) (b : Backend)
    (run : ∀ d ∈ definitions, ∀ fault, ¬ d.Exceeds (some known) fault) :
    ∃ c, runFrom b (loadEach source known definitions flows) =
      (.ok (definitions.foldl (put source known) flows), c) := by
  induction definitions generalizing flows b with
  | nil => exact ⟨b, rfl⟩
  | cons d rest ih =>
    obtain ⟨c, loaded⟩ := runFrom_load source b (run d List.mem_cons_self)
    rw [loadEach, runFrom_bind_of_ok loaded, List.foldl_cons]
    have rest_ := fun flows => ih flows c fun e he => run e (List.mem_cons_of_mem _ he)
    unfold put at rest_ ⊢
    cases d.flow? source (some known) with
    | none => exact rest_ flows
    | some flow => exact rest_ (flows.set d.code flow)

/-- One check that stops ends the loading of all. -/
theorem runFrom_loadEach_of_exceeds (source : OptionSource) {definitions : List Definition}
    {d : Definition} {fault : Regex.Fault} (hd : d ∈ definitions)
    (exceeds : d.Exceeds (some known) fault) (flows : Table Flow) (b : Backend) :
    ∃ fault c, runFrom b (loadEach source known definitions flows) =
      (.error (.badPattern fault), c) := by
  induction definitions generalizing flows b with
  | nil => simp at hd
  | cons e rest ih =>
    rw [loadEach]
    -- An earlier definition may stop the loading first, with a fault of its own.
    by_cases first : ∃ fault, e.Exceeds (some known) fault
    · obtain ⟨fault, exceeds⟩ := first
      exact ⟨fault, b, runFrom_bind_of_error (runFrom_load_of_exceeds source b exceeds)⟩
    · obtain ⟨c, loaded⟩ := runFrom_load source b fun fault h => first ⟨fault, h⟩
      rw [runFrom_bind_of_ok loaded]
      rcases List.mem_cons.1 hd with rfl | hd
      · exact absurd ⟨fault, exceeds⟩ first
      · cases e.flow? source (some known) with
        | none => exact ih hd flows c
        | some flow => exact ih hd (flows.set e.code flow) c

/-! ## The table of flows -/

theorem mem_put {flows : Table Flow} {d : Definition} {entry : String × Flow}
    (h : entry ∈ put source known flows d) :
    entry ∈ flows ∨ entry.1 = d.code ∧ d.flow? source (some known) = some entry.2 := by
  unfold put at h
  split at h
  · next flow made =>
    rcases Table.mem_of_mem_set h with rfl | h
    · exact .inr ⟨rfl, made⟩
    · exact .inl h
  · exact .inl h

/-- Every loaded flow is the flow of one of the definitions. -/
theorem mem_foldl_put {definitions : List Definition} {flows : Table Flow}
    {entry : String × Flow} (h : entry ∈ definitions.foldl (put source known) flows) :
    entry ∈ flows ∨
      ∃ d ∈ definitions, entry.1 = d.code ∧ d.flow? source (some known) = some entry.2 := by
  induction definitions generalizing flows with
  | nil => exact .inl h
  | cons d rest ih =>
    rcases ih h with h | ⟨e, he, found⟩
    · rcases mem_put h with h | found
      · exact .inl h
      · exact .inr ⟨d, List.mem_cons_self, found⟩
    · exact .inr ⟨e, List.mem_cons_of_mem _ he, found⟩

theorem get?_put_of_ne (flows : Table Flow) {d : Definition} {code : String} (h : d.code ≠ code) :
    (put source known flows d).get? code = flows.get? code := by
  unfold put
  split
  · rw [Table.get?_set_of_ne _ _ h]
  · rfl

theorem get?_foldl_put_of_notMem {definitions : List Definition} (flows : Table Flow)
    {code : String} (h : code ∉ definitions.map Definition.code) :
    (definitions.foldl (put source known) flows).get? code = flows.get? code := by
  induction definitions generalizing flows with
  | nil => rfl
  | cons d rest ih =>
    simp only [List.map_cons, List.mem_cons, not_or] at h
    rw [List.foldl_cons, ih _ h.2, get?_put_of_ne _ fun he => h.1 he.symm]

/-- Where codes differ, every definition that passes has its flow. -/
theorem get?_foldl_put {definitions : List Definition} (flows : Table Flow)
    (distinct : (definitions.map Definition.code).Nodup) {d : Definition} (hd : d ∈ definitions)
    {flow : Flow} (made : d.flow? source (some known) = some flow) :
    (definitions.foldl (put source known) flows).get? d.code = some flow := by
  induction definitions generalizing flows with
  | nil => simp at hd
  | cons e rest ih =>
    rw [List.map_cons, List.nodup_cons] at distinct
    rw [List.foldl_cons]
    rcases List.mem_cons.1 hd with rfl | hd
    · rw [get?_foldl_put_of_notMem _ distinct.1]
      unfold put
      rw [made, Table.get?_set_self]
    · exact ih _ distinct.2 hd

/-! ## Active definitions -/

/-- The definitions that are in use. -/
def active (definitions : List Definition) : List Definition :=
  definitions.filter (·.isActive)

/-- The codes that each of the definitions in use may switch to. -/
def within (known : List String) (definitions : List Definition) : List String :=
  known ++ (active definitions).map Definition.code

theorem loadActive_eq (source : OptionSource) (known : List String)
    (definitions : List Definition) :
    loadActive source known definitions =
      loadEach source (within known definitions) (active definitions) [] := rfl

/-- **Loading is fault-tolerant up to the engine.** Loading returns, without the flows of the
definitions that have a problem and, where codes differ, with the flow of every other active one,
exactly when no active definition stops its check with a pattern that exceeds the engine. One such
definition keeps all the others from being loaded. -/
theorem loadActive_returns_iff (source : OptionSource) (known : List String)
    (definitions : List Definition) (b : Backend) :
    ((∃ flows c, runFrom b (loadActive source known definitions) = (.ok flows, c) ∧
        (∀ entry ∈ flows, ∃ d ∈ active definitions, entry.1 = d.code ∧
          d.check (some (within known definitions)) = .ok none ∧
          d.toFlow source = .ok entry.2) ∧
        (((active definitions).map Definition.code).Nodup → ∀ d ∈ active definitions,
          (∀ problem, d.check (some (within known definitions)) ≠ .ok (some problem)) →
            ∃ flow, d.toFlow source = .ok flow ∧ flows.get? d.code = some flow)) ↔
      ∀ d ∈ active definitions, ∀ fault, ¬ d.Exceeds (some (within known definitions)) fault) ∧
    ∀ d ∈ active definitions, ∀ fault, d.Exceeds (some (within known definitions)) fault →
      ∃ fault c, runFrom b (loadActive source known definitions) =
        (.error (.badPattern fault), c) := by
  rw [loadActive_eq]
  refine ⟨⟨?_, ?_⟩, ?_⟩
  · rintro ⟨flows, c, returns, -⟩ d hd fault exceeds
    obtain ⟨_, _, stops⟩ := runFrom_loadEach_of_exceeds source hd exceeds [] b
    rw [stops] at returns
    simp at returns
  · intro run
    obtain ⟨c, loaded⟩ := runFrom_loadEach source (active definitions) [] b run
    refine ⟨_, c, loaded, ?_, ?_⟩
    · intro entry mem
      rcases mem_foldl_put mem with mem | ⟨d, hd, code, made⟩
      · simp at mem
      · obtain ⟨accepted, built⟩ := flow?_eq_some_iff.1 made
        exact ⟨d, hd, code, accepted, built⟩
    · intro distinct d hd fine
      rcases exceeds_or_checked d (some (within known definitions)) with
        ⟨fault, exceeds, -⟩ | ⟨problem, refused⟩ | accepted
      · exact absurd exceeds (run d hd fault)
      · exact absurd refused (fine problem)
      · obtain ⟨flow, made⟩ := exists_flow?_of_accepted source accepted
        exact ⟨flow, (flow?_eq_some_iff.1 made).2, get?_foldl_put [] distinct hd made⟩
  · intro d hd fault exceeds
    exact runFrom_loadEach_of_exceeds source hd exceeds [] b

/-- A definition that passes the check. -/
def greeting : Definition := plain "greeting" [Step.plain "hello" "Hello"]

/-- A definition with a pattern that repeats more often than the engine can count. -/
def excessive : Definition :=
  plain "excessive" [{ Step.plain "ask" "Which?" with pattern := some "x{4294967295}" }]

set_option maxRecDepth 20000 in
theorem loadActive_greeting_excessive :
    greeting.check (some (within [] [greeting, excessive])) = .ok none ∧
      ∀ (source : OptionSource) (b : Backend), ¬ ∃ flows c,
        runFrom b (loadActive source [] [greeting, excessive]) = (.ok flows, c) := by
  have stops : excessive.check (some (within [] [greeting, excessive])) =
      .error (.badPattern .repetitionTooLarge) := by cbv
  refine ⟨by cbv, ?_⟩
  rintro source b ⟨flows, c, returns⟩
  obtain ⟨fault, -, exceeds⟩ := (check_eq_error_iff _).1 stops
  have last : excessive ∈ active [greeting, excessive] := List.mem_filter.2 ⟨by simp, rfl⟩
  obtain ⟨_, _, fails⟩ := runFrom_loadEach_of_exceeds source last exceeds [] b
  rw [loadActive_eq] at returns
  exact absurd (returns.symm.trans fails) (by simp)

end Dialogue.Definition
