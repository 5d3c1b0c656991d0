import Dialogue.Definition.Build

/-!
# The transition that is taken

Of the transitions that pass a test, one of lowest order comes first, and of those the one that is
written first. Sorting by the order puts this one in front, because it leaves transitions of one
order as they are written. An answer takes the foremost of the transitions that name it.

Main statements: `find?_sortedTransitions_iff`, which transition is found; `decide_of_prefers`,
where it leads.
-/

namespace Dialogue.Definition

/-- The transition names an answer by its own condition. -/
def Transition.names (t : Transition) (answer : String) : Bool :=
  !t.isWildcard && t.condition = answer

/-- Of the transitions that name an answer none has a lower order, and none of the same order is
written before. -/
structure Step.Prefers (s : Step) (answer : String) (t : Transition) : Prop where
  lowest : ∀ u ∈ s.transitions, u.names answer = true → t.order ≤ u.order
  first : s.transitions.find? (fun u => u.names answer && u.order = t.order) = some t

/-- Of the transitions that pass a test this one comes first, by the order and then by the place at
which it is written. -/
def Step.Foremost (s : Step) (test : Transition → Bool) (t : Transition) : Prop :=
  ∃ i : Nat, s.transitions[i]? = some t ∧ test t = true ∧
    ∀ (j : Nat) (u : Transition), s.transitions[j]? = some u → test u = true →
      t.order < u.order ∨ t.order = u.order ∧ i ≤ j

namespace Step

variable {s : Step} {test : Transition → Bool} {answer : String} {t : Transition}

theorem trans_order (t u v : Transition) :
    Decidable.decide (t.order ≤ u.order) → Decidable.decide (u.order ≤ v.order) →
      Decidable.decide (t.order ≤ v.order) := by
  simp only [decide_eq_true_eq]
  exact Int.le_trans

theorem total_order (t u : Transition) :
    (Decidable.decide (t.order ≤ u.order) || Decidable.decide (u.order ≤ t.order)) = true := by
  simp only [Bool.or_eq_true, decide_eq_true_eq]
  exact Int.le_total _ _

theorem pairwise_sortedTransitions (s : Step) :
    s.sortedTransitions.Pairwise fun t u => t.order ≤ u.order := by
  have sorted := List.pairwise_mergeSort trans_order total_order s.transitions
  exact sorted.imp fun le => by simpa using le

theorem mem_sortedTransitions : t ∈ s.sortedTransitions ↔ t ∈ s.transitions :=
  s.sortedTransitions_perm.mem_iff

/-- **Sorting is stable**: among transitions of one order the same is found first. -/
theorem find?_sortedTransitions_of_order {q : Transition → Bool} {k : Int}
    (order : ∀ t, q t = true → t.order = k) :
    s.sortedTransitions.find? q = s.transitions.find? q := by
  have level : (s.transitions.filter q).Pairwise
      fun t u => Decidable.decide (t.order ≤ u.order) = true := by
    refine List.pairwise_of_forall_mem_list fun t ht u hu => ?_
    rw [order t (List.mem_filter.1 ht).2, order u (List.mem_filter.1 hu).2]
    exact decide_eq_true (Int.le_refl k)
  have kept : (s.transitions.filter q).Sublist s.sortedTransitions :=
    List.sublist_mergeSort trans_order total_order level List.filter_sublist
  have same : s.transitions.filter q = s.sortedTransitions.filter q := by
    have both := kept.filter q
    rw [List.filter_filter, List.filter_congr fun t _ => Bool.and_self (q t)] at both
    exact both.eq_of_length (s.sortedTransitions_perm.filter q).length_eq.symm
  rw [← List.head?_filter, ← List.head?_filter, same]

/-! ## The foremost of those that pass -/

/-- The foremost has the lowest order and is the first of this order. -/
theorem foremost_iff :
    s.Foremost test t ↔ (∀ u ∈ s.transitions, test u = true → t.order ≤ u.order) ∧
      s.transitions.find? (fun u => test u && u.order = t.order) = some t := by
  rw [List.find?_eq_some_iff_getElem]
  constructor
  · rintro ⟨i, at_, passes, best⟩
    obtain ⟨inside, rfl⟩ := List.getElem?_eq_some_iff.1 at_
    refine ⟨fun u mem passesU => ?_, by simp [passes], i, inside, rfl, fun j before => ?_⟩
    · obtain ⟨j, atJ⟩ := List.mem_iff_getElem?.1 mem
      rcases best j u atJ passesU with less | ⟨same, -⟩
      · exact Int.le_of_lt less
      · exact Int.le_of_eq same
    · have notBest := best j s.transitions[j] (List.getElem?_eq_getElem _)
      grind
  · rintro ⟨lowest, both, i, inside, rfl, earlier⟩
    rw [Bool.and_eq_true] at both
    refine ⟨i, List.getElem?_eq_getElem _, both.1, fun j u atJ passesU => ?_⟩
    obtain ⟨insideJ, rfl⟩ := List.getElem?_eq_some_iff.1 atJ
    rcases Int.lt_or_eq_of_le (lowest _ (List.getElem_mem insideJ) passesU) with less | same
    · exact .inl less
    · refine .inr ⟨same, Nat.le_of_not_lt fun before => ?_⟩
      have other := earlier j before
      simp [passesU, same] at other

theorem foremost_of_find? (found : s.sortedTransitions.find? test = some t) :
    s.Foremost test t := by
  obtain ⟨passes, before, after, split, earlier⟩ := List.find?_eq_some_iff_append.1 found
  have sorted := s.pairwise_sortedTransitions
  rw [split] at sorted
  refine foremost_iff.2 ⟨fun u mem passesU => ?_, ?_⟩
  · rw [← mem_sortedTransitions, split, List.mem_append, List.mem_cons] at mem
    rcases mem with mem | rfl | mem
    · exact absurd passesU (by simpa using earlier u mem)
    · exact Int.le_refl _
    · exact List.rel_of_pairwise_cons (List.pairwise_append.1 sorted).2.1 mem
  · rw [← find?_sortedTransitions_of_order (k := t.order) (by simp), List.find?_eq_some_iff_append]
    refine ⟨by simp [passes], before, after, split, fun u mem => ?_⟩
    have other : test u = false := by simpa using earlier u mem
    rw [other, Bool.false_and, Bool.not_false]

/-- Only one transition is the foremost. -/
theorem Foremost.unique {u : Transition} (ht : s.Foremost test t) (hu : s.Foremost test u) :
    t = u := by
  obtain ⟨i, atI, passesT, bestT⟩ := ht
  obtain ⟨j, atJ, passesU, bestU⟩ := hu
  have forward := bestT j u atJ passesU
  have backward := bestU i t atI passesT
  obtain rfl : i = j := by omega
  rw [atI] at atJ
  exact Option.some.inj atJ

/-- Where a transition passes, one is the foremost. -/
theorem exists_find?_of_passes (passes : ∃ u ∈ s.transitions, test u = true) :
    ∃ t, s.sortedTransitions.find? test = some t := by
  obtain ⟨u, mem, passes⟩ := passes
  rw [← Option.isSome_iff_exists, List.find?_isSome]
  exact ⟨u, mem_sortedTransitions.2 mem, passes⟩

/-- **The transition that is found** among the sorted ones is the foremost that passes. -/
theorem find?_sortedTransitions_iff :
    s.sortedTransitions.find? test = some t ↔ s.Foremost test t := by
  refine ⟨foremost_of_find?, fun foremost => ?_⟩
  have ⟨i, at_, passes, _⟩ := foremost
  obtain ⟨u, found⟩ := exists_find?_of_passes ⟨t, List.mem_of_getElem? at_, passes⟩
  rw [found, foremost.unique (foremost_of_find? found)]

theorem find?_sortedTransitions_eq_none_iff :
    s.sortedTransitions.find? test = none ↔ ∀ t ∈ s.transitions, test t = false := by
  simp [List.find?_eq_none, mem_sortedTransitions]

/-! ## The foremost that names the answer -/

/-- The preferred transition is the foremost of those that name the answer. -/
theorem prefers_iff : s.Prefers answer t ↔ s.Foremost (·.names answer) t := by
  rw [foremost_iff]
  exact ⟨fun prefers => ⟨prefers.lowest, prefers.first⟩, fun both => ⟨both.1, both.2⟩⟩

/-- Where a transition names the answer, one is preferred. -/
theorem exists_prefers (named : ∃ u ∈ s.transitions, u.names answer = true) :
    ∃ t, s.Prefers answer t := by
  obtain ⟨t, found⟩ : ∃ t, s.sortedTransitions.find? (·.names answer) = some t :=
    exists_find?_of_passes named
  exact ⟨t, prefers_iff.2 (foremost_of_find? found)⟩

/-- **An answer leads where the preferred transition leads.** -/
theorem decide_of_prefers (prefers : s.Prefers answer t) :
    decide s.sortedTransitions s.defaultNext answer = t.target s.defaultNext := by
  have found := find?_sortedTransitions_iff.2 (prefers_iff.1 prefers)
  unfold Transition.names at found
  unfold Definition.decide
  rw [found]

end Step

end Dialogue.Definition
