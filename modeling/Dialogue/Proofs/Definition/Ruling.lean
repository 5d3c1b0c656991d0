import Mathlib.Data.List.Nodup
import Dialogue.Proofs.Definition.Accepted
import Dialogue.Proofs.Definition.Choosing

/-!
# Where an answer leads

The rule of a step has an order of precedence: the step's own switch, its hand-off, the foremost
transition that names the answer, the foremost wildcard, the default. The rule is built with
shortcuts for a step without transitions and for one with a lone wildcard, and from a sorted list
otherwise. `Step.Resolves` says where an answer leads without either.

Main statement: `resolves_rule`, the rule leads where the order of precedence says, with or without
a shortcut, and in whatever sequence transitions of different orders are written.
-/

namespace Dialogue.Definition

/-- Where an answer leads, by what comes first: the step's own switch, its hand-off, the foremost
transition that names the answer, the foremost wildcard, the default. -/
inductive Step.Resolves (s : Step) (answer : String) : Outcome → Prop where
  | switches {flow : String} (own : present? s.switchTo = some flow) :
    s.Resolves answer (.switchTo flow)
  | handsOff (own : present? s.switchTo = none) (off : s.handsOff = true) :
    s.Resolves answer .transfer
  | named {t : Transition} (own : present? s.switchTo = none) (off : s.handsOff = false)
    (foremost : s.Foremost (·.names answer) t) : s.Resolves answer (t.target s.defaultNext)
  | wildcard {t : Transition} (own : present? s.switchTo = none) (off : s.handsOff = false)
    (unnamed : ∀ u ∈ s.transitions, u.names answer = false)
    (foremost : s.Foremost (·.isWildcard) t) : s.Resolves answer (t.target s.defaultNext)
  | default (own : present? s.switchTo = none) (off : s.handsOff = false)
    (unnamed : ∀ u ∈ s.transitions, u.names answer = false)
    (tame : ∀ u ∈ s.transitions, u.isWildcard = false) :
    s.Resolves answer (Outcome.ofText? s.defaultNext)

namespace Step

variable {s : Step} {answer : String} {t : Transition}

/-! ## The decision by the answer -/

/-- Without a transition that names the answer, the first wildcard decides, or the default. -/
theorem decide_of_unnamed (unnamed : ∀ u ∈ s.transitions, u.names answer = false) :
    decide s.sortedTransitions s.defaultNext answer =
      match s.sortedTransitions.find? (·.isWildcard) with
      | some t => t.target s.defaultNext
      | none => Outcome.ofText? s.defaultNext := by
  have none_ := find?_sortedTransitions_eq_none_iff.2 unnamed
  unfold Transition.names at none_
  unfold Definition.decide
  rewrite [none_]
  rfl

theorem decide_of_wildcard (unnamed : ∀ u ∈ s.transitions, u.names answer = false)
    (foremost : s.Foremost (·.isWildcard) t) :
    decide s.sortedTransitions s.defaultNext answer = t.target s.defaultNext := by
  rw [decide_of_unnamed unnamed, find?_sortedTransitions_iff.2 foremost]

theorem decide_of_tame (unnamed : ∀ u ∈ s.transitions, u.names answer = false)
    (tame : ∀ u ∈ s.transitions, u.isWildcard = false) :
    decide s.sortedTransitions s.defaultNext answer = Outcome.ofText? s.defaultNext := by
  rw [decide_of_unnamed unnamed, find?_sortedTransitions_eq_none_iff.2 tame]

/-- A step that does not go its own way resolves to what the answer decides. -/
theorem resolves_decide (own : present? s.switchTo = none) (off : s.handsOff = false) :
    s.Resolves answer (decide s.sortedTransitions s.defaultNext answer) := by
  by_cases named : ∃ u ∈ s.transitions, u.names answer = true
  · obtain ⟨t, prefers⟩ := exists_prefers named
    rw [decide_of_prefers prefers]
    exact .named own off (prefers_iff.1 prefers)
  · have unnamed : ∀ u ∈ s.transitions, u.names answer = false := by simpa using named
    by_cases wild : ∃ u ∈ s.transitions, u.isWildcard = true
    · obtain ⟨t, found⟩ := exists_find?_of_passes wild
      have foremost := foremost_of_find? found
      rw [decide_of_wildcard unnamed foremost]
      exact .wildcard own off unnamed foremost
    · have tame : ∀ u ∈ s.transitions, u.isWildcard = false := by simpa using wild
      rw [decide_of_tame unnamed tame]
      exact .default own off unnamed tame

/-! ## The rule -/

theorem rule_of_switch {flow : String} (own : present? s.switchTo = some flow) :
    s.rule = .fixed (.switchTo flow) := by
  unfold rule
  rw [own]

theorem rule_of_handsOff (own : present? s.switchTo = none) (off : s.handsOff = true) :
    s.rule = .fixed .transfer := by
  unfold rule
  rw [own]
  simp only [off, if_true]

theorem resolves_resolve (s : Step) (answer : String) (data : Fields) :
    s.Resolves answer (s.rule.resolve answer data) := by
  cases own : present? s.switchTo with
  | some flow =>
    rw [rule_of_switch own]
    exact .switches own
  | none =>
    cases off : s.handsOff with
    | true =>
      rw [rule_of_handsOff own off]
      exact .handsOff own off
    | false =>
      rw [resolve_rule s answer data own off]
      exact resolves_decide own off

theorem resolve_of_resolves {outcome : Outcome} (data : Fields)
    (resolves : s.Resolves answer outcome) : s.rule.resolve answer data = outcome := by
  cases resolves with
  | switches own => rw [rule_of_switch own]; rfl
  | handsOff own off => rw [rule_of_handsOff own off]; rfl
  | named own off foremost =>
    rw [resolve_rule s answer data own off, decide_of_prefers (prefers_iff.2 foremost)]
  | wildcard own off unnamed foremost =>
    rw [resolve_rule s answer data own off, decide_of_wildcard unnamed foremost]
  | default own off unnamed tame =>
    rw [resolve_rule s answer data own off, decide_of_tame unnamed tame]

/-- Transitions of different orders are sorted in one way only. -/
theorem sortedTransitions_of_perm {ts : List Transition} (same : ts.Perm s.transitions)
    (apart : (ts.map (·.order)).Nodup) :
    { s with transitions := ts }.sortedTransitions = s.sortedTransitions := by
  have perm := ({ s with transitions := ts } : Step).sortedTransitions_perm
  refine List.Perm.eq_of_pairwise (fun t u memT memU le ge => ?_)
    (pairwise_sortedTransitions _) s.pairwise_sortedTransitions
    (perm.trans (same.trans s.sortedTransitions_perm.symm))
  have memT : t ∈ ts := perm.mem_iff.1 memT
  have memU : u ∈ ts := same.mem_iff.2 (mem_sortedTransitions.1 memU)
  exact List.inj_on_of_nodup_map apart memT memU (Int.le_antisymm le ge)

/-- **Where an answer leads.** The rule of a step leads where the order of precedence says; a step
that does not go its own way gets the decision over all its transitions, also where the rule is one
of the shortcuts; and transitions of different orders can be written in any sequence. -/
theorem resolves_rule (s : Step) (answer : String) (data : Fields) :
    (∀ outcome, s.rule.resolve answer data = outcome ↔ s.Resolves answer outcome) ∧
      (present? s.switchTo = none → s.handsOff = false →
        s.rule.resolve answer data = decide s.sortedTransitions s.defaultNext answer) ∧
      ∀ ts : List Transition, ts.Perm s.transitions → (ts.map (·.order)).Nodup →
        { s with transitions := ts }.rule = s.rule := by
  refine ⟨fun outcome => ⟨?_, resolve_of_resolves data⟩, resolve_rule s answer data, ?_⟩
  · rintro rfl
    exact resolves_resolve s answer data
  · intro ts same apart
    unfold rule
    rw [sortedTransitions_of_perm same apart]

/-- A step with a condition that stands twice and with two wildcards. -/
def forked : Step :=
  { Step.plain "fork" "Shall we go on?" with
    defaultNext := some "back"
    transitions := [⟨"yes", some "late", none, 3⟩, ⟨"*", none, none, 1⟩,
      ⟨"yes", none, some "menu", 2⟩, ⟨"*", some "wild", none, 4⟩] }

theorem resolves_rule_forked :
    forked.rule.resolve "yes" [] = .switchTo "menu" ∧ forked.rule.resolve "*" [] = .next "back" ∧
      { forked with transitions := forked.transitions.reverse }.rule = forked.rule := by
  refine ⟨((resolves_rule forked "yes" []).1 _).2 ?_, ((resolves_rule forked "*" []).1 _).2 ?_,
    (resolves_rule forked "yes" []).2.2 _ (List.reverse_perm _) (by decide)⟩
  · exact .named (t := ⟨"yes", none, some "menu", 2⟩) rfl rfl
      (foremost_iff.2 (by decide))
  · exact .wildcard (t := ⟨"*", none, none, 1⟩) rfl rfl (by decide)
      (foremost_iff.2 (by decide))

end Step

end Dialogue.Definition
