import Dialogue.Definition.Build

/-!
# Accepted definitions

The check of a definition names the first problem that it finds. Here the absence of problems is
said without the order in which they are looked for: a definition is *accepted* when its code is not
blank, it has time and steps, its codes differ, it begins somewhere, its patterns can be compiled,
and each of its steps is *fit*.

Main statements: `check_eq_none_iff`, the check finds nothing exactly in accepted definitions;
`check_eq_error_iff`, it stops exactly at a pattern that exceeds the engine; and
`Step.Fit.leads_rule`, the rule of a fit step leads to steps of the definition and to flows that it
may switch to, whatever the answer.
-/

namespace Dialogue

/-- An outcome that goes on to a step or switches to a flow does so within the given steps and
flows. -/
def Outcome.Within (isStep isFlow : String → Prop) : Outcome → Prop
  | .next step => isStep step
  | .switchTo flow => isFlow flow
  | .transfer | .complete => True

/-- The fault lies in the text of the pattern and not in the limits of the engine. -/
def Regex.Fault.isMalformed : Regex.Fault → Bool
  | .malformed _ _ _ => true
  | _ => false

namespace Definition

/-- A flow that a definition may switch to: a known one or its own, and any named one when nothing
is known. -/
def MaySwitch (d : Definition) (known : Known) (flow : String) : Prop :=
  flow ≠ "" ∧ ∀ codes, known = some codes → flow ∈ codes ∨ flow = d.code

/-- An outcome leads to a step of a definition or to a flow that it may switch to. -/
def Leads (d : Definition) (known : Known) : Outcome → Prop :=
  Outcome.Within (fun step => d.hasStep step = true) (d.MaySwitch known)

/-- Where a transition leads by itself, without the default of its step. -/
def Transition.ownTarget (t : Transition) : Outcome :=
  match present? t.switchTo with
  | some flow => .switchTo flow
  | none => Outcome.ofText? t.nextStep

/-- A step without problems, its pattern apart. -/
structure Step.Fit (d : Definition) (known : Known) (s : Step) : Prop where
  source : ∀ name, present? s.source = some name → s.kind ≠ .text
  choices : ∀ c ∈ s.choices, c.id ≠ "" ∧ c.title ≠ ""
  switch : ∀ flow, present? s.switchTo = some flow → d.MaySwitch known flow
  fallback : d.Leads known (Outcome.ofText? s.defaultNext)
  transitions : ∀ t ∈ s.transitions, t.condition ≠ "" ∧ d.Leads known t.ownTarget

/-- The pattern of a step, if there is one, can be compiled. -/
def Step.Compiles (s : Step) : Prop :=
  ∀ pattern, present? s.pattern = some pattern → ∃ p, Regex.compile pattern false = .ok p

/-- The definition as a whole is in order, whatever its steps. -/
structure Sound (d : Definition) : Prop where
  named : Text.strip d.code ≠ ""
  timed : 0 < d.minutes
  peopled : d.steps ≠ []
  distinct : (d.steps.map Step.code).Nodup
  begins : ∃ s, d.initial? = some s

/-- A definition without problems. -/
structure Accepted (d : Definition) (known : Known) : Prop extends Sound d where
  compiles : ∀ s ∈ d.steps, s.Compiles
  fit : ∀ s ∈ d.steps, s.Fit d known

variable {d : Definition} {known : Known}

/-! ## Targets -/

theorem present?_eq_some_iff {s : Option String} {text : String} :
    present? s = some text ↔ s = some text ∧ text ≠ "" := by
  unfold present?
  split
  · simp only [reduceCtorEq, Option.some.injEq, ne_eq, false_iff, not_and]
    exact fun h ht => ht h.symm
  · next h =>
    constructor
    · intro hs
      exact ⟨hs, fun ht => h (ht ▸ hs)⟩
    · exact fun hs => hs.1

theorem switchProblem?_eq_none_iff (site : Site) (flow : String) :
    d.switchProblem? known site flow = none ↔ d.MaySwitch known flow := by
  unfold switchProblem? MaySwitch
  by_cases h : flow = ""
  · simp [h]
  · cases known with
    | none => simp [h]
    | some codes =>
      simp only [h, if_false, Bool.or_eq_true, List.contains_eq_mem, decide_eq_true_eq, ne_eq,
        not_false_eq_true, true_and, Option.some.injEq, forall_eq']
      split <;> simp_all

theorem targetProblem?_eq_none_iff (site : Site) (target : Option String) :
    d.targetProblem? known site target = none ↔ d.Leads known (Outcome.ofText? target) := by
  unfold targetProblem? Leads
  cases Outcome.ofText? target with
  | next step => simp [Outcome.Within]
  | switchTo flow => exact switchProblem?_eq_none_iff site flow
  | transfer => simp [Outcome.Within]
  | complete => simp [Outcome.Within]

theorem transitionProblem?_eq_none_iff (s : Step) (t : Transition) :
    d.transitionProblem? known s t = none ↔ t.condition ≠ "" ∧ d.Leads known t.ownTarget := by
  unfold transitionProblem? Transition.ownTarget
  by_cases h : t.condition = ""
  · simp [h]
  · rw [if_neg h]
    cases present? t.switchTo with
    | none => simp only [targetProblem?_eq_none_iff, ne_eq, h, not_false_eq_true, true_and]
    | some flow =>
      simp only [switchProblem?_eq_none_iff, ne_eq, h, not_false_eq_true, true_and]
      rfl

/-! ## Steps -/

theorem sourceProblem?_eq_none_iff (s : Step) :
    sourceProblem? s = none ↔ ∀ name, present? s.source = some name → s.kind ≠ .text := by
  unfold sourceProblem?
  cases present? s.source with
  | none => simp
  | some name => by_cases h : s.kind = .text <;> simp [h]

theorem choiceProblem?_eq_none_iff (s : Step) :
    choiceProblem? s = none ↔ ∀ c ∈ s.choices, c.id ≠ "" ∧ c.title ≠ "" := by
  unfold choiceProblem?
  split
  · next h =>
    simp only [List.any_eq_true, Bool.or_eq_true, decide_eq_true_eq] at h
    obtain ⟨c, hc, empty⟩ := h
    simp only [reduceCtorEq, false_iff]
    intro all
    rcases empty with empty | empty
    · exact (all c hc).1 empty
    · exact (all c hc).2 empty
  · next h =>
    simp only [true_iff]
    intro c hc
    simp only [List.any_eq_true, Bool.or_eq_true, decide_eq_true_eq, not_exists, not_and,
      not_or] at h
    exact h c hc

theorem stepSwitchProblem?_eq_none_iff (s : Step) :
    d.stepSwitchProblem? known s = none ↔
      ∀ flow, present? s.switchTo = some flow → d.MaySwitch known flow := by
  unfold stepSwitchProblem?
  cases present? s.switchTo with
  | none => simp
  | some flow => simp [switchProblem?_eq_none_iff]

theorem stepProblem?_eq_none_iff (s : Step) : d.stepProblem? known s = none ↔ s.Fit d known := by
  unfold stepProblem?
  simp only [Option.or_eq_none_iff, sourceProblem?_eq_none_iff, choiceProblem?_eq_none_iff,
    stepSwitchProblem?_eq_none_iff, targetProblem?_eq_none_iff, List.findSome?_eq_none_iff,
    transitionProblem?_eq_none_iff]
  exact ⟨fun ⟨a, b, c, e, f⟩ => ⟨a, b, c, e, f⟩, fun ⟨a, b, c, e, f⟩ => ⟨a, b, c, e, f⟩⟩

theorem stepPatternProblem?_eq_none_iff (s : Step) :
    stepPatternProblem? s = .ok none ↔ s.Compiles := by
  unfold stepPatternProblem? Step.Compiles
  cases present? s.pattern with
  | none => simp
  | some pattern =>
    simp only [Option.some.injEq, forall_eq']
    unfold patternProblem?
    split
    · next p h => simp [h]
    · next h => simp [h]
    · next h => simp [h]

/-! ## Definitions -/

theorem wholeProblem?_eq_none_iff : d.wholeProblem? = none ↔ d.Sound := by
  unfold wholeProblem?
  constructor
  · intro h
    split at h
    · simp at h
    · next named =>
      split at h
      · simp at h
      · next timed =>
        split at h
        · simp at h
        · next peopled =>
          split at h
          · simp at h
          · next distinct =>
            split at h
            · simp at h
            · next begins =>
              rw [Bool.not_eq_true, Option.isNone_eq_false_iff, Option.isSome_iff_exists] at begins
              exact ⟨named, by omega, peopled, ((repeated?_eq_none_iff _ _).1 distinct).1, begins⟩
  · rintro ⟨named, timed, peopled, distinct, s, begins⟩
    have repeats : repeated? [] (d.steps.map Step.code) = none :=
      (repeated?_eq_none_iff _ _).2 ⟨distinct, by simp⟩
    rw [if_neg named, if_neg (by omega), if_neg peopled, repeats, begins]
    rfl

/-- **Acceptance.** The check finds no problem exactly in accepted definitions. -/
theorem check_eq_none_iff : d.check known = .ok none ↔ d.Accepted known := by
  unfold check
  cases whole : d.wholeProblem? with
  | some problem =>
    simp only [Except.ok.injEq, reduceCtorEq, false_iff]
    intro accepted
    rw [wholeProblem?_eq_none_iff.2 accepted.toSound] at whole
    simp at whole
  | none =>
    simp only [stepsProblem?_eq_none_iff, stepPatternProblem?_eq_none_iff,
      stepProblem?_eq_none_iff]
    constructor
    · intro steps
      exact ⟨wholeProblem?_eq_none_iff.1 whole, fun s hs => (steps s hs).1,
        fun s hs => (steps s hs).2⟩
    · intro accepted s hs
      exact ⟨accepted.compiles s hs, accepted.fit s hs⟩

/-! ## Patterns beyond the engine -/

/-- The pattern of a step is refused, but not for being malformed. -/
def Step.Exceeds (s : Step) (fault : Regex.Fault) : Prop :=
  ∃ pattern, present? s.pattern = some pattern ∧ Regex.compile pattern false = .error fault ∧
    fault.isMalformed = false

/-- The first trouble in a definition is a pattern that is refused, but not for being malformed. -/
def Exceeds (d : Definition) (known : Known) (fault : Regex.Fault) : Prop :=
  d.Sound ∧ ∃ before s after, d.steps = before ++ s :: after ∧
    (∀ r ∈ before, r.Compiles ∧ r.Fit d known) ∧ s.Exceeds fault

theorem patternProblem?_of_error {site : Option Site} {pattern : String} {fault : Regex.Fault}
    (h : Regex.compile pattern false = .error fault) :
    patternProblem? site pattern =
      if fault.isMalformed then .ok (some (.badPattern site pattern fault))
      else .error (.badPattern fault) := by
  unfold patternProblem?
  rw [h]
  cases fault <;> rfl

theorem stepPatternProblem?_eq_error_iff (s : Step) (f : Fault) :
    stepPatternProblem? s = .error f ↔ ∃ fault, f = .badPattern fault ∧ s.Exceeds fault := by
  unfold stepPatternProblem? Step.Exceeds
  cases present? s.pattern with
  | none => simp
  | some pattern =>
    cases compiled : Regex.compile pattern false with
    | ok p => simp [patternProblem?, compiled]
    | error fault =>
      simp only [patternProblem?_of_error compiled]
      cases malformed : fault.isMalformed with
      | true =>
        simp only [if_true, reduceCtorEq, Option.some.injEq, false_iff]
        rintro ⟨_, -, _, rfl, refused, fine⟩
        rw [compiled, Except.error.injEq] at refused
        rw [refused, fine] at malformed
        simp at malformed
      | false =>
        simp only [Bool.false_eq_true, if_false, Except.error.injEq, Option.some.injEq]
        constructor
        · rintro rfl
          exact ⟨fault, rfl, pattern, rfl, compiled, malformed⟩
        · rintro ⟨_, rfl, _, rfl, refused, -⟩
          rw [compiled, Except.error.injEq] at refused
          rw [refused]

theorem stepsProblem?_eq_error_iff (steps : List Step) (f : Fault) :
    d.stepsProblem? known steps = .error f ↔
      ∃ before s after fault, steps = before ++ s :: after ∧
        (∀ r ∈ before, r.Compiles ∧ r.Fit d known) ∧ s.Exceeds fault ∧ f = .badPattern fault := by
  induction steps with
  | nil => simp [stepsProblem?]
  | cons r rest ih =>
    unfold stepsProblem?
    constructor
    · intro stopped
      split at stopped
      · next h =>
        cases stopped
        obtain ⟨fault, rfl, exceeds⟩ := (stepPatternProblem?_eq_error_iff _ _).1 h
        exact ⟨[], r, rest, fault, rfl, by simp, exceeds, rfl⟩
      · simp at stopped
      · next compiles =>
        split at stopped
        · simp at stopped
        · next fit =>
          obtain ⟨before, s, after, fault, rfl, fine, exceeds, rfl⟩ := ih.1 stopped
          refine ⟨r :: before, s, after, fault, rfl, ?_, exceeds, rfl⟩
          intro t ht
          rcases List.mem_cons.1 ht with rfl | ht
          · exact ⟨(stepPatternProblem?_eq_none_iff _).1 compiles,
              (stepProblem?_eq_none_iff _).1 fit⟩
          · exact fine t ht
    · rintro ⟨before, s, after, fault, split, fine, exceeds, rfl⟩
      rcases List.cons_eq_append_iff.1 split with ⟨rfl, split⟩ | ⟨before, rfl, rfl⟩
      · obtain ⟨rfl, rfl⟩ := List.cons.inj split
        rw [(stepPatternProblem?_eq_error_iff r _).2 ⟨fault, rfl, exceeds⟩]
      · obtain ⟨compiles, fit⟩ := fine r List.mem_cons_self
        rw [(stepPatternProblem?_eq_none_iff r).2 compiles, (stepProblem?_eq_none_iff r).2 fit]
        exact ih.2 ⟨before, s, after, fault, rfl,
          fun t ht => fine t (List.mem_cons_of_mem _ ht), exceeds, rfl⟩

/-- **The check stops** exactly at a pattern that exceeds the engine, when nothing before it is a
problem. -/
theorem check_eq_error_iff (f : Fault) :
    d.check known = .error f ↔ ∃ fault, f = .badPattern fault ∧ d.Exceeds known fault := by
  unfold check Exceeds
  cases whole : d.wholeProblem? with
  | some problem =>
    simp only [reduceCtorEq, false_iff, not_exists, not_and]
    intro fault _ sound
    rw [wholeProblem?_eq_none_iff.2 sound] at whole
    simp at whole
  | none =>
    simp only [stepsProblem?_eq_error_iff]
    constructor
    · rintro ⟨before, s, after, fault, split, fine, exceeds, rfl⟩
      exact ⟨fault, rfl, wholeProblem?_eq_none_iff.1 whole, before, s, after, split, fine, exceeds⟩
    · rintro ⟨fault, rfl, -, before, s, after, split, fine, exceeds⟩
      exact ⟨before, s, after, fault, split, fine, exceeds, rfl⟩

theorem exceeds_or_checked (d : Definition) (known : Known) :
    (∃ fault, d.Exceeds known fault ∧ d.check known = .error (.badPattern fault)) ∨
      (∃ problem, d.check known = .ok (some problem)) ∨ d.check known = .ok none := by
  cases checked : d.check known with
  | error f =>
    obtain ⟨fault, rfl, exceeds⟩ := (check_eq_error_iff f).1 checked
    exact .inl ⟨fault, exceeds, rfl⟩
  | ok found =>
    cases found with
    | none => exact .inr (.inr rfl)
    | some problem => exact .inr (.inl ⟨problem, rfl⟩)

/-! ## Rules of fit steps -/

namespace Step.Fit

variable {s : Step}

theorem leads_target (fit : s.Fit d known) {t : Transition} (ht : t ∈ s.transitions) :
    d.Leads known (t.target s.defaultNext) := by
  have own := (fit.transitions t ht).2
  unfold Transition.ownTarget at own
  unfold Transition.target
  cases switch : present? t.switchTo with
  | some flow => rw [switch] at own; exact own
  | none =>
    rw [switch] at own
    cases next : present? t.nextStep with
    | none => exact fit.fallback
    | some step =>
      rw [(present?_eq_some_iff.1 next).1] at own
      exact own

theorem leads_decide (fit : s.Fit d known) (answer : String) :
    d.Leads known (decide s.sortedTransitions s.defaultNext answer) := by
  unfold decide
  have mem {t : Transition} {p : Transition → Bool}
      (found : s.sortedTransitions.find? p = some t) : t ∈ s.transitions :=
    s.sortedTransitions_perm.mem_iff.1 (List.mem_of_find?_eq_some found)
  split
  · next found => exact fit.leads_target (mem found)
  · split
    · next found => exact fit.leads_target (mem found)
    · exact fit.fallback

/-- **The rule of a fit step leads somewhere**, whatever the answer and whatever is known: the
switch and the hand-off of the step, its transitions, and its default alike. -/
theorem leads_rule (fit : s.Fit d known) (answer : String) (data : Fields) :
    d.Leads known (s.rule.resolve answer data) := by
  cases switch : present? s.switchTo with
  | some flow =>
    have rule : s.rule = .fixed (.switchTo flow) := by simp [Step.rule, switch]
    rw [rule]
    exact fit.switch flow switch
  | none =>
    cases hands : s.handsOff with
    | true =>
      have rule : s.rule = .fixed .transfer := by simp [Step.rule, switch, hands]
      rw [rule]
      trivial
    | false =>
      rw [resolve_rule s answer data switch hands]
      exact fit.leads_decide answer

end Step.Fit

/-! ## Plain definitions -/

/-- A text step of which nothing but the code and the text is written. -/
def Step.plain (code body : String) : Step where
  id := none
  code := code
  name := ""
  order := 0
  kind := .text
  expects := .text
  body := body
  header := none
  footer := none
  listLabel := none
  pattern := none
  errorText := none
  saveAs := none
  handsOff := false
  switchTo := none
  source := none
  defaultNext := none
  choices := []
  transitions := []

/-- A definition of which nothing but the code and the steps is written. -/
def plain (code : String) (steps : List Step) : Definition where
  id := none
  code := code
  name := code
  description := none
  isActive := true
  isDefault := false
  initialStep := none
  minutes := 30
  steps := steps
  createdAt := none
  updatedAt := none

/-- A definition that goes on by the answer: to a step, to another flow, or back to its start. -/
def survey : Definition :=
  plain "sales"
    [{ Step.plain "ask" "Which?" with
        transitions := [⟨"1", some "thanks", none, 1⟩, ⟨"2", none, some "main_menu", 2⟩,
          ⟨"*", some "FLOW:sales", none, 3⟩] },
      { Step.plain "thanks" "Thanks" with defaultNext := some "TRANSFER" }]

end Definition

end Dialogue
