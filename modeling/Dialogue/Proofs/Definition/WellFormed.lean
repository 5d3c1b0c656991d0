import Mathlib.Data.List.Perm.Basic
import Dialogue.Proofs.Definition.Shelf

/-!
# Well-formed definitions

What makes a definition fit to run, said of the fields as they are written: nothing of it depends on
the order in which the check looks, nor on the order of steps, options and transitions. A target is
read before it is judged, so that one of the reserved texts is never the name of a step.

Main statements: `wellFormed_iff_accepted`, these are the accepted definitions;
`wellFormed_of_reorders`, order does not matter; and `check_eq_none_iff_wellFormed`.
-/

namespace Dialogue

theorem Text.forall_mem_dropWhile_iff (p : Char → Bool) (cs : List Char) :
    (∀ c ∈ cs.dropWhile p, p c = true) ↔ ∀ c ∈ cs, p c = true := by
  induction cs with
  | nil => simp
  | cons c rest ih =>
    by_cases first : p c = true
    · simp [first, ih]
    · simp [first]

theorem Text.trimChars_eq_nil_iff (p : Char → Bool) (cs : List Char) :
    Text.trimChars p cs = [] ↔ ∀ c ∈ cs, p c = true := by
  rw [← Text.forall_mem_dropWhile_iff]
  simp [Text.trimChars]

/-- Nothing is left of a text exactly when it consists of blanks. -/
theorem Text.strip_eq_empty_iff (s : String) :
    Text.strip s = "" ↔ ∀ c ∈ s.toList, Text.isBlank c = true := by
  rw [← String.toList_inj, Text.toList_strip, ← Text.trimChars_eq_nil_iff]
  rfl

namespace Definition

/-! ## What is written -/

/-- A step is named by its code, and by its id if it has one. -/
def Step.IsNamed (s : Step) (name : String) : Prop := s.code = name ∨ s.id = some name ∧ name ≠ ""

/-- Where a definition may lead: to its end, to a person, to one of its steps, or to a flow that has
a name and is its own or a known one. When nothing is known, any flow may be. -/
def MayReach (d : Definition) (known : Known) : Outcome → Prop
  | .complete | .transfer => True
  | .next name => ∃ s ∈ d.steps, s.IsNamed name
  | .switchTo flow => flow ≠ "" ∧ (flow = d.code ∨ ∀ codes, known = some codes → flow ∈ codes)

/-- Where a step is written to lead: by its own switch, by default, or by one of its transitions,
whose switch counts before its next step. -/
inductive Step.Targets (s : Step) : Outcome → Prop
  | switch {flow : String} (written : s.switchTo = some flow) (named : flow ≠ "") :
      Targets s (.switchTo flow)
  | fallback : Targets s (Outcome.ofText? s.defaultNext)
  | redirect {t : Transition} {flow : String} (mem : t ∈ s.transitions)
      (written : t.switchTo = some flow) (named : flow ≠ "") : Targets s (.switchTo flow)
  | transition {t : Transition} (mem : t ∈ s.transitions)
      (unset : t.switchTo = none ∨ t.switchTo = some "") : Targets s (Outcome.ofText? t.nextStep)

/-- A definition that is fit to run next to some known flows. -/
structure WellFormed (d : Definition) (known : Known) : Prop where
  code : ∃ c ∈ d.code.toList, Text.isBlank c = false
  timeout : 0 < d.minutes
  steps : d.steps ≠ []
  codes : d.steps.Pairwise fun s t => s.code ≠ t.code
  initial : ∀ name, d.initialStep = some name → name ≠ "" → ∃ s ∈ d.steps, s.IsNamed name
  patterns : ∀ s ∈ d.steps, ∀ pattern, s.pattern = some pattern → pattern ≠ "" →
    ∃ compiled, Regex.compile pattern false = .ok compiled
  sources : ∀ s ∈ d.steps, s.kind = .text → s.source = none ∨ s.source = some ""
  options : ∀ s ∈ d.steps, ∀ c ∈ s.choices, c.id ≠ "" ∧ c.title ≠ ""
  conditions : ∀ s ∈ d.steps, ∀ t ∈ s.transitions, t.condition ≠ ""
  targets : ∀ s ∈ d.steps, ∀ outcome, s.Targets outcome → d.MayReach known outcome

variable {d e : Definition} {known : Known}

/-! ## Well-formed definitions are the accepted ones -/

theorem present?_eq_none_iff {text? : Option String} :
    present? text? = none ↔ text? = none ∨ text? = some "" := by
  unfold present?
  split
  · simp
  · next written =>
    constructor
    · exact .inl
    · intro either
      exact either.resolve_right written

theorem Step.goesBy_iff_isNamed (s : Step) (name : String) :
    s.goesBy name = true ↔ s.IsNamed name := by
  simp [Step.goesBy, Step.IsNamed, present?_eq_some_iff]

theorem hasStep_iff_isNamed (d : Definition) (name : String) :
    d.hasStep name = true ↔ ∃ s ∈ d.steps, s.IsNamed name := by
  simp only [hasStep_iff, Step.goesBy_iff_isNamed]

theorem mayReach_iff_leads (outcome : Outcome) :
    d.MayReach known outcome ↔ d.Leads known outcome := by
  cases outcome with
  | next name => exact (hasStep_iff_isNamed d name).symm
  | switchTo flow =>
    show _ ∧ _ ↔ _ ∧ _
    by_cases own : flow = d.code <;> simp [own]
  | transfer => exact Iff.rfl
  | complete => exact Iff.rfl

/-- A definition begins somewhere when its initial step, if one is written, is one of its steps. -/
theorem begins_iff (peopled : d.steps ≠ []) :
    (∃ s, d.initial? = some s) ↔
      ∀ name, d.initialStep = some name → name ≠ "" → ∃ s ∈ d.steps, s.IsNamed name := by
  unfold initial?
  cases written : present? d.initialStep with
  | some name =>
    obtain ⟨same, named⟩ := present?_eq_some_iff.1 written
    rw [same, ← Option.isSome_iff_exists]
    show d.hasStep name = true ↔ _
    rw [hasStep_iff_isNamed]
    constructor
    · intro found other same' _
      cases same'
      exact found
    · intro names
      exact names name rfl named
  | none =>
    have first : ∃ s, d.sortedSteps.head? = some s := by
      rw [← Option.isSome_iff_exists, List.isSome_head?]
      intro none_
      have perm := d.sortedSteps_perm
      rw [none_] at perm
      exact peopled (List.nil_perm.1 perm)
    refine iff_of_true first ?_
    intro name same named
    rcases present?_eq_none_iff.1 written with unset | empty
    · rw [unset] at same
      cases same
    · rw [empty] at same
      cases same
      exact absurd rfl named

theorem Step.Fit.mayReach {s : Step} (fit : s.Fit d known) {outcome : Outcome}
    (target : s.Targets outcome) : d.MayReach known outcome := by
  rw [mayReach_iff_leads]
  cases target with
  | switch written named => exact fit.switch _ (present?_eq_some_iff.2 ⟨written, named⟩)
  | fallback => exact fit.fallback
  | @redirect t flow mem written named =>
    have own := (fit.transitions t mem).2
    unfold Transition.ownTarget at own
    rw [present?_eq_some_iff.2 ⟨written, named⟩] at own
    exact own
  | @transition t mem unset =>
    have own := (fit.transitions t mem).2
    unfold Transition.ownTarget at own
    rw [present?_eq_none_iff.2 unset] at own
    exact own

theorem Step.targets_ownTarget {s : Step} {t : Transition} (mem : t ∈ s.transitions) :
    s.Targets t.ownTarget := by
  unfold Transition.ownTarget
  cases set_ : present? t.switchTo with
  | some flow =>
    obtain ⟨written, named⟩ := present?_eq_some_iff.1 set_
    exact .redirect mem written named
  | none => exact .transition mem (present?_eq_none_iff.1 set_)

theorem WellFormed.fit (ok : d.WellFormed known) {s : Step} (hs : s ∈ d.steps) :
    s.Fit d known where
  source name written kind := by
    obtain ⟨same, named⟩ := present?_eq_some_iff.1 written
    rcases ok.sources s hs kind with unset | empty
    · simp [same] at unset
    · simp [same, named] at empty
  choices := ok.options s hs
  switch flow written := by
    obtain ⟨same, named⟩ := present?_eq_some_iff.1 written
    exact (mayReach_iff_leads _).1 (ok.targets s hs _ (.switch same named))
  fallback := (mayReach_iff_leads _).1 (ok.targets s hs _ .fallback)
  transitions t ht :=
    ⟨ok.conditions s hs t ht,
      (mayReach_iff_leads _).1 (ok.targets s hs _ (Step.targets_ownTarget ht))⟩

/-- **Well-formed definitions** are the accepted ones. -/
theorem wellFormed_iff_accepted : d.WellFormed known ↔ d.Accepted known := by
  constructor
  · intro ok
    refine ⟨⟨?_, ok.timeout, ok.steps, ?_, (begins_iff ok.steps).2 ok.initial⟩, ?_,
      fun s hs => ok.fit hs⟩
    · rw [ne_eq, Text.strip_eq_empty_iff]
      obtain ⟨c, mem, visible⟩ := ok.code
      intro blank
      simp [blank c mem] at visible
    · exact List.pairwise_map.2 ok.codes
    · intro s hs pattern written
      obtain ⟨same, named⟩ := present?_eq_some_iff.1 written
      exact ok.patterns s hs pattern same named
  · intro ok
    refine {
      code := ?_
      timeout := ok.timed
      steps := ok.peopled
      codes := List.pairwise_map.1 ok.distinct
      initial := (begins_iff ok.peopled).1 ok.begins
      patterns := ?_
      sources := ?_
      options := fun s hs => (ok.fit s hs).choices
      conditions := fun s hs t ht => ((ok.fit s hs).transitions t ht).1
      targets := fun s hs outcome target => (ok.fit s hs).mayReach target }
    · have visible := ok.named
      rw [ne_eq, Text.strip_eq_empty_iff] at visible
      simpa using visible
    · intro s hs pattern same named
      exact ok.compiles s hs pattern (present?_eq_some_iff.2 ⟨same, named⟩)
    · intro s hs kind
      rw [← present?_eq_none_iff, Option.eq_none_iff_forall_ne_some]
      intro name written
      exact (ok.fit s hs).source name written kind

/-! ## Order -/

/-- The step with its options and transitions in another order. -/
def Step.Reorders (s t : Step) : Prop :=
  ∃ choices transitions, choices.Perm s.choices ∧ transitions.Perm s.transitions ∧
    t = { s with choices := choices, transitions := transitions }

/-- The definition with its steps in another order, and their options and transitions as well. -/
def Reorders (d e : Definition) : Prop :=
  ∃ steps others, List.Forall₂ Step.Reorders d.steps steps ∧ others.Perm steps ∧
    e = { d with steps := others }

theorem Step.Reorders.symm {s t : Step} (reorders : s.Reorders t) : t.Reorders s := by
  obtain ⟨choices, transitions, choices_, transitions_, rfl⟩ := reorders
  exact ⟨s.choices, s.transitions, choices_.symm, transitions_.symm, rfl⟩

theorem Reorders.symm (reorders : d.Reorders e) : e.Reorders d := by
  obtain ⟨steps, others, each, perm, rfl⟩ := reorders
  have back : List.Forall₂ Step.Reorders steps d.steps :=
    (List.Forall₂.flip each).imp fun _ _ => Step.Reorders.symm
  obtain ⟨middle, each', perm'⟩ := List.perm_comp_forall₂ perm back
  exact ⟨middle, d.steps, each', perm'.symm, rfl⟩

theorem exists_of_each {steps others : List Step}
    (each : List.Forall₂ Step.Reorders steps others) {s : Step} (hs : s ∈ steps) :
    ∃ t ∈ others, s.Reorders t := by
  induction each with
  | nil => simp at hs
  | @cons r t _ _ like _ ih =>
    rcases List.mem_cons.1 hs with rfl | hs
    · exact ⟨t, List.mem_cons_self, like⟩
    · obtain ⟨u, mem, like⟩ := ih hs
      exact ⟨u, List.mem_cons_of_mem _ mem, like⟩

theorem codes_of_each {steps others : List Step}
    (each : List.Forall₂ Step.Reorders steps others) :
    steps.map Step.code = others.map Step.code := by
  induction each with
  | nil => rfl
  | cons like _ ih =>
    obtain ⟨_, _, -, -, rfl⟩ := like
    simp [ih]

/-- Every step is a step of the other definition but for the order of its parts. -/
theorem Reorders.exists_step (reorders : d.Reorders e) {s : Step} (hs : s ∈ d.steps) :
    ∃ t ∈ e.steps, s.Reorders t := by
  obtain ⟨steps, others, each, perm, rfl⟩ := reorders
  obtain ⟨t, mem, like⟩ := exists_of_each each hs
  exact ⟨t, perm.mem_iff.2 mem, like⟩

theorem Reorders.codes (reorders : d.Reorders e) :
    (e.steps.map Step.code).Perm (d.steps.map Step.code) := by
  obtain ⟨steps, others, each, perm, rfl⟩ := reorders
  rw [codes_of_each each]
  exact perm.map Step.code

theorem Step.Reorders.targets {s t : Step} (reorders : s.Reorders t) {outcome : Outcome}
    (target : s.Targets outcome) : t.Targets outcome := by
  obtain ⟨choices, transitions, -, perm, rfl⟩ := reorders
  cases target with
  | switch written named => exact .switch written named
  | fallback => exact .fallback
  | redirect mem written named => exact .redirect (perm.mem_iff.2 mem) written named
  | transition mem unset => exact .transition (perm.mem_iff.2 mem) unset

theorem Reorders.exists_isNamed (reorders : d.Reorders e) {name : String}
    (named : ∃ s ∈ d.steps, s.IsNamed name) : ∃ t ∈ e.steps, t.IsNamed name := by
  obtain ⟨s, hs, named⟩ := named
  obtain ⟨t, ht, _, _, -, -, rfl⟩ := reorders.exists_step hs
  exact ⟨_, ht, named⟩

theorem Reorders.mayReach (reorders : d.Reorders e) {outcome : Outcome}
    (reach : d.MayReach known outcome) : e.MayReach known outcome := by
  cases outcome with
  | next name => exact reorders.exists_isNamed reach
  | switchTo flow =>
    obtain ⟨_, _, -, -, rfl⟩ := reorders
    exact reach
  | transfer => trivial
  | complete => trivial

/-- **Order does not matter**: a well-formed definition stays so when it is reordered. -/
theorem wellFormed_of_reorders (reorders : d.Reorders e) (ok : d.WellFormed known) :
    e.WellFormed known := by
  have from_ {t : Step} (ht : t ∈ e.steps) : ∃ s ∈ d.steps, t.Reorders s :=
    reorders.symm.exists_step ht
  have codes := reorders.codes.nodup_iff.2 (List.pairwise_map.2 ok.codes)
  have fields := reorders
  obtain ⟨_, _, -, -, same⟩ := fields
  refine {
    code := by
      rw [same]
      exact ok.code
    timeout := by
      rw [same]
      exact ok.timeout
    steps := ?_
    codes := List.pairwise_map.1 codes
    initial := ?_
    patterns := ?_
    sources := ?_
    options := ?_
    conditions := ?_
    targets := ?_ }
  · obtain ⟨s, hs⟩ := List.exists_mem_of_ne_nil _ ok.steps
    obtain ⟨t, ht, -⟩ := reorders.exists_step hs
    exact List.ne_nil_of_mem ht
  · intro name written named
    rw [same] at written
    exact reorders.exists_isNamed (ok.initial name written named)
  · intro t ht
    obtain ⟨s, hs, _, _, -, -, rfl⟩ := from_ ht
    have given := ok.patterns _ hs
    exact given
  · intro t ht
    obtain ⟨s, hs, _, _, -, -, rfl⟩ := from_ ht
    have given := ok.sources _ hs
    exact given
  · intro t ht c mem
    obtain ⟨s, hs, _, _, perm, -, rfl⟩ := from_ ht
    exact ok.options _ hs c (perm.mem_iff.2 mem)
  · intro t ht u mem
    obtain ⟨s, hs, _, _, -, perm, rfl⟩ := from_ ht
    exact ok.conditions _ hs u (perm.mem_iff.2 mem)
  · intro t ht outcome target
    obtain ⟨s, hs, like⟩ := from_ ht
    exact reorders.mayReach (ok.targets s hs outcome (like.targets target))

/-! ## The check -/

/-- **The check accepts exactly the well-formed definitions**, whatever flows are known. So the
order of steps, options and transitions does not matter to it, and what it accepts next to some
flows it accepts next to more, and when nothing is known. -/
theorem check_eq_none_iff_wellFormed (d : Definition) :
    (∀ known, d.check known = .ok none ↔ d.WellFormed known) ∧
      (∀ known e, d.Reorders e → (e.check known = .ok none ↔ d.check known = .ok none)) ∧
      ∀ codes, d.check (some codes) = .ok none →
        d.check none = .ok none ∧ ∀ more, codes ⊆ more → d.check (some more) = .ok none := by
  have exactly (e : Definition) (known : Known) :
      e.check known = .ok none ↔ e.WellFormed known := by
    rw [check_eq_none_iff, wellFormed_iff_accepted]
  refine ⟨exactly d, fun known e reorders => ?_, fun codes passes => ?_⟩
  · rw [exactly, exactly]
    exact ⟨wellFormed_of_reorders reorders.symm, wellFormed_of_reorders reorders⟩
  · have accepted := check_eq_none_iff.1 passes
    refine ⟨check_eq_none_iff.2 accepted.unknown, fun more subset => ?_⟩
    exact check_eq_none_iff.2 (accepted.of_subset fun code mem => .inl (subset mem))

end Definition

end Dialogue
