import Dialogue.Proofs.Conversation.Runs
import Dialogue.Proofs.Conversation.Standing

/-!
# Steps that hand over

A step may hand the conversation to a person when it is shown. There are three ways to arrive at a
step: it comes next, its flow is started, or its flow is switched to. A step that comes next hands
over if it should. A flow that begins with such a step does not: it shows the step and waits there
for an answer. So what is stored waits at a step that hands over only where a flow begins with it.

Main statements: `handsOver_of_advances` and `keepsAt_of_begins`, what becomes of the conversation on
each way; `persists_begins`, what answers keep; `handsOver_iff_of_arrives`.
-/

namespace Dialogue

open Effect Conversation

/-- The ways to arrive at a step. -/
inductive Way where
  | advance
  | start
  | switch
  deriving DecidableEq

namespace Turn

/-- The turn hands the conversation to a person, ends the flow and waits nowhere. -/
structure HandsOver (t : Turn) : Prop where
  transfers : t.isTransferred = true
  completes : t.isCompleted = true
  closed : t.step = none

/-- A turn arrives at a step: the step is shown as the new position. -/
inductive Arrives (registry : Registry) (b : Backend) (address : Address) (t : Turn) :
    Way → Step → Prop
  | advances {p : Position} {code input key : String} {flow : Flow} {step next : Step}
      {kind : InputKind} {c : Backend}
      (ran : runFrom b (answer registry address p input (.ok kind)) = (.ok (some t), c))
      (waits : p.WaitsAt registry code flow step) (takes : step.Takes kind input)
      (outcome : step.rule.resolve (step.normalized input)
        (step.keep (step.normalized input) p.data) = .next key)
      (found : flow.step? key = some next) : Arrives registry b address t .advance next
  | starts {code : String} {flow : Flow} {data : Fields} {c : Backend}
      (ran : runFrom b (start registry address (some code) data) = (.ok (some t), c))
      (registered : registry.flow? code = some flow) :
      Arrives registry b address t .start flow.initialStep
  | switches {p : Position} {code input target : String} {flow other : Flow} {step : Step}
      {kind : InputKind} {c : Backend}
      (ran : runFrom b (answer registry address p input (.ok kind)) = (.ok (some t), c))
      (waits : p.WaitsAt registry code flow step) (takes : step.Takes kind input)
      (outcome : step.rule.resolve (step.normalized input)
        (step.keep (step.normalized input) p.data) = .switchTo target)
      (registered : registry.flow? target = some other) :
      Arrives registry b address t .switch other.initialStep

variable {registry : Registry} {address : Address} {b c : Backend} {code : String} {flow : Flow}
  {step : Step} {data : Fields} {t : Turn} {way : Way}

/-- The turn keeps the conversation at a step. -/
structure KeepsAt (t : Turn) (step : Step) : Prop where
  unfinished : t.isCompleted = false
  waits : t.step = some step.id

theorem KeepsAt.not_handsOver (keeps : t.KeepsAt step) : ¬ t.HandsOver := by
  intro hands
  have waits := keeps.waits
  rw [hands.closed] at waits
  cases waits

/-- A turn that leads to a step without ending the flow keeps the conversation there. -/
theorem LeadsTo.keepsAt {status : Status} (leads : t.LeadsTo b address code step data)
    (same : t.status = status) (open_ : (status = .completed || status = .transferred) = false) :
    t.KeepsAt step := by
  refine ⟨?_, leads.waits⟩
  rw [isCompleted, same]
  exact open_

/-- **A step that comes next** hands over when it should. -/
theorem handsOver_of_advances (arrives : t.Arrives registry b address .advance step)
    (handsOff : step.handsOff = true) : t.Shows b address step ∧ t.HandsOver := by
  cases arrives with
  | advances ran waits takes outcome found =>
    have goes := goes_of_waitsAt ran waits takes
    rw [outcome] at goes
    cases goes with
    | advances found' stays =>
      cases found.symm.trans found'
      rw [handsOff] at stays
      cases stays
    | handsOver found' _ status closed shows =>
      cases found.symm.trans found'
      refine ⟨shows, ?_, ?_, closed⟩
      · rw [isTransferred, status]
        rfl
      · rw [isCompleted, status]
        rfl
    | misses missing =>
      rw [found] at missing
      cases missing

/-- **A step that a flow begins with** keeps the conversation, whether it should hand over or
not. -/
theorem keepsAt_of_begins (arrives : t.Arrives registry b address way step)
    (begins : way ≠ .advance) : t.Shows b address step ∧ t.KeepsAt step := by
  cases arrives with
  | advances => exact absurd rfl begins
  | starts ran registered =>
    obtain ⟨flow, registered', status, leads⟩ := leadsTo_of_start ran
    cases registered.symm.trans registered'
    exact ⟨leads.shows, leads.keepsAt status rfl⟩
  | switches ran waits takes outcome registered =>
    have goes := goes_of_waitsAt ran waits takes
    rw [outcome] at goes
    cases goes with
    | switches registered' status leads =>
      cases registered.symm.trans registered'
      exact ⟨leads.shows, leads.keepsAt status rfl⟩

end Turn

/-! ## What is stored -/

/-- Every step of a flow is found under its own id. -/
def Flow.ById (flow : Flow) : Prop :=
  ∀ ⦃name step⦄, flow.step? name = some step → flow.step? step.id = some step

/-- Every step of a registered flow is found under its own id. -/
def Registry.ById (registry : Registry) : Prop :=
  ∀ ⦃code flow⦄, registry.flow? code = some flow → flow.ById

theorem Registry.ById.of_grows {registry other : Registry} (byId : other.ById)
    (grows : registry.Grows other) : registry.ById := fun _ _ found => byId (grows found)

/-- A position is in a registered flow, and if its step hands over the flow begins with it. -/
def Position.Begins (registry : Registry) (p : Position) : Prop :=
  p.isSet = true → ∃ code flow, p.flow = some code ∧ registry.flow? code = some flow ∧
    (registry.ById → ∀ step, flow.step? (p.step.getD "") = some step → step.handsOff = true →
      step = flow.initialStep)

/-- Where a flow begins, its initial step is the one that is named. -/
theorem Position.begins_initial {registry : Registry} {code : String} {flow : Flow}
    (registered : registry.flow? code = some flow) (data : Fields) (start : Option Stamp) :
    Begins registry ⟨some code, some flow.initialStep.id, data, start⟩ := by
  refine fun _ => ⟨code, flow, rfl, registered, fun byId step found _ => ?_⟩
  have own := byId registered flow.step?_initial
  exact Option.some.inj (found.symm.trans own)

/-- Waiting at hand-off steps that flows begin with alone persists. -/
theorem persists_begins : Position.Persists Position.Begins where
  empty _ := nofun
  grows := by
    intro first second p grows holds set
    obtain ⟨code, flow, inFlow, registered, begins⟩ := holds set
    exact ⟨code, flow, inFlow, grows registered, fun byId => begins (byId.of_grows grows)⟩
  restarts _ := id
  opens := by
    rintro registry m q ⟨registered⟩
    exact Position.begins_initial registered _ _
  leads := by
    intro registry p q _ holds leads
    cases leads with
    | @stays code flow step waits =>
      obtain ⟨code', flow', inFlow, registered, begins⟩ := holds waits.set
      cases waits.inFlow.symm.trans inFlow
      cases waits.registered.symm.trans registered
      refine fun _ => ⟨code, flow, rfl, registered, fun byId other found handsOff => ?_⟩
      have own := byId registered waits.found
      cases own.symm.trans found
      exact begins byId step waits.found handsOff
    | switches waits takes keeps outcome registered =>
      exact Position.begins_initial registered _ _
    | @advances code key input flow step next kind data waits takes keeps outcome found open_ =>
      refine fun _ => ⟨code, flow, rfl, waits.registered, fun byId other found' handsOff => ?_⟩
      have own := byId waits.registered found
      cases own.symm.trans found'
      rw [open_] at handsOff
      cases handsOff

/-- **A step hands over when it comes next, and only then.** A turn that arrives at a step which
hands over shows it. If the step comes next, the turn hands the conversation over, ends the flow and
waits nowhere; if a flow is started or switched to with this step, the turn keeps the conversation
there instead. So along every run of a bot that holds nothing yet, where steps are found under their
ids, a stored position waits at a step that hands over only if its flow begins with this step. -/
theorem handsOver_iff_of_arrives (registry : Registry) :
    (∀ (b : Backend) (address : Address) (t : Turn) (way : Way) (step : Step),
      t.Arrives registry b address way step → step.handsOff = true →
        t.Shows b address step ∧ (t.HandsOver ↔ way = .advance) ∧
          (way ≠ .advance → t.KeepsAt step)) ∧
    (registry.ById → ∀ (w : World) (events : List Happening), w.cache.entries = [] →
      (w.transcript events).2.registry = registry → ∀ customer now code flow step,
        ((w.transcript events).2.position customer now).WaitsAt registry code flow step →
          step.handsOff = true → step = flow.initialStep) := by
  constructor
  · intro b address t way step arrives handsOff
    by_cases next : way = .advance
    · subst next
      obtain ⟨shows, hands⟩ := Turn.handsOver_of_advances arrives handsOff
      exact ⟨shows, ⟨fun _ => rfl, fun _ => hands⟩, fun other => absurd rfl other⟩
    · obtain ⟨shows, keeps⟩ := Turn.keepsAt_of_begins arrives next
      exact ⟨shows, ⟨fun hands => absurd hands keeps.not_handsOver, fun same => absurd same next⟩,
        fun _ => keeps⟩
  · rintro byId w events empty rfl customer now code flow step waits handsOff
    obtain ⟨code', flow', inFlow, registered, begins⟩ :=
      (holds_of_transcript persists_begins empty events customer now).2 waits.set
    cases waits.inFlow.symm.trans inFlow
    cases waits.registered.symm.trans registered
    exact begins byId step waits.found handsOff

/-- A step that hands over when it is shown. -/
def goodbye : Step where
  id := "bye"
  prompt := .fixed (.ofText "Goodbye")
  expects := .nothing
  handsOff := true

/-- A flow that begins with it. -/
def goodbyes : Flow where
  name := "goodbyes"
  description := ""
  steps := [("bye", goodbye)]
  initial := "bye"
  minutes := Flow.halfHour
  has_initial := rfl
  minutes_pos := Flow.halfHour_pos

/-- A bot that opens with the flow. -/
def counter : World where
  config := { cancelCommands := [] }
  clock := ⟨0, none⟩
  opening := "goodbyes"
  registry := [("goodbyes", goodbyes)]

/-- The turn that starts the flow. -/
def parting : Turn :=
  ⟨.started, ⟨"549", (Content.ofText "Goodbye").deliverable, none⟩, "goodbyes", some "bye", []⟩

theorem arrives_parting :
    parting.Arrives counter.registry {} ⟨"549", none⟩ .start goodbyes.initialStep := by
  have registered : counter.registry.flow? "goodbyes" = some goodbyes := rfl
  have ran : runFrom {} (Turn.start counter.registry ⟨"549", none⟩ (some "goodbyes") []) =
      (.ok (some parting), ⟨{}, [.turn "goodbyes" "started"]⟩) := by
    rw [Turn.start_eq registered]
    rfl
  exact .starts ran registered

/-- The position where the flow begins. -/
def parted : Position := ⟨some "goodbyes", some "bye", [], some ⟨0, none⟩⟩

/-- It is stored for the customer who wrote to the bot. -/
theorem position_counter : (counter.transcript [.sent tap]).2.position "549" 0 = parted := by
  have stored : (counter.transcript [.sent tap]).2.stored? "549" =
      some ⟨.text parted.text, some 86400, 0⟩ := rfl
  have civil : ∀ stamp ∈ parted.startedAt, stamp.IsCivil := by
    rintro _ ⟨⟩
    exact ⟨by decide, nofun⟩
  exact World.position_of_entry stored rfl .nil civil

theorem waitsAt_counter :
    ((counter.transcript [.sent tap]).2.position "549" 0).WaitsAt counter.registry "goodbyes"
      goodbyes goodbye := by
  rw [position_counter]
  exact ⟨rfl, rfl, rfl, rfl⟩

theorem byId_counter : counter.registry.ById := by
  intro code flow registered name step found
  cases List.mem_singleton.1 (Registry.mem_of_flow? registered)
  have listed : (name, step) ∈ goodbyes.steps := Table.mem_of_get? found
  cases List.mem_singleton.1 listed
  rfl

theorem handsOver_iff_of_arrives_counter :
    parting.Arrives counter.registry {} ⟨"549", none⟩ .start goodbyes.initialStep ∧
      goodbyes.initialStep.handsOff = true ∧ parting.KeepsAt goodbyes.initialStep ∧
      counter.registry.ById ∧ counter.cache.entries = [] ∧
      (counter.transcript [.sent tap]).2.registry = counter.registry ∧
      ((counter.transcript [.sent tap]).2.position "549" 0).WaitsAt counter.registry "goodbyes"
        goodbyes goodbye ∧
      goodbye = goodbyes.initialStep := by
  obtain ⟨arriving, stored⟩ := handsOver_iff_of_arrives counter.registry
  exact ⟨arrives_parting, rfl, (arriving _ _ _ _ _ arrives_parting rfl).2.2 (by decide),
    byId_counter, rfl, rfl, waitsAt_counter,
    stored byId_counter counter _ rfl rfl "549" 0 _ _ _ waitsAt_counter rfl⟩

/-- A flow that begins with a step which hands over does not hand over, and its position is
stored. -/
theorem not_handsOver_counter :
    parting.Arrives counter.registry {} ⟨"549", none⟩ .start goodbyes.initialStep ∧
      goodbyes.initialStep.handsOff = true ∧ ¬ parting.HandsOver ∧
      counter.cache.entries = [] ∧
      ((counter.transcript [.sent tap]).2.position "549" 0).WaitsAt counter.registry "goodbyes"
        goodbyes goodbye ∧
      goodbye.handsOff = true := by
  have keeps := (Turn.keepsAt_of_begins arrives_parting (by decide)).2
  exact ⟨arrives_parting, rfl, keeps.not_handsOver, rfl, waitsAt_counter, rfl⟩

end Dialogue
