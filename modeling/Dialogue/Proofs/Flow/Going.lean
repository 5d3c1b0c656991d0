import Dialogue.Proofs.Flow.Changing

/-!
# Where turns go

A turn that begins a flow leads to its initial step. An answer that is taken goes where the outcome
of the step leads: to an end, to a person, to the initial step of another flow, or to a step of the
same flow, which may hand the conversation over when it is shown. What a turn has done can be read
off in one place, and whatever holds of all turns is proved from there.

Main statements: `leadsTo_of_start`, `goes_of_follow` and `answer_cases`; `unregistered_of_respond`,
when there is no turn; `opens_of_after` and `leads_of_after`, the same from position to position.
-/

namespace Dialogue

open Effect

/-- The answer is taken: it is of the right kind and passes the check. -/
structure Step.Takes (step : Step) (kind : InputKind) (input : String) : Prop where
  accepts : step.expects.accepts kind = true
  passes : step.check (step.normalized input) = .ok true

namespace Turn

variable {registry : Registry} {address : Address} {b c : Backend} {code : String} {flow : Flow}
  {step : Step} {p : Position} {data : Fields} {t : Turn}

/-- The turn leads to a step: it shows the step and waits there, in the flow of a code and with what
is known. -/
structure LeadsTo (b : Backend) (address : Address) (t : Turn) (code : String) (step : Step)
    (data : Fields) : Prop where
  flow : t.flow = code
  waits : t.step = some step.id
  data : t.data = data
  shows : t.Shows b address step

/-- Where a turn has gone with the outcome of a step. -/
inductive Goes (registry : Registry) (b : Backend) (address : Address) (code : String)
    (flow : Flow) (data : Fields) (t : Turn) : Outcome → Prop
  | completes (status : t.status = .completed) : Goes registry b address code flow data t .complete
  | transfers (status : t.status = .transferred) :
      Goes registry b address code flow data t .transfer
  | switches {target : String} {other : Flow} (registered : registry.flow? target = some other)
      (status : t.status = .switched)
      (leads : t.LeadsTo b address target other.initialStep
        (Table.set data previousFlowKey (.str code))) :
      Goes registry b address code flow data t (.switchTo target)
  | advances {key : String} {next : Step} (found : flow.step? key = some next)
      (stays : next.handsOff = false) (status : t.status = .advanced)
      (leads : t.LeadsTo b address code next data) :
      Goes registry b address code flow data t (.next key)
  | handsOver {key : String} {next : Step} (found : flow.step? key = some next)
      (handsOff : next.handsOff = true) (status : t.status = .transferred)
      (closed : t.step = none) (shows : t.Shows b address next) :
      Goes registry b address code flow data t (.next key)
  | misses {key : String} (missing : flow.step? key = none) (status : t.status = .completed) :
      Goes registry b address code flow data t (.next key)

/-! ## Beginning a flow -/

theorem leadsTo_of_render {status : Status} {message : Message}
    (shown : runFrom b (render address step data) = (.ok message, c)) :
    LeadsTo b address ⟨status, message, code, some step.id, data⟩ code step data :=
  ⟨rfl, rfl, rfl, message, c, shown, .inl rfl⟩

/-- **A turn that starts a flow** leads to its initial step, and never hands over. -/
theorem leadsTo_of_start
    (ran : runFrom b (start registry address (some code) data) = (.ok (some t), c)) :
    ∃ flow, registry.flow? code = some flow ∧ t.status = .started ∧
      t.LeadsTo b address code flow.initialStep data := by
  cases registered : registry.flow? code with
  | none =>
    rw [start, Option.bind_some, registered] at ran
    exact absurd ran (note_none_ne _)
  | some flow =>
    rw [start_eq registered] at ran
    obtain ⟨message, d, shown, ran⟩ := runFrom_bind_eq_ok_iff.1 ran
    obtain ⟨-, e, -, ran⟩ := runFrom_bind_eq_ok_iff.1 ran
    cases ran
    exact ⟨flow, rfl, rfl, leadsTo_of_render shown⟩

theorem goes_of_switch {target : String}
    (ran : runFrom b (switch registry address code target data) = (.ok (some t), c)) :
    t.Goes registry b address code flow data (.switchTo target) := by
  unfold switch at ran
  cases registered : registry.flow? target with
  | none =>
    rw [registered] at ran
    exact absurd ran (note_none_ne _)
  | some other =>
    rw [registered] at ran
    obtain ⟨message, d, shown, ran⟩ := runFrom_bind_eq_ok_iff.1 ran
    obtain ⟨-, e, -, ran⟩ := runFrom_bind_eq_ok_iff.1 ran
    cases ran
    exact .switches registered rfl (leadsTo_of_render shown)

/-! ## Following an outcome -/

theorem goes_of_advance {key : String} {next : Step} (found : flow.step? key = some next)
    (ran : runFrom b (advance address code next data) = (.ok t, c)) :
    t.Goes registry b address code flow data (.next key) := by
  unfold advance at ran
  obtain ⟨message, d, shown, ran⟩ := runFrom_bind_eq_ok_iff.1 ran
  split at ran
  · next handsOff =>
    obtain ⟨-, e, -, ran⟩ := runFrom_bind_eq_ok_iff.1 ran
    cases ran
    exact .handsOver found handsOff rfl rfl ⟨message, d, shown, .inl rfl⟩
  · next stays =>
    obtain ⟨-, e, -, ran⟩ := runFrom_bind_eq_ok_iff.1 ran
    cases ran
    exact .advances found (by simpa using stays) rfl (leadsTo_of_render shown)

/-- **A turn goes where the outcome leads.** -/
theorem goes_of_follow {outcome : Outcome}
    (ran : runFrom b (follow registry address code flow data outcome) = (.ok (some t), c)) :
    t.Goes registry b address code flow data outcome := by
  cases outcome with
  | complete =>
    rw [follow, ← bind_pure_comp] at ran
    obtain ⟨u, d, ended, ran⟩ := runFrom_bind_eq_ok_iff.1 ran
    cases ran
    exact .completes (status_of_closing ended)
  | transfer =>
    rw [follow, ← bind_pure_comp] at ran
    obtain ⟨u, d, ended, ran⟩ := runFrom_bind_eq_ok_iff.1 ran
    cases ran
    exact .transfers (status_of_closing ended)
  | switchTo target => exact goes_of_switch ran
  | next key =>
    rw [follow] at ran
    cases found : flow.step? key with
    | some next =>
      rw [found, ← bind_pure_comp] at ran
      obtain ⟨u, d, advanced, ran⟩ := runFrom_bind_eq_ok_iff.1 ran
      cases ran
      exact goes_of_advance found advanced
    | none =>
      rw [found, ← bind_pure_comp] at ran
      obtain ⟨-, d, -, ran⟩ := runFrom_bind_eq_ok_iff.1 ran
      obtain ⟨u, e, ended, ran⟩ := runFrom_bind_eq_ok_iff.1 ran
      cases ran
      exact .misses found (status_of_closing ended)

/-! ## Answering -/

/-- **A taken answer** goes where the step leads with it. -/
theorem goes_of_taken {input : String} {kind : InputKind} (takes : step.Takes kind input)
    (ran : runFrom b (respond registry address code flow step data input kind) =
      (.ok (some t), c)) :
    t.Goes registry b address code flow (step.keep (step.normalized input) data)
      (step.rule.resolve (step.normalized input) (step.keep (step.normalized input) data)) := by
  unfold respond at ran
  rw [takes.accepts, if_neg (by decide)] at ran
  dsimp only at ran
  rw [takes.passes] at ran
  obtain ⟨passes, d, checked, ran⟩ := runFrom_bind_eq_ok_iff.1 ran
  cases checked
  exact goes_of_follow ran

/-- An answer that gives a turn is refused or taken. -/
theorem refuses_or_takes {input : String} {kind : InputKind}
    (ran : runFrom b (respond registry address code flow step data input kind) =
      (.ok (some t), c)) : step.Refuses kind input ∨ step.Takes kind input := by
  cases accepts : step.expects.accepts kind with
  | false => exact .inl (.inl accepts)
  | true =>
    unfold respond at ran
    rw [accepts, if_neg (by decide)] at ran
    obtain ⟨passes, d, checked, -⟩ := runFrom_bind_eq_ok_iff.1 ran
    have given : step.check (step.normalized input) = .ok passes := (Prod.mk.inj checked).1
    cases passes with
    | false => exact .inl (.inr given)
    | true => exact .inr ⟨accepts, given⟩

/-- **What an answer does**, where it gives a turn: the position waits at a step of a registered
flow, and the turn stays there, or it goes where the step leads. -/
theorem answer_cases {input : String} {kind : InputKind}
    (ran : runFrom b (Turn.answer registry address p input (.ok kind)) = (.ok (some t), c)) :
    ∃ code flow step, p.WaitsAt registry code flow step ∧
      ((step.Refuses kind input ∧ t.Stays p step) ∨
        (step.Takes kind input ∧
          t.Goes registry b address code flow (step.keep (step.normalized input) p.data)
            (step.rule.resolve (step.normalized input)
              (step.keep (step.normalized input) p.data)))) := by
  obtain ⟨code, flow, step, waits, ran⟩ := waitsAt_of_answer ran
  refine ⟨code, flow, step, waits, (refuses_or_takes ran).imp (fun refuses => ?_) fun takes => ?_⟩
  · exact ⟨refuses, (stays_of_refused waits.inFlow refuses ran).2⟩
  · exact ⟨takes, goes_of_taken takes ran⟩

/-- Where a position waits, an answer is taken. -/
theorem answer_eq_of_waitsAt (waits : p.WaitsAt registry code flow step) (address : Address)
    (input : String) (kind : InputKind) :
    Turn.answer registry address p input (.ok kind) =
      respond registry address code flow step p.data input kind := by
  have set := waits.set
  have found := waits.found
  unfold Position.isSet at set
  cases atStep : p.step with
  | none =>
    rw [atStep, Position.isNamed, Bool.and_false] at set
    cases set
  | some name =>
    rw [atStep] at found
    exact answer_eq_respond waits.inFlow atStep waits.set waits.registered found address input kind

/-- A taken answer goes where the step leads, wherever the position waits. -/
theorem goes_of_waitsAt {input : String} {kind : InputKind}
    (ran : runFrom b (Turn.answer registry address p input (.ok kind)) = (.ok (some t), c))
    (waits : p.WaitsAt registry code flow step) (takes : step.Takes kind input) :
    t.Goes registry b address code flow (step.keep (step.normalized input) p.data)
      (step.rule.resolve (step.normalized input)
        (step.keep (step.normalized input) p.data)) := by
  rw [answer_eq_of_waitsAt waits] at ran
  exact goes_of_taken takes ran

/-! ## No turn -/

theorem map_some_ne {α : Type} {x : Lookup α} : runFrom b (some <$> x) ≠ (.ok none, c) := by
  intro ran
  rw [← bind_pure_comp] at ran
  obtain ⟨a, d, -, ran⟩ := runFrom_bind_eq_ok_iff.1 ran
  cases ran

/-- An outcome gives no turn only when it switches to a flow that is not registered. -/
theorem unregistered_of_follow {outcome : Outcome}
    (ran : runFrom b (follow registry address code flow data outcome) = (.ok none, c)) :
    ∃ target, outcome = .switchTo target ∧ registry.flow? target = none := by
  cases outcome with
  | complete => exact absurd ran map_some_ne
  | transfer => exact absurd ran map_some_ne
  | switchTo target =>
    have ran : runFrom b (switch registry address code target data) = (.ok none, c) := ran
    unfold switch at ran
    cases registered : registry.flow? target with
    | none => exact ⟨target, rfl, registered⟩
    | some other =>
      rw [registered] at ran
      obtain ⟨message, d, -, ran⟩ := runFrom_bind_eq_ok_iff.1 ran
      obtain ⟨-, e, -, ran⟩ := runFrom_bind_eq_ok_iff.1 ran
      cases ran
  | next key =>
    rw [follow] at ran
    cases found : flow.step? key with
    | some next =>
      rw [found] at ran
      exact absurd ran map_some_ne
    | none =>
      rw [found] at ran
      obtain ⟨-, d, -, ran⟩ := runFrom_bind_eq_ok_iff.1 ran
      exact absurd ran map_some_ne

/-- **An answer to a step gives no turn** only when the step switches to a flow that is not
registered. -/
theorem unregistered_of_respond {input : String} {kind : InputKind}
    (ran : runFrom b (respond registry address code flow step data input kind) = (.ok none, c)) :
    ∃ target, step.rule.resolve (step.normalized input)
        (step.keep (step.normalized input) data) = .switchTo target ∧
      registry.flow? target = none := by
  unfold respond at ran
  split at ran
  · obtain ⟨u, d, -, ran⟩ := runFrom_bind_eq_ok_iff.1 ran
    cases ran
  · obtain ⟨passes, d, -, ran⟩ := runFrom_bind_eq_ok_iff.1 ran
    split at ran
    · obtain ⟨u, e, -, ran⟩ := runFrom_bind_eq_ok_iff.1 ran
      cases ran
    · exact unregistered_of_follow ran

/-- Starting a registered flow gives a turn, or a fault. -/
theorem start_ne_none (registered : registry.flow? code = some flow) :
    (runFrom b (start registry address (some code) data)).1 ≠ .ok none := by
  intro none_
  have ran : runFrom b (start registry address (some code) data) = (.ok none, _) :=
    Prod.ext none_ rfl
  rw [start_eq registered] at ran
  obtain ⟨message, d, -, ran⟩ := runFrom_bind_eq_ok_iff.1 ran
  obtain ⟨-, e, -, ran⟩ := runFrom_bind_eq_ok_iff.1 ran
  cases ran

/-! ## From position to position -/

/-- The position that a turn leads to, whose start is left open. -/
def place (t : Turn) : Position := ⟨some t.flow, t.step, t.data, none⟩

theorem LeadsTo.place (leads : t.LeadsTo b address code step data) :
    t.place = ⟨some code, some step.id, data, none⟩ := by
  unfold Turn.place
  rw [leads.flow, leads.waits, leads.data]

end Turn

/-- The positions at which a flow may begin with some data. -/
inductive Position.Opens (registry : Registry) (data : Fields) : Position → Prop
  | begins {code : String} {flow : Flow} (registered : registry.flow? code = some flow) :
      Opens registry data ⟨some code, some flow.initialStep.id, data, none⟩

/-- The positions to which one answer may lead from another. -/
inductive Position.Leads (registry : Registry) (p : Position) : Position → Prop
  | stays {code : String} {flow : Flow} {step : Step} (waits : p.WaitsAt registry code flow step) :
      Leads registry p ⟨some code, some step.id, p.data, none⟩
  | switches {code target input : String} {flow other : Flow} {step : Step} {kind : InputKind}
      {data : Fields} (waits : p.WaitsAt registry code flow step) (takes : step.Takes kind input)
      (keeps : data = step.keep (step.normalized input) p.data)
      (outcome : step.rule.resolve (step.normalized input) data = .switchTo target)
      (registered : registry.flow? target = some other) :
      Leads registry p ⟨some target, some other.initialStep.id,
        Table.set data Turn.previousFlowKey (.str code), none⟩
  | advances {code key input : String} {flow : Flow} {step next : Step} {kind : InputKind}
      {data : Fields} (waits : p.WaitsAt registry code flow step) (takes : step.Takes kind input)
      (keeps : data = step.keep (step.normalized input) p.data)
      (outcome : step.rule.resolve (step.normalized input) data = .next key)
      (found : flow.step? key = some next) (open_ : next.handsOff = false) :
      Leads registry p ⟨some code, some next.id, data, none⟩

namespace Position

variable {registry : Registry} {p q : Position} {data : Fields}

/-- Where a flow begins it is registered. -/
theorem Opens.registered (opens : Opens registry data q) :
    ∃ code flow, q.flow = some code ∧ registry.flow? code = some flow := by
  cases opens with
  | begins registered => exact ⟨_, _, rfl, registered⟩

/-- An answer leads into a registered flow. -/
theorem Leads.registered (leads : p.Leads registry q) :
    ∃ code flow, q.flow = some code ∧ registry.flow? code = some flow := by
  cases leads with
  | stays waits => exact ⟨_, _, rfl, waits.registered⟩
  | switches _ _ _ _ registered => exact ⟨_, _, rfl, registered⟩
  | advances waits => exact ⟨_, _, rfl, waits.registered⟩

end Position

namespace Turn

variable {registry : Registry} {address : Address} {b c : Backend} {code : String} {p : Position}
  {data : Fields} {t : Turn}

theorem opens_of_start
    (ran : runFrom b (start registry address (some code) data) = (.ok (some t), c)) :
    Position.Opens registry data t.place := by
  obtain ⟨flow, registered, -, leads⟩ := leadsTo_of_start ran
  rw [leads.place]
  exact .begins registered

/-- **An answer that leaves a flow open** leads from position to position. -/
theorem leads_of_answer {input : String} {kind : InputKind}
    (ran : runFrom b (Turn.answer registry address p input (.ok kind)) = (.ok (some t), c))
    (open_ : t.isCompleted = false) : p.Leads registry t.place := by
  obtain ⟨code, flow, step, waits, ⟨-, stays⟩ | ⟨takes, goes⟩⟩ := answer_cases ran
  · have place : t.place = ⟨some code, some step.id, p.data, none⟩ := by
      unfold place
      rw [stays.flow, waits.inFlow, stays.step, stays.data]
    rw [place]
    exact .stays waits
  · generalize outcome : step.rule.resolve (step.normalized input)
      (step.keep (step.normalized input) p.data) = led at goes
    cases goes with
    | completes status | transfers status | handsOver _ _ status | misses _ status =>
      rw [isCompleted, status] at open_
      cases open_
    | switches registered _ leads =>
      rw [leads.place]
      exact .switches waits takes rfl outcome registered
    | advances found stays _ leads =>
      rw [leads.place]
      exact .advances waits takes rfl outcome found stays

/-- **The position after a turn** is its place, with a start. -/
theorem eq_place_of_after {q : Position} {now : Stamp} (named : t.flow ≠ "")
    (next : p.after t.move now = some q) :
    t.isCompleted = false ∧ q = { t.place with startedAt := q.startedAt } := by
  obtain ⟨open_, step, inFlow⟩ := of_after_move next
  obtain ⟨-, -, data⟩ := Position.startedAt_after next
  obtain ⟨flow, step', data', start⟩ := q
  cases inFlow named
  cases step
  cases data
  exact ⟨open_, rfl⟩

/-- **The position after a turn that starts a flow** is one where the flow begins, with a start. -/
theorem opens_of_after {q : Position} {now : Stamp}
    (ran : runFrom b (start registry address (some code) data) = (.ok (some t), c))
    (next : p.after t.move now = some q) :
    Position.Opens registry data t.place ∧ q = { t.place with startedAt := q.startedAt } := by
  have opens := opens_of_start ran
  obtain ⟨code, flow, inFlow, registered⟩ := opens.registered
  have named : t.flow ≠ "" := by
    rw [Option.some.inj inFlow]
    exact ne_empty_of_flow? registered
  exact ⟨opens, (eq_place_of_after named next).2⟩

/-- **The position after an answer** is one that the answer leads to, with a start. -/
theorem leads_of_after {before q : Position} {input : String} {kind : InputKind} {now : Stamp}
    (ran : runFrom b (Turn.answer registry address p input (.ok kind)) = (.ok (some t), c))
    (next : before.after t.move now = some q) :
    p.Leads registry t.place ∧ q = { t.place with startedAt := q.startedAt } := by
  have leads := leads_of_answer ran (of_after_move next).1
  obtain ⟨code, flow, inFlow, registered⟩ := leads.registered
  have named : t.flow ≠ "" := by
    rw [Option.some.inj inFlow]
    exact ne_empty_of_flow? registered
  exact ⟨leads, (eq_place_of_after named next).2⟩

end Turn

end Dialogue
