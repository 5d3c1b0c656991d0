import Dialogue.Proofs.Flow.Learning
import Dialogue.Proofs.Flow.Turns

/-!
# What a turn may change

A step turns an answer down when it is of the wrong kind or does not pass the check. Such a turn
changes nothing: it stays in the flow and at the step with what was learned, so the position after
it is the one before, its start included. Any other answer is kept under the key of its step, and a
turn that switches flows notes the flow that was left; nothing else that was learned changes.

Main statements: `stays_of_refused` and `get?_data_of_taken`, what either kind of turn leaves;
`meetAll_eq`, a position that meets any number of refused answers; and `changes_of_answer`.
-/

namespace Dialogue

open Effect

/-- The answer is not taken: it is of the wrong kind, or it does not pass the check. -/
def Step.Refuses (step : Step) (kind : InputKind) (input : String) : Prop :=
  step.expects.accepts kind = false ∨ step.check (step.normalized input) = .ok false

theorem Step.get?_keep (step : Step) (value : String) (data : Fields) (key : String) :
    Table.get? (step.keep value data) key =
      if step.saveAs = some key ∧ key ≠ "" then some (.str value) else Table.get? data key := by
  unfold Step.keep
  cases step.saveAs with
  | none => rw [if_neg (by simp)]
  | some name =>
    dsimp only
    by_cases empty : name = ""
    · rw [if_pos empty, if_neg (by rintro ⟨same, filled⟩; cases same; exact filled empty)]
    · rw [if_neg empty, Table.get?_set]
      by_cases same : name = key
      · rw [if_pos same, if_pos ⟨congrArg some same, same ▸ empty⟩]
      · rw [if_neg same, if_neg fun both => same (Option.some.inj both.1)]

/-- A position waits at a step of a registered flow. -/
structure Position.WaitsAt (registry : Registry) (p : Position) (code : String) (flow : Flow)
    (step : Step) : Prop where
  set : p.isSet = true
  inFlow : p.flow = some code
  registered : registry.flow? code = some flow
  found : flow.step? (p.step.getD "") = some step

namespace Turn

variable {registry : Registry} {address : Address} {b c : Backend} {code : String} {flow : Flow}
  {step : Step} {p : Position} {data : Fields} {t : Turn}

/-- The turn stays where the position is: in its flow, at the step, with what was learned. -/
structure Stays (t : Turn) (p : Position) (step : Step) : Prop where
  flow : some t.flow = p.flow
  step : t.step = some step.id
  data : t.data = p.data
  unfinished : t.isCompleted = false

/-- What is learned when a turn leaves a flow: a switch notes the flow. -/
def leaving (status : Status) (code : String) (data : Fields) : Fields :=
  if status = .switched then Table.set data previousFlowKey (.str code) else data

/-! ## Answers that are not taken -/

theorem eq_of_restate {status : Status} {notice : Option String}
    (ran : runFrom b (restate address code step data status notice) = (.ok t, c)) :
    ∃ message, t = ⟨status, message, code, some step.id, data⟩ := by
  unfold restate at ran
  obtain ⟨message, d, -, ran⟩ := runFrom_bind_eq_ok_iff.1 ran
  obtain ⟨-, e, -, ran⟩ := runFrom_bind_eq_ok_iff.1 ran
  cases ran
  exact ⟨_, rfl⟩

theorem stays_of_restate {status : Status} {notice : Option String} (here : p.flow = some code)
    (open_ : status = .reprompted ∨ status = .invalidInput)
    (ran : runFrom b (restate address code step p.data status notice) = (.ok t, c)) :
    t.status = status ∧ t.Stays p step := by
  obtain ⟨message, rfl⟩ := eq_of_restate ran
  refine ⟨rfl, here.symm, rfl, rfl, ?_⟩
  rcases open_ with rfl | rfl <;> rfl

/-! ## Answers that are taken -/

theorem data_of_switch {target : String}
    (ran : runFrom b (switch registry address code target data) = (.ok (some t), c)) :
    t.status = .switched ∧ t.data = Table.set data previousFlowKey (.str code) := by
  unfold switch at ran
  split at ran
  · exact absurd ran (note_none_ne _)
  · obtain ⟨message, d, -, ran⟩ := runFrom_bind_eq_ok_iff.1 ran
    obtain ⟨-, e, -, ran⟩ := runFrom_bind_eq_ok_iff.1 ran
    cases ran
    exact ⟨rfl, rfl⟩

theorem status_of_advance (ran : runFrom b (advance address code step data) = (.ok t, c)) :
    t.status = .transferred ∨ t.status = .advanced := by
  unfold advance at ran
  obtain ⟨message, d, -, ran⟩ := runFrom_bind_eq_ok_iff.1 ran
  split at ran
  · obtain ⟨-, e, -, ran⟩ := runFrom_bind_eq_ok_iff.1 ran
    cases ran
    exact .inl rfl
  · obtain ⟨-, e, -, ran⟩ := runFrom_bind_eq_ok_iff.1 ran
    cases ran
    exact .inr rfl

/-- The ways in which a turn goes on with an answer that was taken. -/
def goingOn : List Status := [.completed, .transferred, .switched, .advanced]

/-- **A turn that goes on** learns nothing more, but a switch notes the flow that is left. -/
theorem data_of_follow {outcome : Outcome}
    (ran : runFrom b (follow registry address code flow data outcome) = (.ok (some t), c)) :
    t.status ∈ goingOn ∧ t.data = leaving t.status code data := by
  have stays {status : Status} (same : t.status = status) (other : status ≠ .switched)
      (kept : t.data = data) : t.data = leaving t.status code data := by
    rw [kept, leaving, same, if_neg other]
  cases outcome with
  | complete =>
    rw [follow, ← bind_pure_comp] at ran
    obtain ⟨u, d, ended, ran⟩ := runFrom_bind_eq_ok_iff.1 ran
    cases ran
    have status := status_of_closing ended
    exact ⟨by simp [goingOn, status], stays status (by decide) (data_of_closing ended)⟩
  | transfer =>
    rw [follow, ← bind_pure_comp] at ran
    obtain ⟨u, d, ended, ran⟩ := runFrom_bind_eq_ok_iff.1 ran
    cases ran
    have status := status_of_closing ended
    exact ⟨by simp [goingOn, status], stays status (by decide) (data_of_closing ended)⟩
  | switchTo target =>
    obtain ⟨status, learned⟩ := data_of_switch ran
    exact ⟨by simp [goingOn, status], by rw [learned, leaving, if_pos status]⟩
  | next key =>
    rw [follow] at ran
    split at ran
    · rw [← bind_pure_comp] at ran
      obtain ⟨u, d, advanced, ran⟩ := runFrom_bind_eq_ok_iff.1 ran
      cases ran
      have kept := data_of_advance advanced
      rcases status_of_advance advanced with status | status
      · exact ⟨by simp [goingOn, status], stays status (by decide) kept⟩
      · exact ⟨by simp [goingOn, status], stays status (by decide) kept⟩
    · rw [← bind_pure_comp] at ran
      obtain ⟨-, d, -, ran⟩ := runFrom_bind_eq_ok_iff.1 ran
      obtain ⟨u, e, ended, ran⟩ := runFrom_bind_eq_ok_iff.1 ran
      cases ran
      have status := status_of_closing ended
      exact ⟨by simp [goingOn, status], stays status (by decide) (data_of_closing ended)⟩

/-! ## Answering -/

/-- A turn is an answer at the step where the position waits. -/
theorem waitsAt_of_answer {input : String} {kind : InputKind}
    (ran : runFrom b (Turn.answer registry address p input (.ok kind)) = (.ok (some t), c)) :
    ∃ code flow step, p.WaitsAt registry code flow step ∧
      runFrom b (respond registry address code flow step p.data input kind) =
        (.ok (some t), c) := by
  unfold Turn.answer at ran
  split at ran
  · cases ran
  · next set =>
    dsimp only at ran
    split at ran
    · exact absurd ran (note_none_ne _)
    · next flow registered =>
      split at ran
      · exact absurd ran (note_none_ne _)
      · next step found =>
        cases inFlow : p.flow with
        | none =>
          rw [inFlow] at registered
          exact absurd rfl (ne_empty_of_flow? registered)
        | some code =>
          rw [inFlow] at registered ran
          exact ⟨code, flow, step, ⟨by simpa using set, inFlow, registered, found⟩, ran⟩

/-- **A refused answer** is asked for again: the turn says why and stays where it is. -/
theorem stays_of_refused {input : String} {kind : InputKind} (here : p.flow = some code)
    (refuses : step.Refuses kind input)
    (ran : runFrom b (respond registry address code flow step p.data input kind) =
      (.ok (some t), c)) :
    t.status = (if step.expects.accepts kind then .invalidInput else .reprompted) ∧
      t.Stays p step := by
  unfold respond at ran
  cases accepts : step.expects.accepts kind with
  | false =>
    rw [accepts, if_pos (by decide)] at ran
    obtain ⟨u, d, restated, ran⟩ := runFrom_bind_eq_ok_iff.1 ran
    cases ran
    exact stays_of_restate here (.inl rfl) restated
  | true =>
    have fails := refuses.resolve_left (by simp [accepts])
    rw [accepts, if_neg (by decide)] at ran
    dsimp only at ran
    rw [fails] at ran
    obtain ⟨passes, d, checked, ran⟩ := runFrom_bind_eq_ok_iff.1 ran
    cases checked
    obtain ⟨u, d, restated, ran⟩ := runFrom_bind_eq_ok_iff.1 ran
    cases ran
    exact stays_of_restate here (.inr rfl) restated

/-- An answer that is not refused has passed the check, and the turn goes on with it. -/
theorem data_of_taken {input : String} {kind : InputKind} (takes : ¬ step.Refuses kind input)
    (ran : runFrom b (respond registry address code flow step data input kind) =
      (.ok (some t), c)) :
    t.status ∈ goingOn ∧
      t.data = leaving t.status code (step.keep (step.normalized input) data) := by
  unfold Step.Refuses at takes
  rw [not_or, Bool.not_eq_false] at takes
  unfold respond at ran
  rw [takes.1, if_neg (by decide)] at ran
  obtain ⟨passes, d, checked, ran⟩ := runFrom_bind_eq_ok_iff.1 ran
  have given : step.check (step.normalized input) = .ok passes := (Prod.mk.inj checked).1
  cases passes with
  | false => exact absurd given takes.2
  | true =>
    rw [if_neg (by decide)] at ran
    exact data_of_follow ran

/-- **What is learned from an answer that was taken**, key by key. -/
theorem get?_data_of_taken {input : String} {kind : InputKind}
    (takes : ¬ step.Refuses kind input)
    (ran : runFrom b (respond registry address code flow step data input kind) =
      (.ok (some t), c)) (key : String) :
    Table.get? t.data key =
      if t.status = .switched ∧ key = previousFlowKey then some (.str code)
      else if step.saveAs = some key ∧ key ≠ "" then some (.str (step.normalized input))
      else Table.get? data key := by
  rw [(data_of_taken takes ran).2, ← Step.get?_keep, leaving]
  by_cases switched : t.status = .switched
  · rw [if_pos switched, Table.get?_set]
    by_cases marker : previousFlowKey = key
    · rw [if_pos marker, if_pos ⟨switched, marker.symm⟩]
    · rw [if_neg marker, if_neg fun both => marker both.2.symm]
  · rw [if_neg switched, if_neg fun both => switched both.1]

/-! ## Positions that stay -/

/-- The position after a turn that stays is the one before, if it has a start and names the step by
its id. -/
theorem Stays.after_eq (stays : t.Stays p step) (set : p.isSet = true)
    (started : p.startedAt.isSome = true) (byId : p.step = some step.id) (now : Stamp) :
    p.after t.move now = some p := by
  obtain ⟨start, begun⟩ := Option.isSome_iff_exists.1 started
  obtain ⟨inFlow, named⟩ := Bool.and_eq_true_iff.1 set
  rw [byId] at named
  have open_ : (t.move.completed || !Position.isNamed t.move.step) = false := by
    show (t.isCompleted || !Position.isNamed t.step) = false
    rw [stays.unfinished, stays.step, named]
    rfl
  have same : p.flowAfter t.move.flow = p.flow := by
    show (if Position.isNamed (some t.flow) then some t.flow else p.flow) = p.flow
    rw [stays.flow, if_pos inFlow]
  unfold Position.after
  rw [open_, if_neg (by decide)]
  dsimp only
  rw [same, Position.startAfter, if_pos rfl, begun, Option.getD_some]
  show some (⟨p.flow, t.step, t.data, some start⟩ : Position) = some p
  rw [stays.step, stays.data, ← byId, ← begun]

end Turn

/-- An answer that arrives: what was sent, by whom, when, and what can be looked up then. -/
structure Arrival where
  address : Address
  input : String
  kind : InputKind
  now : Stamp
  backend : Backend

/-- The turn of an answer that arrives at a position. -/
def Arrival.turn? (a : Arrival) (registry : Registry) (p : Position) : Except Fault (Option Turn) :=
  (runFrom a.backend (Turn.answer registry a.address p a.input (.ok a.kind))).1

/-- The position after an answer that arrives; none when there is no turn or the flow has ended. -/
def Position.meet (registry : Registry) (p : Position) (a : Arrival) : Option Position :=
  match a.turn? registry p with
  | .ok (some t) => p.after t.move a.now
  | _ => none

/-- **Any number of refused answers** leaves a position as it is. -/
theorem Position.meetAll_eq {registry : Registry} {p : Position} {code : String} {flow : Flow}
    {step : Step} (waits : p.WaitsAt registry code flow step)
    (started : p.startedAt.isSome = true) (byId : p.step = some step.id) (arrivals : List Arrival)
    (refused : ∀ a ∈ arrivals, step.Refuses a.kind a.input ∧
      ∃ t, a.turn? registry p = .ok (some t)) :
    arrivals.foldlM (Position.meet registry) p = some p := by
  induction arrivals with
  | nil => rfl
  | cons a rest ih =>
    obtain ⟨⟨refuses, t, turned⟩, others⟩ := List.forall_mem_cons.1 refused
    have ran : runFrom a.backend (Turn.answer registry a.address p a.input (.ok a.kind)) =
        (.ok (some t), _) := Prod.ext turned rfl
    rw [Turn.answer_eq_respond waits.inFlow byId waits.set waits.registered
      (byId ▸ waits.found : flow.step? ((some step.id).getD "") = some step)] at ran
    have stays := (Turn.stays_of_refused waits.inFlow refuses ran).2
    have same : Position.meet registry p a = some p := by
      unfold Position.meet
      rw [turned]
      exact stays.after_eq waits.set started byId a.now
    rw [List.foldlM_cons, same]
    exact ih others

/-- **What a turn may change.** Whenever an answer at a position gives a turn, the position waits at
a step of a registered flow. If the step does not accept the kind of the answer the turn asks again,
and else if the answer does not pass the check the turn complains; either way it stays where it is,
and if the position has a start and names the step by its id, the position after any number of such
answers is the position itself. Every other answer goes on, and all that was learned stays as it was
but for the answer under the key of the step, and then the flow that was left when the turn
switches. -/
theorem Turn.changes_of_answer {registry : Registry} {address : Address} {p : Position}
    {input : String} {kind : InputKind} {b c : Backend} {t : Turn}
    (ran : runFrom b (Turn.answer registry address p input (.ok kind)) = (.ok (some t), c)) :
    ∃ code flow step, p.WaitsAt registry code flow step ∧
      (step.expects.accepts kind = false → t.status = .reprompted ∧ t.Stays p step) ∧
      (step.expects.accepts kind = true → step.check (step.normalized input) = .ok false →
        t.status = .invalidInput ∧ t.Stays p step) ∧
      (p.startedAt.isSome = true → p.step = some step.id → ∀ arrivals : List Arrival,
        (∀ a ∈ arrivals, step.Refuses a.kind a.input ∧ ∃ t, a.turn? registry p = .ok (some t)) →
          arrivals.foldlM (Position.meet registry) p = some p) ∧
      (¬ step.Refuses kind input →
        t.status ∈ [Status.completed, .transferred, .switched, .advanced] ∧
        ∀ key, Table.get? t.data key =
          if t.status = .switched ∧ key = previousFlowKey then some (.str code)
          else if step.saveAs = some key ∧ key ≠ "" then some (.str (step.normalized input))
          else Table.get? p.data key) := by
  obtain ⟨code, flow, step, waits, ran⟩ := waitsAt_of_answer ran
  refine ⟨code, flow, step, waits, fun wrong => ?_, fun accepts fails => ?_,
    fun started byId arrivals refused => ?_, fun takes => ?_⟩
  · obtain ⟨status, stays⟩ := stays_of_refused waits.inFlow (.inl wrong) ran
    rw [wrong, if_neg (by decide)] at status
    exact ⟨status, stays⟩
  · obtain ⟨status, stays⟩ := stays_of_refused waits.inFlow (.inr fails) ran
    rw [accepts, if_pos rfl] at status
    exact ⟨status, stays⟩
  · exact Position.meetAll_eq waits started byId arrivals refused
  · exact ⟨(data_of_taken takes ran).1, get?_data_of_taken takes ran⟩

/-- A step that keeps an answer that is not empty. -/
def opinion : Step where
  id := "ask"
  prompt := .fixed (.ofText "What do you think?")
  expects := .text
  validator := some fun answer => .ok (answer ≠ "")
  saveAs := some "opinion"

/-- A flow of that step. -/
def poll : Flow where
  name := "poll"
  description := ""
  steps := [("ask", opinion)]
  initial := "ask"
  minutes := 20
  has_initial := rfl
  minutes_pos := by decide

/-- A customer who is asked. -/
def asked : Position := ⟨some "poll", some "ask", [], some ⟨0, none⟩⟩

theorem eq_of_waitsAt_asked {code : String} {flow : Flow} {step : Step}
    (waits : asked.WaitsAt [("poll", poll)] code flow step) : code = "poll" ∧ step = opinion := by
  obtain ⟨-, inFlow, registered, found⟩ := waits
  cases inFlow
  cases registered
  cases found
  exact ⟨rfl, rfl⟩

theorem changes_of_answer_asked :
    ∃ u t b c,
      runFrom {} (Turn.answer [("poll", poll)] ⟨"549", none⟩ asked "" (.ok .text)) =
        (.ok (some u), b) ∧ u.status = .invalidInput ∧ u.Stays asked opinion ∧
      runFrom {} (Turn.answer [("poll", poll)] ⟨"549", none⟩ asked "fine" (.ok .text)) =
        (.ok (some t), c) ∧ t.status = .completed ∧
      ∀ key, Table.get? t.data key = if key = "opinion" then some (.str "fine") else none := by
  obtain ⟨u, b, refused⟩ : ∃ u b,
      runFrom {} (Turn.answer [("poll", poll)] ⟨"549", none⟩ asked "" (.ok .text)) =
        (.ok (some u), b) := ⟨_, _, rfl⟩
  obtain ⟨t, c, taken, completed⟩ : ∃ t c,
      runFrom {} (Turn.answer [("poll", poll)] ⟨"549", none⟩ asked "fine" (.ok .text)) =
        (.ok (some t), c) ∧ t.status = .completed := ⟨_, _, rfl, rfl⟩
  obtain ⟨code, flow, step, waits, -, complains, -, -⟩ := Turn.changes_of_answer refused
  obtain ⟨rfl, rfl⟩ := eq_of_waitsAt_asked waits
  obtain ⟨code, flow, step, waits, -, -, -, learns⟩ := Turn.changes_of_answer taken
  obtain ⟨rfl, rfl⟩ := eq_of_waitsAt_asked waits
  obtain ⟨status, stays⟩ := complains rfl rfl
  have takes : ¬ opinion.Refuses .text "fine" := by
    rintro (wrong | fails)
    · exact absurd wrong (by decide)
    · exact absurd (Except.ok.inj fails) (by decide)
  refine ⟨u, t, b, c, refused, status, stays, taken, completed, fun key => ?_⟩
  rw [(learns takes).2 key, completed, if_neg (by simp)]
  by_cases same : key = "opinion"
  · subst same
    rfl
  · rw [if_neg same, if_neg (by rintro ⟨eq, -⟩; cases eq; exact same rfl)]
    rfl

end Dialogue
