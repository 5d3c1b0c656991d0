import Dialogue.Flow.Turn
import Dialogue.Proofs.Effect

/-!
# What turns leave

A turn that does not end its flow *stands*: it shows a step of a registered flow, and it names the
flow and the id of the step. The position after such a turn is where the next answer is taken, at
whatever step has that id as its name.

Main statements: `stands_of_start` and `settled_of_answer`, unfinished turns stand, and
`answer_eq_respond`, at which step an answer is taken.
-/

namespace Dialogue

open Effect

/-- A flow that is found is registered under its code. -/
theorem Registry.mem_of_flow? {registry : Registry} {code : String} {flow : Flow}
    (found : registry.flow? code = some flow) : (code, flow) ∈ registry := by
  unfold Registry.flow? at found
  split at found
  · cases found
  · exact Table.mem_of_get? found

namespace Turn

variable {registry : Registry} {address : Address} {b c : Backend} {code : String} {flow : Flow}
  {data : Fields} {t : Turn}

/-- The message of a turn renders a step, with a notice or without one. -/
def Shows (b : Backend) (address : Address) (t : Turn) (step : Step) : Prop :=
  ∃ m c, runFrom b (render address step t.data) = (.ok m, c) ∧
    (t.message = m ∨ ∃ notice, t.message = m.withNotice notice)

/-- A turn shows a step of a registered flow and waits for an answer under the id of the step. -/
structure Stands (registry : Registry) (b : Backend) (address : Address) (t : Turn) (flow : Flow)
    (name : String) (step : Step) : Prop where
  registered : registry.flow? t.flow = some flow
  found : flow.step? name = some step
  waits : t.step = some step.id
  shows : t.Shows b address step

theorem ne_empty_of_flow? (found : registry.flow? code = some flow) : code ≠ "" := by
  rintro rfl
  simp [Registry.flow?] at found

/-- Noting an event and giving nothing gives no turn. -/
theorem note_none_ne (e : Event) :
    runFrom b (do Lookup.note e; return none) ≠ (.ok (some t), c) := by
  intro ran
  obtain ⟨-, d, -, ran⟩ := runFrom_bind_eq_ok_iff.1 ran
  cases ran

/-! ## Starting and switching -/

theorem stands_of_render {status : Status} {message : Message} {step : Step} {name : String}
    (registered : registry.flow? code = some flow) (found : flow.step? name = some step)
    (shown : runFrom b (render address step data) = (.ok message, c)) :
    Stands registry b address ⟨status, message, code, some step.id, data⟩ flow name step :=
  ⟨registered, found, rfl, message, c, shown, .inl rfl⟩

/-- **Starting** a registered flow shows its initial step. -/
theorem start_eq (registered : registry.flow? code = some flow) (address : Address)
    (data : Fields) :
    start registry address (some code) data = do
      let message ← render address flow.initialStep data
      Lookup.note (.turn code "started")
      return some ⟨.started, message, code, some flow.initialStep.id, data⟩ := by
  unfold start
  rw [Option.bind_some, registered]
  rfl

theorem stands_of_start {start? : Option String}
    (ran : runFrom b (start registry address start? data) = (.ok (some t), c)) :
    t.isCompleted = false ∧
      ∃ flow, t.Stands registry b address flow flow.initial flow.initialStep := by
  cases start? with
  | none => exact absurd ran (note_none_ne _)
  | some code =>
    cases registered : registry.flow? code with
    | none =>
      rw [start, Option.bind_some, registered] at ran
      exact absurd ran (note_none_ne _)
    | some flow =>
      rw [start_eq registered] at ran
      obtain ⟨message, d, shown, ran⟩ := runFrom_bind_eq_ok_iff.1 ran
      obtain ⟨-, e, -, ran⟩ := runFrom_bind_eq_ok_iff.1 ran
      cases ran
      exact ⟨rfl, flow, stands_of_render registered flow.step?_initial shown⟩

theorem stands_of_switch {target : String}
    (ran : runFrom b (switch registry address code target data) = (.ok (some t), c)) :
    ∃ flow, t.Stands registry b address flow flow.initial flow.initialStep := by
  unfold switch at ran
  cases registered : registry.flow? target with
  | none =>
    rw [registered] at ran
    exact absurd ran (note_none_ne _)
  | some flow =>
    rw [registered] at ran
    obtain ⟨message, d, shown, ran⟩ := runFrom_bind_eq_ok_iff.1 ran
    obtain ⟨-, e, -, ran⟩ := runFrom_bind_eq_ok_iff.1 ran
    cases ran
    exact ⟨flow, stands_of_render registered flow.step?_initial shown⟩

/-! ## Answering -/

/-- A turn that closes a flow has the status that it is closed with. -/
theorem status_of_closing {status : Status} {e : Event} {made : Except Fault Message}
    (ran : runFrom b (do
        Lookup.note e
        let message ← Lookup.ofExcept made
        return (⟨status, message, code, none, data⟩ : Turn)) = (.ok t, c)) :
    t.status = status := by
  obtain ⟨-, d, -, ran⟩ := runFrom_bind_eq_ok_iff.1 ran
  obtain ⟨message, e, -, ran⟩ := runFrom_bind_eq_ok_iff.1 ran
  cases ran
  rfl

theorem isCompleted_of_complete (ran : runFrom b (complete address code data) = (.ok t, c)) :
    t.isCompleted = true := (isCompleted_iff t).2 (.inl (status_of_closing ran))

theorem isCompleted_of_transfer (ran : runFrom b (transfer address code data) = (.ok t, c)) :
    t.isCompleted = true := (isCompleted_iff t).2 (.inr (status_of_closing ran))

theorem stands_of_advance {step : Step} {name : String}
    (registered : registry.flow? code = some flow) (found : flow.step? name = some step)
    (ran : runFrom b (advance address code step data) = (.ok t, c)) :
    t.isCompleted = true ∨ t.Stands registry b address flow name step := by
  unfold advance at ran
  obtain ⟨message, d, shown, ran⟩ := runFrom_bind_eq_ok_iff.1 ran
  split at ran
  · obtain ⟨-, e, -, ran⟩ := runFrom_bind_eq_ok_iff.1 ran
    cases ran
    exact .inl rfl
  · obtain ⟨-, e, -, ran⟩ := runFrom_bind_eq_ok_iff.1 ran
    cases ran
    exact .inr (stands_of_render registered found shown)

theorem stands_of_restate {step : Step} {name : String} {status : Status} {notice : Option String}
    (registered : registry.flow? code = some flow) (found : flow.step? name = some step)
    (ran : runFrom b (restate address code step data status notice) = (.ok t, c)) :
    t.Stands registry b address flow name step := by
  unfold restate at ran
  obtain ⟨message, d, shown, ran⟩ := runFrom_bind_eq_ok_iff.1 ran
  obtain ⟨-, e, -, ran⟩ := runFrom_bind_eq_ok_iff.1 ran
  cases notice with
  | none =>
    cases ran
    exact stands_of_render registered found shown
  | some notice =>
    cases ran
    exact ⟨registered, found, rfl, message, d, shown, .inr ⟨notice, rfl⟩⟩

/-- A turn that has ended its flow, or that stands. -/
def Settled (registry : Registry) (b : Backend) (address : Address) (t : Turn) : Prop :=
  t.isCompleted = true ∨ ∃ flow name step, t.Stands registry b address flow name step

theorem settled_of_follow {outcome : Outcome} (registered : registry.flow? code = some flow)
    (ran : runFrom b (follow registry address code flow data outcome) = (.ok (some t), c)) :
    t.Settled registry b address := by
  cases outcome with
  | complete =>
    rw [follow, ← bind_pure_comp] at ran
    obtain ⟨u, d, ended, ran⟩ := runFrom_bind_eq_ok_iff.1 ran
    cases ran
    exact .inl (isCompleted_of_complete ended)
  | transfer =>
    rw [follow, ← bind_pure_comp] at ran
    obtain ⟨u, d, ended, ran⟩ := runFrom_bind_eq_ok_iff.1 ran
    cases ran
    exact .inl (isCompleted_of_transfer ended)
  | switchTo target =>
    obtain ⟨flow, stands⟩ := stands_of_switch ran
    exact .inr ⟨flow, _, _, stands⟩
  | next key =>
    rw [follow] at ran
    cases found : flow.step? key with
    | some step =>
      rw [found, ← bind_pure_comp] at ran
      obtain ⟨u, d, advanced, ran⟩ := runFrom_bind_eq_ok_iff.1 ran
      cases ran
      exact (stands_of_advance registered found advanced).imp_right fun stands =>
        ⟨flow, key, step, stands⟩
    | none =>
      rw [found, ← bind_pure_comp] at ran
      obtain ⟨-, d, -, ran⟩ := runFrom_bind_eq_ok_iff.1 ran
      obtain ⟨u, e, ended, ran⟩ := runFrom_bind_eq_ok_iff.1 ran
      cases ran
      exact .inl (isCompleted_of_complete ended)

theorem settled_of_respond {step : Step} {name answer : String} {kind : InputKind}
    (registered : registry.flow? code = some flow) (found : flow.step? name = some step)
    (ran : runFrom b (respond registry address code flow step data answer kind) =
      (.ok (some t), c)) : t.Settled registry b address := by
  unfold respond at ran
  split at ran
  · obtain ⟨u, d, restated, ran⟩ := runFrom_bind_eq_ok_iff.1 ran
    cases ran
    exact .inr ⟨flow, name, step, stands_of_restate registered found restated⟩
  · obtain ⟨passes, d, checked, ran⟩ := runFrom_bind_eq_ok_iff.1 ran
    obtain rfl : b = d := (Prod.mk.inj checked).2
    split at ran
    · obtain ⟨u, d, restated, ran⟩ := runFrom_bind_eq_ok_iff.1 ran
      cases ran
      exact .inr ⟨flow, name, step, stands_of_restate registered found restated⟩
    · exact settled_of_follow registered ran

/-- **An answer** ends the flow, or its turn stands. -/
theorem settled_of_answer {p : Position} {answer : String} {kind : Except Fault InputKind}
    (ran : runFrom b (Turn.answer registry address p answer kind) = (.ok (some t), c)) :
    t.Settled registry b address := by
  unfold Turn.answer at ran
  split at ran
  · cases ran
  · cases registered : registry.flow? (p.flow.getD "") with
    | none =>
      simp only [registered] at ran
      exact absurd ran (note_none_ne _)
    | some flow =>
      cases found : flow.step? (p.step.getD "") with
      | none =>
        simp only [registered, found] at ran
        exact absurd ran (note_none_ne _)
      | some step =>
        simp only [registered, found] at ran
        obtain ⟨kind, d, given, ran⟩ := runFrom_bind_eq_ok_iff.1 ran
        cases given
        exact settled_of_respond registered found ran

/-! ## The position after a turn -/

/-- An answer is taken at the step that the position names. -/
theorem answer_eq_respond {p : Position} {name : String} {step : Step}
    (atFlow : p.flow = some code) (atStep : p.step = some name) (set : p.isSet = true)
    (registered : registry.flow? code = some flow) (found : flow.step? name = some step)
    (address : Address) (answer : String) (kind : InputKind) :
    Turn.answer registry address p answer (.ok kind) =
      respond registry address code flow step p.data answer kind := by
  unfold Turn.answer
  simp only [atFlow, atStep, set, registered, found, Option.getD_some, Bool.not_true,
    Bool.false_eq_true, if_false]
  rfl

/-- The position after a turn that names its flow and is not finished. -/
theorem after_move {name : String} (unfinished : t.isCompleted = false) (inFlow : t.flow ≠ "")
    (waits : t.step = some name) (named : name ≠ "") (p : Position) (now : Stamp) :
    ∃ q, p.after t.move now = some q ∧ q.flow = some t.flow ∧ q.step = some name ∧
      q.isSet = true := by
  refine ⟨⟨some t.flow, some name, t.data, some (p.startAfter (some t.flow) now)⟩, ?_, rfl, rfl, ?_⟩
  · simp [Position.after, Position.flowAfter, Position.isNamed, move, unfinished, inFlow, waits,
      named]
  · simp [Position.isSet, Position.isNamed, inFlow, named]

/-- What a position after a turn says of the turn. -/
theorem of_after_move {p q : Position} {now : Stamp} (next : p.after t.move now = some q) :
    t.isCompleted = false ∧ q.step = t.step ∧ (t.flow ≠ "" → q.flow = some t.flow) := by
  unfold Position.after at next
  split at next
  · simp at next
  · next open_ =>
    rw [Bool.or_eq_true, not_or, Bool.not_eq_true] at open_
    cases next
    refine ⟨open_.1, rfl, fun inFlow => ?_⟩
    simp [Position.flowAfter, Position.isNamed, move, inFlow]

end Turn

end Dialogue
