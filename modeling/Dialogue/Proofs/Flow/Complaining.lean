import Dialogue.Proofs.Content.Noticing
import Dialogue.Proofs.Flow.Changing
import Dialogue.Proofs.Flow.Making

/-!
# Complaining about an answer

An answer of the right kind that does not pass the check is complained about: the step is shown
again below its error text, or below a general one. The step stays answerable, because a notice
changes nothing but the text of what is shown, so all that could be tapped can be tapped again.

Main statements: `complains_of_respond`, what the message is; and `answerable_of_complaint`.
-/

namespace Dialogue

open Effect

/-! ## What is delivered -/

namespace Content

theorem isMade_deliverable {c : Content} (made : c.IsMade) : c.deliverable.IsMade := by
  cases c with
  | text body => exact made
  | buttons frame choices | list frame label sections =>
    dsimp only [deliverable]
    split
    · exact .text _
    · exact made

/-- The sections of a made list have rows. -/
theorem eq_nil_of_made {frame : Frame} {label : String} {sections : List Section}
    (made : (list frame label sections).IsMade) (empty : rowCount sections = 0) :
    sections = [] := by
  generalize same : list frame label sections = c at made
  cases made with
  | text body => cases same
  | buttons body header footer each => cases same
  | @list body header footer label' all each =>
    cases same
    refine List.eq_nil_iff_forall_not_mem.2 fun s mem => rows_ne_nil_of_mem_keepRows mem ?_
    exact List.flatMap_eq_nil_iff.1 (List.length_eq_zero_iff.1 empty) s mem

/-- What is delivered of a made content offers the same. -/
theorem choices_deliverable {c : Content} (made : c.IsMade) :
    c.deliverable.choices = c.choices := by
  cases c with
  | text body => rfl
  | buttons frame choices =>
    dsimp only [deliverable]
    split
    · next empty =>
      rw [List.isEmpty_iff.1 empty]
      rfl
    · rfl
  | list frame label sections =>
    dsimp only [deliverable]
    split
    · next empty =>
      rw [eq_nil_of_made made empty]
      rfl
    · rfl

end Content

/-! ## The message -/

namespace Turn

variable {registry : Registry} {address : Address} {b c : Backend} {code : String} {flow : Flow}
  {step : Step} {data : Fields} {t : Turn}

theorem message_of_restate {status : Status} {notice : String}
    (ran : runFrom b (restate address code step data status (some notice)) = (.ok t, c)) :
    t.status = status ∧ ∃ message d,
      runFrom b (render address step data) = (.ok message, d) ∧
        t.message = message.withNotice notice := by
  unfold restate at ran
  obtain ⟨message, d, shown, ran⟩ := runFrom_bind_eq_ok_iff.1 ran
  obtain ⟨-, e, -, ran⟩ := runFrom_bind_eq_ok_iff.1 ran
  cases ran
  exact ⟨rfl, message, d, shown, rfl⟩

/-- **A turn that complains** was given an answer that does not pass the check, and its message is
that of the step below what is said about it. -/
theorem complains_of_respond {input : String} {kind : InputKind}
    (ran : runFrom b (respond registry address code flow step data input kind) =
      (.ok (some t), c)) (invalid : t.status = .invalidInput) :
    step.expects.accepts kind = true ∧ step.check (step.normalized input) = .ok false ∧
      ∃ message d, runFrom b (render address step data) = (.ok message, d) ∧
        t.message = message.withNotice (complaint step) := by
  by_cases refuses : step.Refuses kind input
  · unfold respond at ran
    cases accepts : step.expects.accepts kind with
    | false =>
      rw [accepts, if_pos (by decide)] at ran
      obtain ⟨u, d, restated, ran⟩ := runFrom_bind_eq_ok_iff.1 ran
      cases ran
      obtain ⟨message, rfl⟩ := eq_of_restate restated
      cases invalid
    | true =>
      have fails := refuses.resolve_left (by simp [accepts])
      rw [accepts, if_neg (by decide)] at ran
      dsimp only at ran
      rw [fails] at ran
      obtain ⟨passes, d, checked, ran⟩ := runFrom_bind_eq_ok_iff.1 ran
      cases checked
      obtain ⟨u, d, restated, ran⟩ := runFrom_bind_eq_ok_iff.1 ran
      cases ran
      exact ⟨rfl, fails, (message_of_restate restated).2⟩
  · have goes := (data_of_taken refuses ran).1
    rw [invalid] at goes
    exact absurd goes (by decide)

/-- The message that shows a step, from its content. -/
theorem content_of_render {message : Message} {d : Backend}
    (shown : runFrom b (render address step data) = (.ok message, d)) :
    ∃ content, runFrom b (step.content data) = (.ok content, d) ∧
      message = ⟨address.recipient, content.deliverable, address.via⟩ := by
  unfold render Step.render at shown
  obtain ⟨content, e, found, made⟩ := runFrom_bind_eq_ok_iff.1 shown
  obtain ⟨made, rfl⟩ := Prod.mk.inj made
  refine ⟨content, found, ?_⟩
  unfold Message.make at made
  split at made
  · cases made
  · cases made
    rfl

end Turn

/-- A text that is cut begins with what is cut of its beginning. -/
theorem Text.clip_prefix (limit : Nat) (text rest : String) :
    (clip limit text).toList <+: (clip limit (text ++ rest)).toList := by
  rw [toList_clip, toList_clip, String.toList_append]
  exact (List.prefix_append text.toList rest.toList).take limit

/-- **A complaint leaves the question answerable.** A notice above a message that was made changes
its text alone: the text is then the notice, an empty line and the old text, as far as there is room
for them, and this is what is read when the content is written down with the new text. So a turn
that complains about an answer shows the content of the step below what is said about the answer: it
offers what the step offers, and its text begins with the error text of the step or with the general
one. -/
theorem answerable_of_complaint :
    (∀ (m : Message) (notice : String), m.content.IsMade →
      m.withNotice notice =
        ⟨m.recipient, m.content.withBody
          (Text.clip m.content.room (notice ++ "\n\n" ++ m.content.body)), m.via⟩ ∧
      ∃ fields, m.content.toJson = .obj fields ∧
        Content.read (.obj (Table.set fields "body"
          (.str (notice ++ "\n\n" ++ m.content.body)))) = .good (m.withNotice notice).content) ∧
    ∀ (registry : Registry) (address : Address) (p : Position) (input : String)
      (kind : InputKind) (b c : Backend) (t : Turn), registry.EveryPrompt Prompt.Makes →
      runFrom b (Turn.answer registry address p input (.ok kind)) = (.ok (some t), c) →
      t.status = .invalidInput →
      ∃ code flow step content d, p.WaitsAt registry code flow step ∧
        step.check (step.normalized input) = .ok false ∧
        runFrom b (step.content p.data) = (.ok content, d) ∧
        t.message = ⟨address.recipient, content.deliverable.withBody
          (Text.clip content.deliverable.room
            (Turn.complaint step ++ "\n\n" ++ content.deliverable.body)), address.via⟩ ∧
        t.message.content.choices = content.choices ∧
        (Text.clip t.message.content.room (Turn.complaint step)).toList <+:
          t.message.content.body.toList := by
  have noticed (m : Message) (notice : String) (made : m.content.IsMade) :
      m.withNotice notice =
        ⟨m.recipient, m.content.withBody
          (Text.clip m.content.room (notice ++ "\n\n" ++ m.content.body)), m.via⟩ := by
    rw [← Content.withNotice_of_isMade made]
    rfl
  refine ⟨fun m notice made => ⟨noticed m notice made, Content.read_rewritten m.content notice⟩, ?_⟩
  intro registry address p input kind b c t makes ran invalid
  obtain ⟨code, flow, step, waits, ran⟩ := Turn.waitsAt_of_answer ran
  obtain ⟨-, fails, message, d, shown, said⟩ := Turn.complains_of_respond ran invalid
  obtain ⟨content, found, rfl⟩ := Turn.content_of_render shown
  have made : content.IsMade :=
    Turn.gives_content ((makes.flow? waits.registered).step? waits.found) p.data found
  rw [noticed _ _ (Content.isMade_deliverable made)] at said
  refine ⟨code, flow, step, content, d, waits, fails, found, said, ?_, ?_⟩
  · rw [said, Content.choices_withBody, Content.choices_deliverable made]
  · rw [said, Content.body_withBody, Content.room_withBody, String.append_assoc]
    exact Text.clip_prefix _ _ _

/-- A step that offers a button and checks the answer. -/
def offer : Step where
  id := "ask"
  prompt := .fixed (.ofButtons (Frame.of "Shall we call you?" none none) [Button.of "yes" "Yes"])
  expects := .any
  validator := some fun answer => .ok (answer = "yes")
  errorText := some "Please tap the button."

/-- A flow of that step. -/
def callBack : Flow where
  name := "callback"
  description := ""
  steps := [("ask", offer)]
  initial := "ask"
  minutes := Flow.halfHour
  has_initial := rfl
  minutes_pos := Flow.halfHour_pos

theorem answerable_of_complaint_offer :
    Registry.EveryPrompt Prompt.Makes [("callback", callBack)] ∧
      ∃ t c, runFrom {} (Turn.answer [("callback", callBack)] ⟨"549", none⟩
          ⟨some "callback", some "ask", [], some ⟨0, none⟩⟩ "maybe" (.ok .text)) =
            (.ok (some t), c) ∧
        t.status = .invalidInput ∧
        t.message.content.choices = ([Button.of "yes" "Yes"], []) ∧
        (Text.clip t.message.content.room "Please tap the button.").toList <+:
          t.message.content.body.toList := by
  have makes : Registry.EveryPrompt Prompt.Makes [("callback", callBack)] := by
    refine Registry.everyPrompt_of_mem fun entry mem step listed => ?_
    rw [List.mem_singleton.1 mem] at listed
    rw [List.mem_singleton.1 listed]
    exact .buttons _ _ _ (by simp [Catalogue.buttonMade_of])
  obtain ⟨t, c, ran, invalid⟩ : ∃ t c, runFrom {} (Turn.answer [("callback", callBack)]
      ⟨"549", none⟩ ⟨some "callback", some "ask", [], some ⟨0, none⟩⟩ "maybe" (.ok .text)) =
        (.ok (some t), c) ∧ t.status = .invalidInput := ⟨_, _, rfl, rfl⟩
  obtain ⟨code, flow, step, content, d, waits, -, found, -, choices, begins⟩ :=
    answerable_of_complaint.2 _ _ _ _ _ _ _ _ makes ran invalid
  cases waits.inFlow
  cases waits.registered
  cases waits.found
  cases found
  exact ⟨makes, t, c, ran, invalid, choices, begins⟩

end Dialogue
