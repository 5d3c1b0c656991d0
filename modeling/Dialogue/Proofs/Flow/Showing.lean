import Dialogue.Proofs.Flow.Prompts

/-!
# What turns show

The message of a turn shows the prompt of a step, perhaps below a notice, or a text of the bot's
own. So what holds of shown prompts and of texts holds of the messages of turns. Which turn it was
can be told from the status: a turn that begins a flow is called started, and no answer is.

Main statements: `gives_start` and `gives_answer`; `status_of_start` and `status_of_answer`, what
they say about the status alone.
-/

namespace Dialogue.Turn

open Effect Lookup

variable {P : Prompt → Prop} {M : Message → Prop} {address : Address}

/-- Where prompts have the property `P`, what shows them has the property `M`, and so have texts. -/
structure Displays (P : Prompt → Prop) (M : Message → Prop) (address : Address) : Prop where
  prompt : ∀ step : Step, P step.prompt → ∀ data, Gives M (render address step data)
  text : ∀ body message, Message.ofText address.recipient body address.via = .ok message → M message
  notice : ∀ notice message, M message → M (message.withNotice notice)

/-- If there is a turn, its message and its status have properties. -/
def Has (M : Message → Prop) (S : Status → Prop) (t? : Option Turn) : Prop :=
  ∀ t ∈ t?, M t.message ∧ S t.status

variable {S : Status → Prop}

theorem has_some {t : Turn} (message : M t.message) (status : S t.status) : Has M S (some t) := by
  rintro _ ⟨⟩
  exact ⟨message, status⟩

theorem gives_note_none (e : Event) : Gives (Has M S) (do Lookup.note e; return none) :=
  gives_bind_of_last fun _ => gives_pure nofun

theorem gives_some {x : Lookup Turn} (gives : Gives (fun t => M t.message ∧ S t.status) x) :
    Gives (Has M S) (some <$> x) := by
  rw [← bind_pure_comp]
  exact gives_bind gives fun t both => gives_pure (has_some both.1 both.2)

variable {registry : Registry} (displays : Displays P M address)

include displays

/-- **Starting a flow** shows a prompt, and is called so. -/
theorem gives_start (every : registry.EveryPrompt P) (code : Option String) (data : Fields) :
    Gives (Has M (· = .started)) (start registry address code data) := by
  unfold start
  split
  · exact gives_note_none _
  · next flow found =>
    obtain ⟨name, -, found⟩ := Option.bind_eq_some_iff.1 found
    exact gives_bind (displays.prompt _ (every.flow? found).initialStep data) fun message shown =>
      gives_bind_of_last fun _ => gives_pure (has_some shown rfl)

theorem gives_closing {status : Status} (later : status ≠ .started) (e : Event)
    (body code : String) (data : Fields) :
    Gives (fun t => M t.message ∧ t.status ≠ .started) (do
      Lookup.note e
      let message ← Lookup.ofExcept (Message.ofText address.recipient body address.via)
      return (⟨status, message, code, none, data⟩ : Turn)) :=
  gives_bind_of_last fun _ => gives_bind (gives_ofExcept (displays.text body)) fun _ shown =>
    gives_pure ⟨shown, later⟩

theorem gives_follow (every : registry.EveryPrompt P) (code : String) {flow : Flow}
    (everyStep : flow.EveryPrompt P) (data : Fields) (outcome : Outcome) :
    Gives (Has M (· ≠ .started)) (follow registry address code flow data outcome) := by
  unfold follow
  cases outcome with
  | complete => exact gives_some (gives_closing displays (by decide) _ _ _ _)
  | transfer => exact gives_some (gives_closing displays (by decide) _ _ _ _)
  | switchTo target =>
    dsimp only
    unfold switch
    split
    · exact gives_note_none _
    · next other found =>
      exact gives_bind (displays.prompt _ (every.flow? found).initialStep _) fun message shown =>
        gives_bind_of_last fun _ => gives_pure (has_some shown nofun)
  | next key =>
    dsimp only
    split
    · next step found =>
      refine gives_some (gives_bind (displays.prompt _ (everyStep.step? found) data)
        fun message shown => ?_)
      split
      · exact gives_bind_of_last fun _ => gives_pure ⟨shown, nofun⟩
      · exact gives_bind_of_last fun _ => gives_pure ⟨shown, nofun⟩
    · exact gives_bind_of_last fun _ => gives_some (gives_closing displays (by decide) _ _ _ _)

theorem gives_restate (code : String) {step : Step} (shown : P step.prompt) (data : Fields)
    {status : Status} (named : S status) (notice : Option String) :
    Gives (Has M S) (do return some (← restate address code step data status notice)) := by
  have restated : Gives (fun t : Turn => M t.message ∧ S t.status)
      (restate address code step data status notice) := by
    refine gives_bind (displays.prompt step shown data) fun message shown =>
      gives_bind_of_last fun _ => gives_pure ⟨?_, named⟩
    cases notice with
    | none => exact shown
    | some notice => exact displays.notice notice message shown
  exact gives_bind restated fun t both => gives_pure (has_some both.1 both.2)

theorem gives_respond (every : registry.EveryPrompt P) (code : String) {flow : Flow}
    (everyStep : flow.EveryPrompt P) {step : Step} (shown : P step.prompt) (data : Fields)
    (answer : String) (kind : InputKind) :
    Gives (Has M (· ≠ .started)) (respond registry address code flow step data answer kind) := by
  unfold respond
  split
  · exact gives_restate displays code shown data nofun _
  · refine gives_bind_of_last fun passes => ?_
    split
    · exact gives_restate displays code shown data nofun _
    · exact gives_follow displays every code everyStep _ _

/-- **Answering a step** shows a prompt or says something, and is never called starting. -/
theorem gives_answer (every : registry.EveryPrompt P) (p : Position) (input : String)
    (kind : Except Fault InputKind) :
    Gives (Has M (· ≠ .started)) (answer registry address p input kind) := by
  unfold answer
  split
  · exact gives_pure nofun
  · dsimp only
    split
    · exact gives_note_none _
    · next flow found =>
      split
      · exact gives_note_none _
      · next step answered =>
        have everyStep := every.flow? found
        exact gives_bind_of_last fun _ =>
          gives_respond displays every _ everyStep (everyStep.step? answered) _ _ _

omit displays

/-! ## The status alone -/

theorem displays_anything (address : Address) : Displays (fun _ => True) (fun _ => True) address :=
  ⟨fun _ _ _ _ _ _ _ => trivial, fun _ _ _ => trivial, fun _ _ _ => trivial⟩

variable {b c : Backend} {t : Turn} {data : Fields}

theorem status_of_start {code : Option String}
    (ran : runFrom b (start registry address code data) = (.ok (some t), c)) :
    t.status = .started :=
  (gives_start (displays_anything address) (fun _ _ _ _ _ => trivial) code data ran t rfl).2

theorem status_of_answer {p : Position} {input : String} {kind : Except Fault InputKind}
    (ran : runFrom b (answer registry address p input kind) = (.ok (some t), c)) :
    t.status ≠ .started :=
  (gives_answer (displays_anything address) (fun _ _ _ _ _ => trivial) p input kind ran t rfl).2

end Dialogue.Turn
