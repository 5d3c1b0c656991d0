import Dialogue.Proofs.Conversation.Lazy
import Dialogue.Proofs.Conversation.Telling
import Dialogue.Proofs.Definition.Choosing
import Dialogue.Proofs.Definition.Shelf
import Dialogue.Proofs.Flow.Deadline
import Dialogue.Proofs.Flow.Going
import Dialogue.Proofs.Flow.Making

/-!
# Tapping what was offered

A step offers buttons or rows, one for each of its options, and whoever taps one of them answers
with its id. The ids of buttons are cut to the limit of the channel, those of rows are not. The bot
takes the id without the blanks around it, and compares it with the conditions as they were written.
So an option is followed to the transition that names it whenever its id comes through unchanged.

Main statements: `exists_choice_of_shows`, what can be tapped was built from an option;
`runFrom_answerAt_of_takes`, what is done with an answer; `resolve_of_tapped`.
-/

namespace Dialogue

open Effect Conversation

theorem Text.length_strip_le (s : String) : (strip s).length ≤ s.length := by
  rw [← String.length_toList, ← String.length_toList, toList_strip, trimChars, List.length_reverse]
  refine (List.length_dropWhile_le _ _).trans ?_
  rw [List.length_reverse]
  exact List.length_dropWhile_le _ _

/-! ## What can be tapped -/

/-- A content offers to answer in some way with an id. -/
inductive Content.Offers : Content → InputKind → String → Prop
  | button {frame : Frame} {buttons : List Button} {b : Button} (mem : b ∈ buttons) :
      Offers (.buttons frame buttons) .buttonReply b.id
  | row {frame : Frame} {label : String} {sections : List Section} {r : Row}
      (mem : r ∈ allRows sections) : Offers (.list frame label sections) .listReply r.id

/-- The id that is delivered for an id: those of buttons are cut. -/
def InputKind.delivered : InputKind → String → String
  | .buttonReply, id => Text.clip Limit.buttonId id
  | _, id => id

theorem InputKind.delivered_of_short {kind : InputKind} {id : String}
    (short : kind = .buttonReply → id.length ≤ Limit.buttonId) : kind.delivered id = id := by
  cases kind with
  | buttonReply => exact Text.clip_of_length_le (short rfl)
  | text | listReply | any | nothing => rfl

theorem InputKind.delivered_delivered (kind : InputKind) (id : String) :
    kind.delivered (kind.delivered id) = kind.delivered id := by
  cases kind with
  | buttonReply => exact Text.clip_clip _ id
  | text | listReply | any | nothing => rfl

variable {kind : InputKind} {id : String}

namespace Content

/-- What is delivered offers no more than the content. -/
theorem Offers.of_deliverable {content : Content} (offers : content.deliverable.Offers kind id) :
    content.Offers kind id := by
  cases content with
  | text body => exact offers
  | buttons frame buttons | list frame label sections =>
    dsimp only [deliverable] at offers
    split at offers
    · cases offers
    · exact offers

/-- A notice leaves what can be tapped. -/
theorem Offers.of_withNotice {content : Content} {notice : String}
    (offers : (content.withNotice notice).Offers kind id) :
    ∃ id', content.Offers kind id' ∧ id = kind.delivered id' := by
  cases content with
  | text body => cases offers
  | buttons frame buttons =>
    cases offers with
    | button mem =>
      obtain ⟨b, among, rfl⟩ := List.mem_map.1 (List.mem_of_mem_take mem)
      exact ⟨b.id, .button among, rfl⟩
  | list frame label sections =>
    cases offers with
    | row mem =>
      obtain ⟨s, kept, row⟩ := List.mem_flatMap.1 mem
      obtain ⟨cut, among, places, rfl⟩ := exists_of_mem_keepRows kept
      obtain ⟨s, listed, rfl⟩ := List.mem_map.1 among
      obtain ⟨r, written, rfl⟩ := List.mem_map.1 (List.mem_of_mem_take row)
      exact ⟨r.id, .row (List.mem_flatMap.2 ⟨s, listed, written⟩), rfl⟩

end Content

namespace Definition.Step

variable {s : Step}

theorem mem_sortedChoices {c : Choice} (mem : c ∈ s.sortedChoices) : c ∈ s.choices :=
  s.sortedChoices_perm.mem_iff.1 mem

theorem exists_choice_of_list {choices : List Choice} {frame : Frame} {label : String}
    (offers : (Content.ofList frame label (groupRows (choices.map fun c =>
      (c.sectionTitle, Row.of c.id c.title c.description)))).Offers kind id) :
    ∃ c ∈ choices, id = kind.delivered c.id := by
  cases offers with
  | row mem =>
    obtain ⟨s, kept, row⟩ := List.mem_flatMap.1 mem
    obtain ⟨s, among, places, rfl⟩ := exists_of_mem_keepRows kept
    refine forall_groupRows (P := fun r => ∃ c ∈ choices, r.id = c.id) (fun labelled built => ?_) s
      among _ (List.mem_of_mem_take row)
    obtain ⟨c, listed, rfl⟩ := List.mem_map.1 built
    exact ⟨c, listed, rfl⟩

/-- **What a written content offers** was built from an option of the step. -/
theorem exists_choice_of_written (offers : s.written.Offers kind id) :
    ∃ c ∈ s.choices, id = kind.delivered c.id := by
  unfold written at offers
  dsimp only at offers
  split at offers
  · next c choices _ sorted =>
    cases offers with
    | button mem =>
      obtain ⟨c, listed, rfl⟩ := List.mem_map.1 (List.mem_of_mem_take mem)
      exact ⟨c, mem_sortedChoices (sorted ▸ listed), rfl⟩
  · next c choices _ sorted =>
    obtain ⟨c, mem, same⟩ := exists_choice_of_list offers
    exact ⟨c, mem_sortedChoices (sorted ▸ mem), same⟩
  · next c choices _ sorted =>
    obtain ⟨c, mem, same⟩ := exists_choice_of_list offers
    exact ⟨c, mem_sortedChoices (sorted ▸ mem), same⟩
  · cases offers

/-- **What a turn shows of a step** can be tapped with the delivered ids of its options, whether
there is a notice above it or not. -/
theorem exists_choice_of_shows {t : Turn} {b : Backend} {address : Address} {source : OptionSource}
    (unsourced : present? s.source = none) (shows : t.Shows b address (s.toStep source))
    (offers : t.message.content.Offers kind id) : ∃ c ∈ s.choices, id = kind.delivered c.id := by
  obtain ⟨message, e, rendered, shown⟩ := shows
  have content : message.content = s.written.deliverable := by
    have prompt : (s.toStep source).prompt = .fixed s.written := by
      unfold toStep Step.prompt
      rw [unsourced]
    unfold Turn.render Dialogue.Step.render Dialogue.Step.content at rendered
    rw [prompt] at rendered
    exact Message.content_of_make (Prod.mk.inj rendered).1
  have plain {id : String} (offers : message.content.Offers kind id) :
      ∃ c ∈ s.choices, id = kind.delivered c.id := by
    rw [content] at offers
    exact exists_choice_of_written offers.of_deliverable
  rcases shown with same | ⟨notice, same⟩
  · exact plain (same ▸ offers)
  · rw [same, Message.content_withNotice] at offers
    -- The notice cuts the ids once more, which changes nothing.
    obtain ⟨id', below, rfl⟩ := offers.of_withNotice
    obtain ⟨c, mem, rfl⟩ := plain below
    exact ⟨c, mem, kind.delivered_delivered c.id⟩

end Definition.Step

/-! ## What is done with an answer -/

/-- An answer that is taken is followed to where the step leads. -/
theorem Turn.respond_eq_follow {step : Step} {input : String} (takes : step.Takes kind input)
    (registry : Registry) (address : Address) (code : String) (flow : Flow) (data : Fields) :
    respond registry address code flow step data input kind =
      follow registry address code flow (step.keep (step.normalized input) data)
        (step.rule.resolve (step.normalized input) (step.keep (step.normalized input) data)) := by
  unfold respond
  rw [takes.accepts, if_neg (by decide)]
  dsimp only
  rw [takes.passes]
  rfl

namespace Conversation

variable {m : Incoming} {p : Position} {w : World} {code : String} {flow : Flow}

/-- Goes where an outcome leads and stores the turn; where there is none, the conversation is
reset. -/
def goOn (m : Incoming) (p : Position) (code : String) (flow : Flow) (data : Fields)
    (outcome : Outcome) : Act Response := do
  match ← Act.lookup (Turn.follow (← get).registry m.address code flow data outcome) with
  | none =>
    Position.clear m.customer
    say m Wording.fallback "flow_error"
  | some turn => settle m p turn

/-- **What is done with an answer that is taken**: the bot goes where the step leads with it. -/
theorem runFrom_answerAt_of_takes {step : Step} (waits : p.WaitsAt w.registry code flow step)
    (takes : step.Takes m.inputKind m.input) :
    runFrom w (answerAt m p) =
      runFrom w (goOn m p code flow (step.keep (step.normalized m.input) p.data)
        (step.rule.resolve (step.normalized m.input)
          (step.keep (step.normalized m.input) p.data))) := by
  unfold answerAt goOn
  dsimp only
  rw [waits.inFlow, Option.getD_some,
    runFrom_bind_of_ok (runFrom_ensure_of_flow? waits.registered),
    runFrom_bind_of_ok (runFrom_get w), runFrom_bind_of_ok (runFrom_get w),
    Turn.answer_eq_of_waitsAt waits]
  rewrite [Turn.respond_eq_follow takes]
  rfl

/-- A message that is no command to cancel is answered at a position that counts. -/
theorem runFrom_respond_of_active (works : w.cache.Works)
    (answers : m.cancels w.config.cancelCommands = false)
    (active : verdict w (w.position m.customer w.now) = .ok true) :
    ∃ b, b.database = w.backend.database ∧ runFrom w (respond m) =
      runFrom { w with backend := b, cache := w.cache.used }
        (answerAt m (w.position m.customer w.now)) := by
  obtain ⟨b, same, routed⟩ := runFrom_respond works m
  have active' : verdict { w with backend := b, cache := w.cache.used }
      (w.position m.customer w.now) = .ok true := active
  refine ⟨b, same, ?_⟩
  rw [routed]
  unfold proceed
  rw [answers, if_neg Bool.false_ne_true, runFrom_bind_of_ok (runFrom_current_of_active active'),
    if_pos (isSet_of_active active)]

end Conversation

/-! ## Taps -/

/-- The answers to the step lead on by its transitions alone: the step asks no source for options,
has no switch or hand-off of its own, and checks no answer. -/
structure Definition.Step.Decides (s : Definition.Step) : Prop where
  unsourced : present? s.source = none
  unswitched : present? s.switchTo = none
  stays : s.handsOff = false
  unchecked : present? s.pattern = none

/-- A tap says the id without the blanks around it. -/
theorem Incoming.input_of_tapped {m : Incoming} {content : Content}
    (offers : content.Offers kind id) (tapped : m.inputKind = kind) (carries : m.content = some id) :
    m.input = Text.strip id := by
  unfold input
  split
  · next location =>
    have any : m.inputKind = .any := by
      unfold inputKind
      rw [location]
      rfl
    rw [any] at tapped
    subst tapped
    cases offers
  · rw [carries, Option.getD_some]

/-- A tap is no command. -/
theorem Incoming.cancels_of_tapped {m : Incoming} {content : Content}
    (offers : content.Offers kind id) (tapped : m.inputKind = kind) (commands : List String) :
    m.cancels commands = false := by
  have other : m.inputKind ≠ .text := by
    rw [tapped]
    rintro rfl
    cases offers
  unfold cancels
  rw [decide_eq_false other, Bool.false_and]

/-- A customer whose conversation is at a step of a definition's flow taps what the step has shown,
and the step expects such an answer. -/
structure Incoming.Taps (m : Incoming) (w : World) (d : Definition) (code : String) (flow : Flow)
    (s : Definition.Step) (kind : InputKind) (id : String) : Prop where
  made : ∃ known, d.toFlow? Store.options known = .ok (some flow)
  registered : w.registry.flow? code = some flow
  inFlow : (w.position m.customer w.now).flow = some code
  atStep : d.bearer? ((w.position m.customer w.now).step.getD "") = some s
  active : verdict w (w.position m.customer w.now) = .ok true
  expects : s.expects.accepted.accepts kind = true
  shown : ∃ (t : Turn) (b : Backend) (address : Address),
    t.Shows b address (s.toStep Store.options) ∧ t.message.content.Offers kind id
  tapped : m.inputKind = kind
  carries : m.content = some id

variable {w : World} {m : Incoming} {d : Definition} {flow : Flow} {code : String}
  {s : Definition.Step}

/-- **What is done with a tap.** What was tapped was built from an option of the step, and the bot
goes where the step decides with the delivered id, without the blanks around it. -/
theorem runFrom_respond_of_taps (works : w.cache.Works) (decides : s.Decides)
    (taps : m.Taps w d code flow s kind id) :
    ∃ c ∈ s.choices, id = kind.delivered c.id ∧
      ∃ data e, e.database = w.backend.database ∧
        runFrom w (respond m) = runFrom { w with backend := e, cache := w.cache.used }
          (goOn m (w.position m.customer w.now) code flow data
            (Definition.decide s.sortedTransitions s.defaultNext (Text.strip id))) := by
  obtain ⟨known, made⟩ := taps.made
  obtain ⟨t, b, address, shows, offers⟩ := taps.shown
  have input := Incoming.input_of_tapped offers taps.tapped taps.carries
  have waits : (w.position m.customer w.now).WaitsAt w.registry code flow
      (s.toStep Store.options) := by
    refine ⟨isSet_of_active taps.active, taps.inFlow, taps.registered, ?_⟩
    rw [Flow.step?, Flow.steps_of_toFlow? made, Definition.get?_stepTable, taps.atStep]
    rfl
  have takes : (s.toStep Store.options).Takes m.inputKind m.input := by
    refine ⟨taps.tapped ▸ taps.expects, ?_⟩
    unfold Step.check Definition.Step.toStep
    rw [decides.unchecked]
    rfl
  have resolved (data : Fields) : (s.toStep Store.options).rule.resolve m.input data =
      Definition.decide s.sortedTransitions s.defaultNext (Text.strip id) := by
    rw [← input]
    exact Definition.resolve_rule s _ _ decides.unswitched decides.stays
  obtain ⟨c, mem, delivered⟩ := Definition.Step.exists_choice_of_shows decides.unsourced shows offers
  obtain ⟨e, same, answered⟩ := runFrom_respond_of_active works
    (Incoming.cancels_of_tapped offers taps.tapped _) taps.active
  refine ⟨c, mem, delivered, (s.toStep Store.options).keep m.input
    (w.position m.customer w.now).data, e, same, answered.trans ?_⟩
  rw [← resolved]
  exact runFrom_answerAt_of_takes waits takes

/-- **Tapping an option follows its transition.** What was tapped was built from an option of the
step. If its id has no blanks around it, and is not too long for a button, the bot goes where the
transition of lowest order leads that names the id, whenever a transition does. In any case it goes
where the step decides with the delivered id, without the blanks around it. -/
theorem follows_of_taps (works : w.cache.Works) (decides : s.Decides)
    (taps : m.Taps w d code flow s kind id) :
    ∃ c ∈ s.choices, id = kind.delivered c.id ∧
      ∃ outcome data e, e.database = w.backend.database ∧
        runFrom w (respond m) = runFrom { w with backend := e, cache := w.cache.used }
          (goOn m (w.position m.customer w.now) code flow data outcome) ∧
        outcome = Definition.decide s.sortedTransitions s.defaultNext (Text.strip id) ∧
        (Text.strip c.id = c.id → (kind = .buttonReply → c.id.length ≤ Limit.buttonId) →
          (∃ u ∈ s.transitions, u.names c.id = true) →
            ∃ u, s.Prefers c.id u ∧ outcome = u.target s.defaultNext) := by
  obtain ⟨c, mem, delivered, data, e, same, ran⟩ := runFrom_respond_of_taps works decides taps
  refine ⟨c, mem, delivered, _, data, e, same, ran, rfl, fun trimmed short named => ?_⟩
  obtain ⟨u, prefers⟩ := Definition.Step.exists_prefers named
  refine ⟨u, prefers, ?_⟩
  rw [delivered, InputKind.delivered_of_short short, trimmed,
    Definition.Step.decide_of_prefers prefers]

/-! ## A question with one option -/

/-- A step that offers one button, whose id hands the conversation over. -/
def asking (id : String) : Definition.Step :=
  { Definition.Step.plain "ask" "Shall we call you?" with
    kind := .buttons
    expects := .button
    choices := [⟨id, "Yes", none, none, 0⟩]
    transitions := [⟨id, some "TRANSFER", none, 0⟩] }

/-- A definition of nothing but the step. -/
def callback (id : String) : Definition := Definition.plain "callback" [asking id]

theorem sortedChoices_asking (id : String) :
    (asking id).sortedChoices = [⟨id, "Yes", none, none, 0⟩] := List.mergeSort_singleton ..

theorem sortedTransitions_asking (id : String) :
    (asking id).sortedTransitions = [⟨id, some "TRANSFER", none, 0⟩] := List.mergeSort_singleton ..

/-- The id is followed to the only transition. -/
theorem prefers_asking {id : String} (star : id ≠ "*") :
    (asking id).Prefers id ⟨id, some "TRANSFER", none, 0⟩ := by
  refine Definition.Step.prefers_iff.2 (Definition.Step.find?_sortedTransitions_iff.1 ?_)
  rw [sortedTransitions_asking, List.find?_cons_of_pos]
  simp [Definition.Transition.names, Definition.Transition.isWildcard, star]

/-- Any other answer ends the conversation. -/
theorem decide_asking_of_ne {id answer : String} (star : id ≠ "*") (other : id ≠ answer) :
    Definition.decide (asking id).sortedTransitions (asking id).defaultNext answer =
      .complete := by
  rw [sortedTransitions_asking]
  unfold Definition.decide Definition.Transition.isWildcard
  rw [List.find?_cons_of_neg (by simp [other]), List.find?_cons_of_neg (by simp [star])]
  rfl

/-- The definition passes the check, whatever the id. -/
theorem accepted_callback {id : String} (filled : id ≠ "") : (callback id).Accepted none where
  named := show Text.strip "callback" ≠ "" by decide
  timed := show (0 : Int) < 30 by decide
  peopled := List.cons_ne_nil _ _
  distinct := List.nodup_singleton _
  begins := ⟨asking id, by
    unfold Definition.initial? Definition.sortedSteps
    rw [show (callback id).steps = [asking id] from rfl, List.mergeSort_singleton]
    rfl⟩
  compiles s mem := by
    rw [List.mem_singleton.1 mem]
    exact nofun
  fit s mem := by
    rw [List.mem_singleton.1 mem]
    refine ⟨nofun, fun c listed => ?_, nofun, trivial, fun t listed => ?_⟩
    · rw [List.mem_singleton.1 listed]
      exact ⟨filled, show "Yes" ≠ "" by decide⟩
    · rw [List.mem_singleton.1 listed]
      exact ⟨filled, trivial⟩

theorem exists_flow_callback {id : String} (filled : id ≠ "") :
    ∃ flow, (callback id).toFlow? Store.options none = .ok (some flow) := by
  obtain ⟨flow, made⟩ := Definition.exists_flow?_of_accepted Store.options
    (Definition.check_eq_none_iff.2 (accepted_callback filled))
  exact ⟨flow, Definition.toFlow?_of_flow? made⟩

theorem decides_asking (id : String) : (asking id).Decides := ⟨rfl, rfl, rfl, rfl⟩

/-- A position at the step. -/
def called : Position := ⟨some "callback", some "ask", [], some ⟨0, none⟩⟩

/-- A bot that has registered a flow for the definition and keeps the position. -/
def caller (flow : Flow) : World where
  config := { cancelCommands := [] }
  clock := ⟨0, none⟩
  opening := "callback"
  cache := Cache.write {} (Position.cacheKey "549") ⟨.text called.text, none, 0⟩
  registry := [("callback", flow)]

theorem position_caller (flow : Flow) (now : Instant) :
    (caller flow).position "549" now = called := by
  have held : (caller flow).cache =
      Cache.write {} (Position.cacheKey "549") ⟨.text called.text, none, 0⟩ := rfl
  have civil : ∀ stamp ∈ called.startedAt, stamp.IsCivil := by
    rintro _ ⟨⟩
    exact ⟨by decide, nofun⟩
  exact Position.position_of_write held rfl civil now

/-- The customer taps the button with an id. -/
def tapping (id : String) : Incoming := ⟨"549", none, none, "button_reply", some id, none, []⟩

/-- The button that the step shows can be tapped with the delivered id of the option. -/
theorem taps_caller {id : String} {flow : Flow}
    (made : (callback id).toFlow? Store.options none = .ok (some flow)) :
    (tapping (Text.clip Limit.buttonId id)).Taps (caller flow) (callback id) "callback" flow
      (asking id) .buttonReply (Text.clip Limit.buttonId id) where
  made := ⟨none, made⟩
  registered := rfl
  inFlow := by
    show ((caller flow).position "549" _).flow = _
    rw [position_caller]
    rfl
  atStep := by
    show (callback id).bearer? (((caller flow).position "549" _).step.getD "") = _
    rw [position_caller]
    unfold Definition.bearer? Definition.sortedSteps
    rw [show (callback id).steps = [asking id] from rfl, List.mergeSort_singleton]
    rfl
  active := by
    have dated : Time.inRange (⟨0, none⟩ : Stamp).moment = true := by decide
    have minutes : flow.minutes = 30 := Flow.minutes_of_toFlow? made
    have short : Time.IsLength (flow.minutes * Time.minute) := by
      rw [minutes]
      exact ⟨by decide, by decide⟩
    show verdict _ ((caller flow).position "549" _) = _
    rw [position_caller]
    refine (Turn.isActive_of_moment rfl rfl rfl rfl dated short _).trans ?_
    rw [minutes]
    rfl
  expects := rfl
  shown := by
    refine ⟨⟨.started, ⟨"549", (asking id).written.deliverable, none⟩, "callback", some "ask", []⟩,
      {}, ⟨"549", none⟩, ⟨_, _, rfl, .inl rfl⟩, ?_⟩
    show (asking id).written.deliverable.Offers _ _
    unfold Definition.Step.written
    rw [sortedChoices_asking]
    exact .button (List.mem_singleton_self _)
  tapped := rfl
  carries := rfl

theorem follows_of_taps_caller :
    ∃ flow, (caller flow).cache.Works ∧ (asking "yes").Decides ∧
      (tapping "yes").Taps (caller flow) (callback "yes") "callback" flow (asking "yes")
        .buttonReply "yes" ∧
      ∃ u, (asking "yes").Prefers "yes" u ∧ u.target (asking "yes").defaultNext = .transfer ∧
        ∃ data e, runFrom (caller flow) (respond (tapping "yes")) =
          runFrom { caller flow with backend := e, cache := (caller flow).cache.used }
            (goOn (tapping "yes") called "callback" flow data .transfer) := by
  obtain ⟨flow, made⟩ := exists_flow_callback (show "yes" ≠ "" by decide)
  have works : (caller flow).cache.Works := ⟨rfl, fun _ => rfl⟩
  have whole : Text.clip Limit.buttonId "yes" = "yes" := by decide
  have taps := taps_caller made
  rw [whole] at taps
  obtain ⟨c, mem, -, outcome, data, e, -, ran, -, follows⟩ :=
    follows_of_taps works (decides_asking "yes") taps
  obtain rfl : c = ⟨"yes", "Yes", none, none, 0⟩ := List.mem_singleton.1 mem
  obtain ⟨u, prefers, rfl⟩ := follows (by decide) (fun _ => by decide)
    ⟨⟨"yes", some "TRANSFER", none, 0⟩, List.mem_singleton_self _, by decide⟩
  obtain rfl : u = ⟨"yes", some "TRANSFER", none, 0⟩ :=
    List.mem_singleton.1 (List.mem_of_find?_eq_some prefers.first)
  have resolved : Definition.Transition.target ⟨"yes", some "TRANSFER", none, 0⟩
      (asking "yes").defaultNext = .transfer := by decide
  rw [resolved, show (caller flow).position (tapping "yes").customer _ = called from
    position_caller flow _] at ran
  exact ⟨flow, works, decides_asking "yes", taps, _, prefers, resolved, data, e, ran⟩

/-- An id that is too long for a button. -/
def wordy : String := String.ofList (List.replicate 257 'a')

theorem length_wordy : wordy.length = 257 := by
  unfold wordy
  rw [String.length_ofList, List.length_replicate]

theorem ne_wordy_of_short {s : String} (short : s.length ≤ Limit.buttonId) : wordy ≠ s := by
  intro same
  have long := length_wordy
  rw [same] at long
  unfold Limit.buttonId at short
  omega

theorem ne_star_wordy : wordy ≠ "*" := ne_wordy_of_short (by decide)

/-- With the id that was cut no transition is found. -/
theorem decide_wordy : Definition.decide (asking wordy).sortedTransitions (asking wordy).defaultNext
    (Text.strip (Text.clip Limit.buttonId wordy)) = .complete :=
  decide_asking_of_ne ne_star_wordy
    (ne_wordy_of_short ((Text.length_strip_le _).trans (Text.length_clip_le _ _)))

/-- Where there is nowhere to go, the conversation ends. -/
theorem completes_caller (flow : Flow) (e : Backend) (id : String) (p : Position) (data : Fields) :
    ∃ r v, runFrom { caller flow with backend := e, cache := (caller flow).cache.used }
      (goOn (tapping id) p "callback" flow data .complete) = (.ok r, v) ∧ r.status = "completed" :=
  ⟨_, _, rfl, rfl⟩

/-- An option with an id that is too long for a button is not followed to its transition: the
conversation is not handed over, it ends. -/
theorem not_follows_wordy :
    ∃ flow, (caller flow).cache.Works ∧ (asking wordy).Decides ∧
      (tapping (Text.clip Limit.buttonId wordy)).Taps (caller flow) (callback wordy) "callback" flow
        (asking wordy) .buttonReply (Text.clip Limit.buttonId wordy) ∧
      (asking wordy).Prefers wordy ⟨wordy, some "TRANSFER", none, 0⟩ ∧
      Definition.Transition.target ⟨wordy, some "TRANSFER", none, 0⟩ (asking wordy).defaultNext =
        .transfer ∧
      ∃ r v, runFrom (caller flow) (respond (tapping (Text.clip Limit.buttonId wordy))) =
        (.ok r, v) ∧ r.status = "completed" := by
  obtain ⟨flow, made⟩ := exists_flow_callback (ne_wordy_of_short (by decide))
  have works : (caller flow).cache.Works := ⟨rfl, fun _ => rfl⟩
  have taps := taps_caller made
  obtain ⟨c, -, -, data, e, -, ran⟩ := runFrom_respond_of_taps works (decides_asking wordy) taps
  refine ⟨flow, works, decides_asking wordy, taps,
    prefers_asking ne_star_wordy, by decide, ?_⟩
  rw [ran, decide_wordy]
  exact completes_caller flow e _ _ data

end Dialogue
