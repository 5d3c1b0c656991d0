import Dialogue.Proofs.Content.Channel
import Dialogue.Proofs.Conversation.Tapping

/-!
# Ways out of flows

A customer can only answer what was shown: tap a button or a row that is there, or write where the
step takes texts. A content without anything to tap is delivered as its text, and no tap comes back
from that, so a step that waits for a tap without offering one would never be left.

Ways out are found from their ends. A position *escapes* in one answer when the message shown there
invites an answer that ends the flow, and in one more than another position when it invites an
answer that leads to that one. A step *frees* when there is such a way from it whatever is known.

Main statements: `LeadsOut.yields_follow`, an outcome that leads out gives a turn that ends the flow
or goes on to a position with a way out; `frees_of_presents`, from outcomes back to steps.
-/

namespace Dialogue

open Effect

/-! ## What can be answered -/

namespace Content

variable {kind : InputKind} {id : String} {content : Content} {frame : Frame}

/-- What can be tapped is delivered. -/
theorem Offers.deliverable (offers : content.Offers kind id) :
    content.deliverable.Offers kind id := by
  cases offers with
  | @button frame buttons b mem =>
    have some_ : ¬ buttons.isEmpty = true := fun none_ =>
      List.ne_nil_of_mem mem (List.isEmpty_iff.1 none_)
    rw [Content.deliverable, if_neg some_]
    exact .button mem
  | @row frame label sections r mem =>
    have some_ : ¬ rowCount sections = 0 := fun none_ =>
      List.ne_nil_of_mem mem (List.length_eq_zero_iff.1 none_)
    rw [Content.deliverable, if_neg some_]
    exact .row mem

theorem offers_ofButtons {choices : List Button}
    (mem : id ∈ (choices.take Limit.buttons).map Button.id) :
    (ofButtons frame choices).Offers .buttonReply id := by
  obtain ⟨b, among, rfl⟩ := List.mem_map.1 mem
  exact .button among

theorem offers_ofList {label : String} {sections : List Section}
    (mem : id ∈ (allRows (keepRows Limit.rows Limit.sections sections)).map Row.id) :
    (ofList frame label sections).Offers .listReply id := by
  obtain ⟨r, among, rfl⟩ := List.mem_map.1 mem
  exact .row among

/-- A list with rows keeps one to tap. -/
theorem exists_offers_ofList {label : String} {sections : List Section}
    (filled : allRows sections ≠ []) :
    ∃ id, (ofList frame label sections).Offers .listReply id := by
  have kept : allRows (keepRows Limit.rows Limit.sections sections) ≠ [] :=
    allRows_keepRows_ne_nil (by decide) (by decide) filled
  obtain ⟨r, among⟩ := List.exists_mem_of_ne_nil _ kept
  exact ⟨r.id, .row among⟩

/-- There is something to tap, where an answer of this kind is tapped. -/
def Allows (content : Content) (kind : InputKind) : Prop :=
  kind = .buttonReply ∨ kind = .listReply → ∃ id, content.Offers kind id

theorem Offers.allows (offers : content.Offers kind id) : content.Allows kind :=
  fun _ => ⟨id, offers⟩

theorem allows_of_untapped (untapped : kind = .text ∨ kind = .any ∨ kind = .nothing) :
    content.Allows kind := by
  rintro (rfl | rfl)
  · simp at untapped
  · simp at untapped

theorem Allows.deliverable (allows : content.Allows kind) : content.deliverable.Allows kind :=
  fun tapped => (allows tapped).imp fun _ offers => offers.deliverable

end Content

namespace Step

variable {sound : Database → Prop} {P Q : Content → Prop} {step : Step} {kind : InputKind}
  {input : String} {content : Content} {address : Address} {data : Fields}

/-- Whatever is known, the step shows a content with a property. -/
def Presents (step : Step) (sound : Database → Prop) (P : Content → Prop) : Prop :=
  ∀ data, (step.content data).Yields sound P

/-- An answer to a step that shows a content: a tap on something that is offered, or any text where
the step takes texts. -/
inductive Invites (step : Step) (content : Content) : InputKind → String → Prop
  | tap {kind : InputKind} {id : String} (offers : content.Offers kind id) :
      Invites step content kind id
  | write {text : String} (open_ : step.expects = .text ∨ step.expects = .any) :
      Invites step content .text text

theorem Invites.deliverable (invites : step.Invites content kind input) :
    step.Invites content.deliverable kind input := by
  cases invites with
  | tap offers => exact .tap offers.deliverable
  | write open_ => exact .write open_

theorem Presents.mono (presents : step.Presents sound P)
    (weaker : ∀ content, P content → Q content) : step.Presents sound Q :=
  fun data => (presents data).mono weaker

/-- A step that looks nothing up shows what is made of what is known. -/
theorem presents_of_eq {shown : Fields → Content}
    (fixed : ∀ data, step.content data = pure (shown data)) (h : ∀ data, P (shown data)) :
    step.Presents sound P := by
  intro data
  rw [fixed]
  exact Lookup.yields_pure (h data)

/-- **A step is shown** to whoever has a number. -/
theorem Presents.render (presents : step.Presents sound P) (numbered : address.recipient ≠ "")
    (data : Fields) :
    (Turn.render address step data).Yields sound fun m =>
      ∃ content, P content ∧ m.content = content.deliverable := by
  refine (presents data).bind fun content h => ?_
  exact Lookup.yields_ofExcept (if_neg numbered) ⟨content, h, rfl⟩

end Step

/-! ## Ways out -/

/-- A turn that ends its flow, or leads from a position to one with a property. -/
def Turn.EndsOr (t : Turn) (p : Position) (now : Stamp) (P : Position → Prop) : Prop :=
  t.isCompleted = true ∨ ∃ q, p.after t.move now = some q ∧ P q

/-- There is a way out of a position in so many answers at most: the step is shown, and the message
invites an answer that ends the flow, or from where there is a way out in one less. -/
def Position.Escapes (registry : Registry) (sound : Database → Prop) : Nat → Position → Prop
  | 0, _ => False
  | n + 1, p => ∃ code flow step, p.WaitsAt registry code flow step ∧
      ∀ address : Address, address.recipient ≠ "" →
        (Turn.render address step p.data).Yields sound fun m =>
          ∃ kind input, step.Invites m.content kind input ∧
            ∀ (now : Stamp) (b : Backend), sound b.database → ∃ t,
              (⟨address, input, kind, now, b⟩ : Arrival).turn? registry p = .ok (some t) ∧
                t.EndsOr p now (Escapes registry sound n)

theorem Position.Escapes.mono {registry : Registry} {sound : Database → Prop} {n k : Nat}
    {p : Position} (escapes : p.Escapes registry sound n) (le : n ≤ k) :
    p.Escapes registry sound k := by
  induction n generalizing p k with
  | zero => exact escapes.elim
  | succ n ih =>
    obtain ⟨k, rfl⟩ : ∃ m, k = m + 1 := ⟨k - 1, by omega⟩
    obtain ⟨code, flow, step, waits, ways⟩ := escapes
    refine ⟨code, flow, step, waits, fun address numbered => (ways address numbered).mono ?_⟩
    rintro m ⟨kind, input, invites, leads⟩
    refine ⟨kind, input, invites, fun now b ok => ?_⟩
    obtain ⟨t, turned, ends⟩ := leads now b ok
    exact ⟨t, turned, ends.imp_right fun ⟨q, next, on⟩ => ⟨q, next, ih on (by omega)⟩⟩

namespace Registry

/-- Whatever is known, there is a way out of a step in so many answers. -/
def Frees (registry : Registry) (sound : Database → Prop) (n : Nat) (code key : String) : Prop :=
  ∀ data start, Position.Escapes registry sound n ⟨some code, some key, data, start⟩

/-- An outcome that leads out of a flow of a code in so many further answers: it ends the flow or
hands over, or the step that it leads to has a way out. -/
inductive LeadsOut (registry : Registry) (sound : Database → Prop) (n : Nat) (code : String)
    (flow : Flow) : Outcome → Prop
  | completes : LeadsOut registry sound n code flow .complete
  | transfers : LeadsOut registry sound n code flow .transfer
  | switches {target : String} {other : Flow} (registered : registry.flow? target = some other)
      (byId : other.initialStep.id = other.initial)
      (frees : registry.Frees sound n target other.initial) :
      LeadsOut registry sound n code flow (.switchTo target)
  | advances {key : String} {next : Step} (found : flow.step? key = some next)
      (byId : next.id = key) (frees : registry.Frees sound n code key) :
      LeadsOut registry sound n code flow (.next key)
  | handsOver {key : String} {next : Step} (found : flow.step? key = some next)
      (handsOff : next.handsOff = true) (shown : next.Presents sound fun _ => True) :
      LeadsOut registry sound n code flow (.next key)

variable {registry : Registry} {sound : Database → Prop} {n k : Nat} {code key : String}
  {flow : Flow} {step : Step} {address : Address} {data : Fields} {kind : InputKind}
  {input : String}

theorem Frees.mono (frees : registry.Frees sound n code key) (le : n ≤ k) :
    registry.Frees sound k code key :=
  fun data start => (frees data start).mono le

/-- A step with a way out has a name and can be shown. -/
theorem Frees.shown (frees : registry.Frees sound n code key)
    (registered : registry.flow? code = some flow) (found : flow.step? key = some step)
    (numbered : address.recipient ≠ "") (data : Fields) :
    key ≠ "" ∧ (Turn.render address step data).Yields sound fun _ => True := by
  cases n with
  | zero => exact (frees data none).elim
  | succ n =>
    obtain ⟨code', flow', step', waits, ways⟩ := frees data none
    cases waits.inFlow
    cases registered.symm.trans waits.registered
    cases found.symm.trans waits.found
    have named := waits.set
    simp only [Position.isSet, Position.isNamed, Bool.and_eq_true, decide_eq_true_eq] at named
    exact ⟨named.2, (ways address numbered).mono fun _ _ => trivial⟩

/-- The position after a turn that waits for an answer at a step with a way out. -/
theorem Frees.endsOr (frees : registry.Frees sound n code key)
    (registered : registry.flow? code = some flow) (named : key ≠ "") {t : Turn}
    (unfinished : t.isCompleted = false) (place : t.place = ⟨some code, some key, data, none⟩)
    (p : Position) (now : Stamp) : t.EndsOr p now (Position.Escapes registry sound n) := by
  have inFlow : t.flow = code := Option.some.inj (congrArg Position.flow place)
  have codeNamed : t.flow ≠ "" := inFlow ▸ Turn.ne_empty_of_flow? registered
  obtain ⟨q, next, -⟩ :=
    Turn.after_move unfinished codeNamed (congrArg Position.step place) named p now
  refine .inr ⟨q, next, ?_⟩
  rw [(Turn.eq_place_of_after codeNamed next).2, place]
  exact frees data _

theorem leadsOut_of_decided {decide : String → Fields → Option Outcome} {outcome : Outcome}
    (decided : decide input data = some outcome)
    (out : registry.LeadsOut sound n code flow outcome) :
    registry.LeadsOut sound n code flow ((NextRule.decided decide).resolve input data) := by
  rw [NextRule.resolve, decided]
  exact out

/-! ### From an outcome to a turn -/

/-- A turn that closes a flow is sent to whoever has a number. -/
theorem yields_closing {status : Status} (closes : status = .completed ∨ status = .transferred)
    (numbered : address.recipient ≠ "") (e : Event) (text : String) (P : Turn → Prop)
    (ended : ∀ t : Turn, t.isCompleted = true → P t) :
    Lookup.Yields sound P (do
      Lookup.note e
      let message ← Lookup.ofExcept (Message.ofText address.recipient text address.via)
      return ⟨status, message, code, none, data⟩) := by
  refine (Lookup.yields_note e).bind fun _ _ => ?_
  refine (Lookup.yields_ofExcept (Q := fun _ => True) (if_neg numbered) trivial).bind fun _ _ => ?_
  exact Lookup.yields_pure (ended _ ((Turn.isCompleted_iff _).2 closes))

/-- **An outcome that leads out** gives a turn that ends the flow, or that leads to a position with
a way out. -/
theorem LeadsOut.yields_follow {outcome : Outcome}
    (out : registry.LeadsOut sound n code flow outcome)
    (registered : registry.flow? code = some flow) (numbered : address.recipient ≠ "")
    (data : Fields) :
    (Turn.follow registry address code flow data outcome).Yields sound fun t? =>
      ∃ t, t? = some t ∧ ∀ p now, t.EndsOr p now (Position.Escapes registry sound n) := by
  cases out with
  | completes =>
    exact (yields_closing (.inl rfl) numbered _ _ _ fun t ended p now => .inl ended).map
      fun t ends => ⟨t, rfl, ends⟩
  | transfers =>
    exact (yields_closing (.inr rfl) numbered _ _ _ fun t ended p now => .inl ended).map
      fun t ends => ⟨t, rfl, ends⟩
  | switches other byId frees =>
    obtain ⟨named, shown⟩ := frees.shown other (Flow.step?_initial _) numbered
      (Table.set data Turn.previousFlowKey (.str code))
    rw [Turn.follow, Turn.switch, other]
    refine shown.bind fun message _ => (Lookup.yields_note _).bind fun _ _ => ?_
    refine Lookup.yields_pure ⟨_, rfl, fun p now => ?_⟩
    exact frees.endsOr other named rfl (by rw [Turn.place, byId]) p now
  | advances found byId frees =>
    obtain ⟨named, shown⟩ := frees.shown registered found numbered data
    rw [Turn.follow, found]
    refine Lookup.Yields.map (shown.bind fun message _ => ?_) fun t ends => ⟨t, rfl, ends⟩
    -- A step with a way out may hand over all the same, which is an end as well.
    split
    · exact (Lookup.yields_note _).bind fun _ _ => Lookup.yields_pure fun _ _ => .inl rfl
    · refine (Lookup.yields_note _).bind fun _ _ => Lookup.yields_pure fun p now => ?_
      exact frees.endsOr registered named rfl (by rw [Turn.place, byId]) p now
  | handsOver found handsOff shown =>
    rw [Turn.follow, found]
    refine Lookup.Yields.map ((shown.render numbered data).bind fun message _ => ?_)
      fun t ends => ⟨t, rfl, ends⟩
    rw [if_pos handsOff]
    exact (Lookup.yields_note _).bind fun _ _ => Lookup.yields_pure fun _ _ => .inl rfl

/-! ### From outcomes to a step -/

/-- **A step has a way out** when what it shows invites an answer that leads out, whatever is
known. -/
theorem frees_of_presents (registered : registry.flow? code = some flow)
    (found : flow.step? key = some step) (named : key ≠ "")
    (presents : step.Presents sound fun content => ∃ kind input,
      step.Invites content kind input ∧ step.Takes kind input ∧
        ∀ data, registry.LeadsOut sound n code flow
          (step.rule.resolve (step.normalized input) data)) :
    registry.Frees sound (n + 1) code key := by
  intro data start
  have waits : Position.WaitsAt registry ⟨some code, some key, data, start⟩ code flow step :=
    ⟨by simp [Position.isSet, Position.isNamed, Turn.ne_empty_of_flow? registered, named], rfl,
      registered, found⟩
  refine ⟨code, flow, step, waits, fun address numbered => ?_⟩
  refine (presents.render numbered data).mono ?_
  rintro m ⟨content, ⟨kind, input, invites, takes, out⟩, shown⟩
  refine ⟨kind, input, shown ▸ invites.deliverable, fun now b ok => ?_⟩
  obtain ⟨t?, c, ran, -, t, rfl, ends⟩ := (out _).yields_follow registered numbered
    (step.keep (step.normalized input) data) b ok
  refine ⟨t, ?_, ends _ now⟩
  unfold Arrival.turn?
  dsimp only
  rw [Turn.answer_eq_of_waitsAt waits, Turn.respond_eq_follow takes, ran]

/-- A step that always offers a tap which leads out has a way out. -/
theorem frees_of_tap {shown : Fields → Content} (registered : registry.flow? code = some flow)
    (found : flow.step? key = some step) (named : key ≠ "")
    (shows : ∀ data, step.content data = pure (shown data))
    (offers : ∀ data, (shown data).Offers kind input) (takes : step.Takes kind input)
    (out : ∀ data, registry.LeadsOut sound n code flow
      (step.rule.resolve (step.normalized input) data)) :
    registry.Frees sound (n + 1) code key :=
  frees_of_presents registered found named
    (Step.presents_of_eq shows fun data => ⟨kind, input, .tap (offers data), takes, out⟩)

/-- A step that takes texts has a way out when some text leads out. -/
theorem frees_of_text {shown : Fields → Content} (input : String)
    (registered : registry.flow? code = some flow) (found : flow.step? key = some step)
    (named : key ≠ "") (shows : ∀ data, step.content data = pure (shown data))
    (open_ : step.expects = .text ∨ step.expects = .any) (takes : step.Takes .text input)
    (out : ∀ data, registry.LeadsOut sound n code flow
      (step.rule.resolve (step.normalized input) data)) :
    registry.Frees sound (n + 1) code key :=
  frees_of_presents registered found named
    (Step.presents_of_eq shows fun _ => ⟨.text, input, .write open_, takes, out⟩)

end Registry

end Dialogue
