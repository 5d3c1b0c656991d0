import Dialogue.Conversation.Basic
import Dialogue.Proofs.Conversation.Stored
import Dialogue.Proofs.Flow.Showing

/-!
# Where a message goes

The stored position decides what is done with a message. A command to cancel is looked for first.
Otherwise a position that still counts takes the message as an answer, and one that is past its
deadline is removed before the message is answered outside of flows.

Which way a message went can be told from the response: what is said outside of flows is never said
to an answer.

Main statements: `runFrom_respond`, what is done with a message in a world whose cache works;
`respond_cases`, the two ways of a message that is no command to cancel; `ne_of_ways`, their
responses differ.
-/

namespace Dialogue

open Effect

/-- The message is a command to cancel. -/
def Incoming.cancels (m : Incoming) (commands : List String) : Bool :=
  m.inputKind = .text && Turn.isCancel commands m.input

namespace Conversation

variable {m : Incoming} {p : Position} {w w' : World} {r : Response}

/-! ## Reading the position -/

/-- What is done with a message at a stored position. -/
def proceed (m : Incoming) (commands : List String) (p : Position) : Act Response := do
  if m.cancels commands then cancel m p
  else
    let q ← current m p
    if q.isSet then answerAt m q else answerFresh m

/-- **What is done with a message** in a world whose cache works. Nothing but the cache is used
before. -/
theorem runFrom_respond (works : w.cache.Works) (m : Incoming) :
    ∃ b, b.database = w.backend.database ∧ runFrom w (respond m) =
      runFrom { w with backend := b, cache := w.cache.used }
        (proceed m w.config.cancelCommands (w.position m.customer w.now)) := by
  obtain ⟨b, stored⟩ := Position.runFrom_stored w works m.customer
  have reads : Within World.SameDatabase (Position.stored m.customer) :=
    within_bind (World.lenient_sameDatabase.cached? _) fun _ => within_pure _
  refine ⟨b, reads stored, ?_⟩
  unfold respond
  rw [runFrom_bind_of_ok stored, runFrom_bind_of_ok (runFrom_get _)]
  rfl

/-! ## The position that still counts -/

/-- Whether a position still counts. -/
def verdict (w : World) (p : Position) : Except Fault Bool :=
  Turn.isActive w.registry w.config.usualMinutes w.now p

theorem verdict_of_unset (unset : p.isSet = false) (w : World) : verdict w p = .ok false := by
  unfold verdict Turn.isActive
  rw [unset]
  rfl

theorem runFrom_current_of_unset (unset : p.isSet = false) (w : World) :
    runFrom w (current m p) = (.ok p, w) := by
  unfold current
  rw [unset]
  rfl

theorem runFrom_current_of_active (active : verdict w p = .ok true) :
    runFrom w (current m p) = (.ok p, w) := by
  unfold current
  split
  · rfl
  · rw [runFrom_bind_of_ok (runFrom_get w)]
    unfold verdict at active
    rw [active]
    rfl

theorem isSet_of_active (active : verdict w p = .ok true) : p.isSet = true := by
  cases unset : p.isSet with
  | true => rfl
  | false =>
    rw [verdict_of_unset unset] at active
    cases active

theorem runFrom_current_of_fault {fault : Fault} (stops : verdict w p = .error fault) :
    runFrom w (current m p) = (.error fault, w) := by
  have set : p.isSet = true := by
    cases unset : p.isSet with
    | true => rfl
    | false =>
      rw [verdict_of_unset unset] at stops
      cases stops
  unfold current
  rw [set]
  unfold verdict at stops
  show runFrom w (get >>= _) = _
  rw [runFrom_bind_of_ok (runFrom_get w), stops]
  rfl

/-- A position that is past its deadline is removed. -/
theorem runFrom_current_of_stale (works : w.cache.Works) (set : p.isSet = true)
    (stale : verdict w p = .ok false) :
    ∃ b, b.database = w.backend.database ∧ runFrom w (current m p) =
      (.ok {}, { w with
        backend := b
        cache := w.cache.used.remove (Position.cacheKey m.customer) }) := by
  obtain ⟨b, removed⟩ := Act.runFrom_forget works (Position.cacheKey m.customer)
  have removes : Within World.SameDatabase (Act.forget (Position.cacheKey m.customer)) :=
    World.lenient_sameDatabase.forget fun _ => rfl
  refine ⟨b, removes removed, ?_⟩
  unfold current
  rw [set]
  unfold verdict at stale
  show runFrom w (get >>= _) = _
  rw [runFrom_bind_of_ok (runFrom_get w), stale]
  show runFrom w (Act.forget (Position.cacheKey m.customer) >>= _) = _
  rw [runFrom_bind_of_ok removed]
  rfl

/-! ## Responses -/

/-- A response says a text and has a status. -/
def Says (m : Incoming) (body status : String) (r : Response) : Prop :=
  r.status = status ∧
    ∃ message, Message.ofText m.customer body m.via = .ok message ∧ r.messages = [message]

theorem says_of_say {body status : String} (ran : runFrom w (say m body status) = (.ok r, w')) :
    Says m body status r := by
  obtain ⟨message, v, looked, ran⟩ := runFrom_bind_eq_ok_iff.1 ran
  cases ran
  exact ⟨rfl, message, (Prod.mk.inj looked).1, rfl⟩

theorem status_of_settle {before : Position} {t : Turn}
    (ran : runFrom w (settle m before t) = (.ok r, w')) : r.status = t.status.name := by
  unfold settle at ran
  rw [runFrom_bind_of_ok (runFrom_get w)] at ran
  dsimp only at ran
  split at ran
  · obtain ⟨_, v, -, ran⟩ := runFrom_bind_eq_ok_iff.1 ran
    cases ran
    rfl
  · obtain ⟨_, v, -, ran⟩ := runFrom_bind_eq_ok_iff.1 ran
    cases ran
    rfl

/-- A flow is started, or there is none and the customer is welcomed. -/
theorem start_cases {code : String} (ran : runFrom w (start m code) = (.ok r, w')) :
    r.status = "started" ∨ Says m Wording.welcome "flow_error" r := by
  unfold start at ran
  obtain ⟨_, u, -, ran⟩ := runFrom_bind_eq_ok_iff.1 ran
  rw [runFrom_bind_of_ok (runFrom_get u)] at ran
  obtain ⟨turn?, v, turned, ran⟩ := runFrom_bind_eq_ok_iff.1 ran
  cases turn? with
  | none => exact .inr (says_of_say ran)
  | some t =>
    have started := Turn.status_of_start (runFrom_of_lookup turned)
    refine .inl ((status_of_settle ran).trans ?_)
    rw [started]
    rfl

/-- The statuses of responses outside of flows, where a flow could be started or none was asked
for. -/
def freshStatuses : List String := ["started", "auto_response", "farewell", "thanks", "fallback"]

/-- **A message outside of flows** is answered, or its flow cannot be started. -/
theorem answerFresh_cases (ran : runFrom w (answerFresh m) = (.ok r, w')) :
    r.status ∈ freshStatuses ∨ Says m Wording.welcome "flow_error" r := by
  have starts {u : World} {code : String} (ran : runFrom u (start m code) = (.ok r, w')) :
      r.status ∈ freshStatuses ∨ Says m Wording.welcome "flow_error" r :=
    (start_cases ran).imp_left fun started => by simp [started, freshStatuses]
  have opens {u : World} (ran : runFrom u (openMenu m) = (.ok r, w')) :
      r.status ∈ freshStatuses ∨ Says m Wording.welcome "flow_error" r := by
    unfold openMenu at ran
    rw [runFrom_bind_of_ok (runFrom_get u)] at ran
    exact starts ran
  have answers {u : World} {body status : String} (fresh : status ∈ freshStatuses)
      (ran : runFrom u (say m body status) = (.ok r, w')) : r.status ∈ freshStatuses := by
    rwa [(says_of_say ran).1]
  have intends {u : World} {intent : Intent}
      (ran : runFrom u (answerIntent m intent) = (.ok r, w')) :
      r.status ∈ freshStatuses ∨ Says m Wording.welcome "flow_error" r := by
    unfold answerIntent at ran
    cases intent with
    | greeting => exact opens ran
    | sale => exact starts ran
    | question => exact starts ran
    | farewell => exact .inl (answers (by decide) ran)
    | thanks => exact .inl (answers (by decide) ran)
    | unknown => exact .inl (answers (by decide) ran)
  unfold answerFresh at ran
  split at ran
  · exact opens ran
  · dsimp only at ran
    split at ran
    · exact intends ran
    · obtain ⟨reply?, v, -, ran⟩ := runFrom_bind_eq_ok_iff.1 ran
      cases reply? with
      | none => exact intends ran
      | some reply => exact .inl (answers (by decide) ran)

/-- **An answer at a position** is a turn that starts no flow, or the position cannot be
answered. -/
theorem answerAt_cases (ran : runFrom w (answerAt m p) = (.ok r, w')) :
    (∃ status : Status, status ≠ .started ∧ r.status = status.name) ∨
      Says m Wording.fallback "flow_error" r := by
  unfold answerAt at ran
  obtain ⟨_, u, -, ran⟩ := runFrom_bind_eq_ok_iff.1 ran
  rw [runFrom_bind_of_ok (runFrom_get u)] at ran
  obtain ⟨turn?, v, turned, ran⟩ := runFrom_bind_eq_ok_iff.1 ran
  cases turn? with
  | none =>
    obtain ⟨_, x, -, ran⟩ := runFrom_bind_eq_ok_iff.1 ran
    exact .inr (says_of_say ran)
  | some t =>
    exact .inl ⟨t.status, Turn.status_of_answer (runFrom_of_lookup turned), status_of_settle ran⟩

theorem status_ne_flowError (status : Status) :
    status.name ≠ "flow_error" ∧ (status ≠ .started → status.name ∉ freshStatuses) := by
  cases status <;> decide

/-- **A message that is no command to cancel** is answered at the position that is stored, if it
still counts, or else outside of flows. -/
theorem respond_cases (works : w.cache.Works) (answers : m.cancels w.config.cancelCommands = false)
    (ran : runFrom w (respond m) = (.ok r, w')) :
    (verdict w (w.position m.customer w.now) = .ok true ∧
      ∃ u, runFrom u (answerAt m (w.position m.customer w.now)) = (.ok r, w')) ∨
    (verdict w (w.position m.customer w.now) = .ok false ∧
      ∃ u, runFrom u (answerFresh m) = (.ok r, w')) := by
  obtain ⟨b, -, routed⟩ := runFrom_respond works m
  rw [routed] at ran
  unfold proceed at ran
  rw [answers, if_neg Bool.false_ne_true] at ran
  -- Reading the position has changed nothing that its verdict depends on.
  have same : verdict { w with backend := b, cache := w.cache.used }
      (w.position m.customer w.now) = verdict w (w.position m.customer w.now) := rfl
  cases judged : verdict w (w.position m.customer w.now) with
  | error fault =>
    rw [runFrom_bind_of_error (runFrom_current_of_fault (same.trans judged))] at ran
    cases ran
  | ok active =>
    cases active with
    | true =>
      rw [runFrom_bind_of_ok (runFrom_current_of_active (same.trans judged)),
        if_pos (isSet_of_active judged)] at ran
      exact .inl ⟨rfl, _, ran⟩
    | false =>
      refine .inr ⟨rfl, ?_⟩
      cases set : (w.position m.customer w.now).isSet with
      | false =>
        rw [runFrom_bind_of_ok (runFrom_current_of_unset set _), set,
          if_neg Bool.false_ne_true] at ran
        exact ⟨_, ran⟩
      | true =>
        obtain ⟨c, -, removed⟩ := runFrom_current_of_stale (m := m)
          (w := { w with backend := b, cache := w.cache.used }) ⟨works.connected, works.up⟩ set
          (same.trans judged)
        rw [runFrom_bind_of_ok removed] at ran
        exact ⟨_, ran⟩

/-- **The response tells which way a message went.** -/
theorem ne_of_ways {u u' : World} {r' : Response}
    (answered : runFrom w (answerAt m p) = (.ok r, w'))
    (fresh : runFrom u (answerFresh m) = (.ok r', u')) : r ≠ r' := by
  rintro rfl
  rcases answerAt_cases answered with ⟨status, later, named⟩ | ⟨failed, message, made, shown⟩
  · obtain ⟨named', fresh'⟩ := status_ne_flowError status
    rcases answerFresh_cases fresh with listed | ⟨failed, -⟩
    · rw [named] at listed
      exact fresh' later listed
    · exact named' (named.symm.trans failed)
  · rcases answerFresh_cases fresh with listed | ⟨-, message', made', shown'⟩
    · rw [failed] at listed
      exact absurd listed (by decide)
    · -- Both could not go on, and they say so in different words.
      obtain rfl : message = message' := List.singleton_inj.1 (shown.symm.trans shown')
      have contents := (Message.content_of_make made).symm.trans (Message.content_of_make made')
      exact absurd contents (by decide)

end Conversation

end Dialogue
