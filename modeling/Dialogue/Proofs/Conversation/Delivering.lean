import Dialogue.Proofs.Conversation.Standing
import Dialogue.Proofs.Flow.Making

/-!
# Responses are delivered

A message is answered by one message, to the sender and through the number that received it. It
shows the prompt of a step, a text of the bot, or a canned reply. Where the prompts of the
registered flows make their contents, the channel takes it, whatever the database holds: a flow that
is loaded on the way makes its contents as well.

Main statement: `delivers_of_process`.
-/

namespace Dialogue

open Effect Lookup

/-- A response is one message for an address that the channel takes. -/
def Response.Delivers (r : Response) (address : Address) : Prop :=
  ∃ message, r.messages = [message] ∧ message.Suits address

namespace Conversation

variable {α : Type} (m : Incoming)

/-- Where all prompts make their contents, the responses of an act are delivered. -/
def Delivers (x : Act Response) : Prop :=
  ∀ ⦃w w' : World⦄ ⦃r : Response⦄, w.registry.EveryPrompt Prompt.Makes →
    runFrom w x = (.ok r, w') → r.Delivers m.address

/-- What comes first keeps the prompts, and what comes behind it delivers. -/
theorem delivers_bind {x : Act α} {f : α → Act Response}
    (first : Within (World.KeepsPrompts Prompt.Makes) x) (rest : ∀ a, Delivers m (f a)) :
    Delivers m (x >>= f) := by
  intro w w' r makes ran
  obtain ⟨a, v, half, ran⟩ := runFrom_bind_eq_ok_iff.1 ran
  exact rest a (first half makes) ran

theorem keepsPrompts_lookup (l : Lookup α) :
    Within (World.KeepsPrompts Prompt.Makes) (Act.lookup l) :=
  Act.keepsPrompts_of_spares (Act.spares_lookup "" l)

theorem keepsPrompts_ensure (code : String) :
    Within (World.KeepsPrompts Prompt.Makes) (Registry.ensure code) :=
  Registry.keepsPrompts_ensure (fun s => Definition.makes_prompt s Store.options) code

/-- Removing a position leaves the canned replies alone, and all that is not cached. -/
theorem spares_clear (customer : String) :
    Act.Spares CannedReply.cacheKey (Position.clear customer) :=
  Act.spares_forget (cacheKey_ne customer).symm

/-! ## Texts of the bot -/

theorem delivers_say (body status : String) : Delivers m (say m body status) := by
  intro w w' r _ ran
  unfold say at ran
  obtain ⟨message, v, looked, ran⟩ := runFrom_bind_eq_ok_iff.1 ran
  cases ran
  exact ⟨message, rfl, Message.suits_of_ofText (Prod.mk.inj looked).1⟩

/-! ## Turns -/

/-- The message of a turn is all that is sent. -/
theorem delivers_settle (before : Position) {t : Turn} (suits : t.Suits m.address) :
    Delivers m (settle m before t) := by
  intro w w' r _ ran
  unfold settle at ran
  rw [runFrom_bind_of_ok (runFrom_get w)] at ran
  dsimp only at ran
  split at ran
  · obtain ⟨_, v, -, ran⟩ := runFrom_bind_eq_ok_iff.1 ran
    cases ran
    exact ⟨t.message, rfl, suits⟩
  · obtain ⟨_, v, -, ran⟩ := runFrom_bind_eq_ok_iff.1 ran
    cases ran
    exact ⟨t.message, rfl, suits⟩

/-- What is done with a turn delivers, when the channel takes what the turn shows. -/
theorem delivers_turn {l : World → Lookup (Option Turn)} {f : Option Turn → Act Response}
    (gives : ∀ w, w.registry.EveryPrompt Prompt.Makes → Gives (Turn.Suit? m.address) (l w))
    (rest : ∀ t?, Turn.Suit? m.address t? → Delivers m (f t?)) :
    Delivers m (do f (← Act.lookup (l (← get)))) := by
  intro w w' r makes ran
  rw [runFrom_bind_of_ok (runFrom_get w)] at ran
  obtain ⟨t?, v, looked, ran⟩ := runFrom_bind_eq_ok_iff.1 ran
  exact rest t? (gives w makes (runFrom_of_lookup looked)) (keepsPrompts_lookup _ looked makes) ran

theorem delivers_start (code : String) : Delivers m (start m code) := by
  unfold start
  refine delivers_bind m (keepsPrompts_ensure code) fun _ => ?_
  refine delivers_turn m (fun w makes => Turn.suits_of_start m.address makes _ _) fun t? suits => ?_
  cases t? with
  | none => exact delivers_say m _ _
  | some t => exact delivers_settle m {} (suits t rfl)

theorem delivers_openMenu : Delivers m (openMenu m) :=
  delivers_bind m within_get fun w => delivers_start m w.opening

theorem delivers_answerIntent (intent : Intent) : Delivers m (answerIntent m intent) := by
  cases intent with
  | greeting => exact delivers_openMenu m
  | sale => exact delivers_start m _
  | question => exact delivers_start m _
  | farewell => exact delivers_say m _ _
  | thanks => exact delivers_say m _ _
  | unknown => exact delivers_say m _ _

theorem delivers_answerFresh : Delivers m (answerFresh m) := by
  unfold answerFresh
  split
  · exact delivers_openMenu m
  · dsimp only
    split
    · exact delivers_answerIntent m _
    · refine delivers_bind m
        (Act.keepsPrompts_of_spares (spares_cannedReply? m.customer m.input)) fun reply? => ?_
      cases reply? with
      | none => exact delivers_answerIntent m _
      | some reply => exact delivers_say m _ _

theorem delivers_answerAt (p : Position) : Delivers m (answerAt m p) := by
  unfold answerAt
  refine delivers_bind m (keepsPrompts_ensure _) fun _ => ?_
  refine delivers_turn m (fun w makes => Turn.suits_of_answer m.address makes _ _ _)
    fun t? suits => ?_
  cases t? with
  | none =>
    exact delivers_bind m (Act.keepsPrompts_of_spares (spares_clear m.customer)) fun _ =>
      delivers_say m _ _
  | some t => exact delivers_settle m p (suits t rfl)

theorem delivers_cancel (p : Position) : Delivers m (cancel m p) := by
  unfold cancel
  split
  · exact delivers_openMenu m
  · refine delivers_bind m (Act.keepsPrompts_of_spares (spares_clear m.customer)) fun _ => ?_
    intro w w' r _ ran
    obtain ⟨message, v, looked, ran⟩ := runFrom_bind_eq_ok_iff.1 ran
    cases ran
    exact ⟨message, rfl, Message.suits_of_ofText (Prod.mk.inj looked).1⟩

/-! ## Messages -/

theorem keepsPrompts_current (p : Position) :
    Within (World.KeepsPrompts Prompt.Makes) (current m p) := by
  unfold current
  split
  · exact within_pure p
  · refine within_bind within_get fun w => within_bind (keepsPrompts_lookup _) fun isActive => ?_
    split
    · exact within_pure p
    · exact within_bind (Act.keepsPrompts_of_spares (spares_clear m.customer)) fun _ =>
        within_pure _

theorem delivers_respond : Delivers m (respond m) := by
  unfold respond
  refine delivers_bind m (within_bind (Act.keepsPrompts_of_spares (Act.spares_cached? "" _))
    fun _ => within_pure _) fun p => delivers_bind m within_get fun w => ?_
  split
  · exact delivers_cancel m p
  · refine delivers_bind m (keepsPrompts_current m p) fun q => ?_
    split
    · exact delivers_answerAt m q
    · exact delivers_answerFresh m

variable {m}

/-- **Every answer is one deliverable message.** Whatever the database and the cache hold: when the
prompts of all registered flows make their contents and a message is answered, then the response is
one message, to the sender and through the number that received the message, and its content is
within all limits of the channel. -/
theorem delivers_of_process {w w' : World} {r : Response}
    (makes : w.registry.EveryPrompt Prompt.Makes) (ran : runFrom w (process m) = (.ok r, w')) :
    ∃ message, r.messages = [message] ∧ message.recipient = m.customer ∧ message.via = m.via ∧
      message.content.Suits := by
  unfold process at ran
  obtain ⟨response, v, responded, ran⟩ := runFrom_bind_eq_ok_iff.1 ran
  cases ran
  obtain ⟨message, one, suits⟩ := delivers_respond m makes responded
  exact ⟨message, one, suits.recipient, suits.via, suits.content⟩

set_option maxRecDepth 20000 in
theorem delivers_of_process_tap :
    confused.registry.EveryPrompt Prompt.Makes ∧
      ∃ r w', runFrom confused (process tap) = (.ok r, w') ∧ r.flow = some "lobby" ∧
        ∃ message, r.messages = [message] ∧ message.recipient = "549" ∧ message.via = none ∧
          message.content.Suits := by
  have makes : confused.registry.EveryPrompt Prompt.Makes := by
    refine Registry.everyPrompt_of_mem fun entry mem step listed => ?_
    rw [List.mem_singleton.1 mem] at listed
    rw [List.mem_singleton.1 listed]
    exact .text _
  have answered : ∃ r w', runFrom confused (process tap) = (.ok r, w') ∧ r.flow = some "lobby" :=
    ⟨_, _, by cbv, by cbv⟩
  obtain ⟨r, w', ran, flow⟩ := answered
  exact ⟨makes, r, w', ran, flow, delivers_of_process makes ran⟩

end Conversation

end Dialogue
