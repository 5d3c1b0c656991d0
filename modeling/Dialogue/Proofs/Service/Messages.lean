import Dialogue.Conversation.Basic
import Dialogue.Proofs.Reply.Finding
import Dialogue.Proofs.Service.Requests

/-!
# Messages to a bot that serves

A message may load the flow that it needs, shows steps of registered flows and stores where the
conversation stands. None of this changes the stored definitions or puts another flow in service.

Main statement: `maintains_process`.
-/

namespace Dialogue

open Effect Act

variable {shelf : Table Definition}

namespace Conversation

theorem maintains_say (m : Incoming) (body status : String) :
    Maintains (World.Serves shelf) (say m body status) :=
  within_bind (tolerant_maintains.ofExcept _) fun _ => within_pure _

theorem maintains_clear (customer : String) :
    Maintains (World.Serves shelf) (Position.clear customer) :=
  tolerant_maintains.lenient.forget fun _ => kept_cache _ _

theorem maintains_save (customer : String) (p : Position) :
    Maintains (World.Serves shelf) (Position.save customer p) := by
  have remembers (text : String) (seconds : Int) : Maintains (World.Serves shelf)
      (remember (Position.cacheKey customer) text seconds) :=
    tolerant_maintains.lenient.remember (fun _ _ => kept_cache _ _) text seconds
  unfold Position.save
  split
  · exact within_bind (within_throw _) fun _ => within_bind within_get fun _ => remembers _ _
  · exact within_bind within_get fun _ => remembers _ _

theorem maintains_settle (m : Incoming) (before : Position) (turn : Turn) :
    Maintains (World.Serves shelf) (settle m before turn) := by
  refine within_bind within_get fun w => ?_
  dsimp only
  cases before.after turn.move w.clock with
  | none => exact within_bind (maintains_clear _) fun _ => within_pure _
  | some p => exact within_bind (maintains_save _ p) fun _ => within_pure _

/-- Starting a flow shows a step of a flow in service. -/
theorem maintains_start (m : Incoming) (code : String) :
    Maintains (World.Serves shelf) (start m code) := by
  refine within_bind (Registry.maintains_ensure code) fun _ => ?_
  refine maintains_get_bind fun w serves => ?_
  refine within_bind (maintains_lookup (Turn.reads_start _ serves.reads _ _)) fun turn? => ?_
  cases turn? with
  | none => exact maintains_say m _ _
  | some turn => exact maintains_settle m {} turn

theorem maintains_openMenu (m : Incoming) : Maintains (World.Serves shelf) (openMenu m) :=
  within_bind within_get fun w => maintains_start m w.opening

theorem maintains_cancel (m : Incoming) (p : Position) :
    Maintains (World.Serves shelf) (cancel m p) := by
  unfold cancel
  split
  · exact maintains_openMenu m
  · exact within_bind (maintains_clear _) fun _ =>
      within_bind (tolerant_maintains.ofExcept _) fun _ => within_pure _

theorem maintains_answerIntent (m : Incoming) (intent : Intent) :
    Maintains (World.Serves shelf) (answerIntent m intent) := by
  cases intent with
  | greeting => exact maintains_openMenu m
  | sale => exact maintains_start m _
  | question => exact maintains_start m _
  | farewell => exact maintains_say m _ _
  | thanks => exact maintains_say m _ _
  | unknown => exact maintains_say m _ _

theorem maintains_answerFresh (m : Incoming) :
    Maintains (World.Serves shelf) (answerFresh m) := by
  unfold answerFresh
  split
  · exact maintains_openMenu m
  · dsimp only
    split
    · exact maintains_answerIntent m _
    · have canned : Maintains (World.Serves shelf) (cannedReply? m.input) :=
        tolerant_maintains.cannedReply? (fun _ _ => kept_cache _ _) m.input
      refine within_bind canned fun reply? => ?_
      cases reply? with
      | none => exact maintains_answerIntent m _
      | some reply => exact maintains_say m _ _

/-- Answering at a position shows a step of a flow in service. -/
theorem maintains_answerAt (m : Incoming) (p : Position) :
    Maintains (World.Serves shelf) (answerAt m p) := by
  unfold answerAt
  dsimp only
  refine within_bind (Registry.maintains_ensure _) fun _ => ?_
  refine maintains_get_bind fun w serves => ?_
  refine within_bind (maintains_lookup (Turn.reads_answer _ serves.reads _ _ _)) fun turn? => ?_
  cases turn? with
  | none => exact within_bind (maintains_clear _) fun _ => maintains_say m _ _
  | some turn => exact maintains_settle m p turn

theorem maintains_current (m : Incoming) (p : Position) :
    Maintains (World.Serves shelf) (current m p) := by
  unfold current
  split
  · exact within_pure p
  · refine within_bind within_get fun w => ?_
    refine within_bind (tolerant_maintains.ofExcept _) fun isActive => ?_
    split
    · exact within_pure p
    · exact within_bind (maintains_clear _) fun _ => within_pure _

/-- **A message keeps a bot serving**, whether it can be answered or not. -/
theorem maintains_process (m : Incoming) : Maintains (World.Serves shelf) (process m) := by
  refine within_bind ?_ fun _ => within_bind (maintains_note _) fun _ => within_pure _
  refine within_bind (within_bind (tolerant_maintains.lenient.cached? _) fun _ => within_pure _)
    fun p => ?_
  refine within_bind within_get fun w => ?_
  split
  · exact maintains_cancel m p
  · refine within_bind (maintains_current m p) fun q => ?_
    split
    · exact maintains_answerAt m q
    · exact maintains_answerFresh m

end Conversation

end Dialogue
