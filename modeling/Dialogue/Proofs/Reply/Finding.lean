import Dialogue.Conversation.Basic
import Dialogue.Proofs.World

/-!
# Finding canned replies

Canned replies are read from the cache or from the database, and what was read from the database is
cached. So finding a reply changes what was counted and one entry of the cache.

Main statement: `World.Tolerant.cannedReply?`.
-/

namespace Dialogue.World.Tolerant

open Effect

variable {R : World → World → Prop} [Lasting R]

theorem refresh (tolerant : World.Tolerant R)
    (writes : ∀ w e, R w { w with cache := w.cache.write CannedReply.cacheKey e }) :
    Within R CannedReply.refresh :=
  within_bind (tolerant.looks Lookup.composable_rests.fresh) fun _ =>
    within_bind within_get fun _ =>
      within_bind (tolerant.lenient.remember writes _ _) fun _ => within_pure _

/-- The active replies are taken from the cache or read again. -/
theorem activeReplies_of_refresh (tolerant : World.Tolerant R)
    (refreshes : Within R CannedReply.refresh) : Within R CannedReply.active := by
  refine within_bind (tolerant.lenient.cached? _) fun text? => ?_
  cases text? with
  | none => exact refreshes
  | some text =>
    refine within_bind (tolerant.ofExcept _) fun replies? => ?_
    cases replies? with
    | none => exact refreshes
    | some replies => exact within_pure replies

theorem activeReplies (tolerant : World.Tolerant R)
    (writes : ∀ w e, R w { w with cache := w.cache.write CannedReply.cacheKey e }) :
    Within R CannedReply.active :=
  tolerant.activeReplies_of_refresh (tolerant.refresh writes)

/-- Comparing a message with the active replies does no more than finding them, and what is
counted. -/
theorem findMatch (tolerant : World.Tolerant R) (actives : Within R CannedReply.active)
    (message : String) : Within R (CannedReply.findMatch message) := by
  unfold CannedReply.findMatch
  dsimp only
  split
  · exact within_pure none
  · refine within_bind actives fun replies => ?_
    refine within_bind (tolerant.ofExcept _) fun found? => ?_
    cases found? with
    | none => exact within_pure none
    | some reply => exact within_bind (tolerant.lenient.notes _) fun _ => within_pure _

/-- **Finding a canned reply** does no more than caching the replies, and what is counted. -/
theorem cannedReply? (tolerant : World.Tolerant R)
    (writes : ∀ w e, R w { w with cache := w.cache.write CannedReply.cacheKey e })
    (input : String) : Within R (Conversation.cannedReply? input) := by
  refine within_bind within_get fun w => ?_
  split
  · exact tolerant.findMatch (tolerant.activeReplies writes) input
  · exact within_pure none

end Dialogue.World.Tolerant
