import Dialogue.Proofs.Reply.Recent

/-!
# Asking for canned replies

What asking for the replies gives when the cache works and the database answers. A text in the cache
decides alone: replies that it gives are taken, a fault of reading it ends the lookup, and only
where it holds no replies the database is read and the text is replaced. A message is then compared
with the replies in turn.

Main statements: `runFrom_active_of_text`, `runFrom_refresh_of_written`, and `runFrom_findMatch`, a
message gets the first of the active replies that it calls for.
-/

namespace Dialogue

open Effect

/-- Reading a text from a cache that works leaves the database as it is. -/
theorem Act.exists_cached?_of_works {w : World} (works : w.cache.Works) (key : String) :
    ∃ b, b.database = w.backend.database ∧ runFrom w (Act.cached? key) =
      (.ok (w.cache.text? w.now key), { w with backend := b, cache := w.cache.used }) := by
  obtain ⟨found, b, n, read, same, -⟩ := Act.exists_cached? w key
  obtain ⟨c, read'⟩ := Act.runFrom_cached? works key
  have left := (Prod.mk.inj (read.symm.trans read')).2
  have backend : b = c := congrArg World.backend left
  subst backend
  exact ⟨b, same, read'⟩

namespace CannedReply

variable {w v : World} {text : String} {replies : List CannedReply} {fault : Fault}

/-! ## The cached text -/

/-- Where the cache holds no text, the replies are read from the database. -/
theorem runFrom_active_of_none (works : w.cache.Works)
    (none_ : w.cache.text? w.now cacheKey = none) :
    ∃ b, b.database = w.backend.database ∧
      runFrom w active = runFrom { w with backend := b, cache := w.cache.used } refresh := by
  obtain ⟨b, same, read⟩ := Act.exists_cached?_of_works works cacheKey
  refine ⟨b, same, ?_⟩
  unfold active
  rw [runFrom_bind_of_ok read, none_]

/-- **A text in the cache** decides what is given, and whether the database is read. -/
theorem runFrom_active_of_text (works : w.cache.Works)
    (held : w.cache.text? w.now cacheKey = some text) :
    ∃ b, b.database = w.backend.database ∧ runFrom w active =
      match ofText? text with
      | .ok (some replies) => (.ok replies, { w with backend := b, cache := w.cache.used })
      | .ok none => runFrom { w with backend := b, cache := w.cache.used } refresh
      | .error fault => (.error fault, { w with backend := b, cache := w.cache.used }) := by
  obtain ⟨b, same, read⟩ := Act.exists_cached?_of_works works cacheKey
  refine ⟨b, same, ?_⟩
  unfold active
  rw [runFrom_bind_of_ok read, held]
  show runFrom _ (Act.lookup (Lookup.ofExcept (ofText? text)) >>= _) = _
  cases ofText? text with
  | error fault => rfl
  | ok replies? => cases replies? <;> rfl

/-! ## Reading the database -/

/-- **Reading the replies again** gives those that the database holds, and the text that keeps them
takes the place of what was cached. -/
theorem runFrom_refresh_of_written (works : w.cache.Works) (answers : w.backend.Answers)
    (wrote : written w.backend.database.activeReplies = .ok text) :
    ∃ b, runFrom w refresh = (.ok w.backend.database.activeReplies, { w with
      backend := b
      cache := w.cache.used.write cacheKey
        ⟨.text text, some w.config.replySeconds, w.now⟩ }) := by
  obtain ⟨c, found⟩ := runFrom_findActive answers
  have looked : runFrom w.backend fresh = (.ok (w.backend.database.activeReplies, text), c) := by
    unfold fresh
    rw [runFrom_bind_of_ok found, wrote]
    rfl
  have read : runFrom w (Act.lookup fresh) =
      (.ok (w.backend.database.activeReplies, text), { w with backend := c }) := by
    rw [runFrom_lookup, looked]
  have works' : ({ w with backend := c } : World).cache.Works := works
  obtain ⟨b, remembered⟩ := Act.runFrom_remember works' cacheKey text w.config.replySeconds
  refine ⟨b, ?_⟩
  unfold refresh
  rw [runFrom_bind_of_ok read, runFrom_bind_of_ok (runFrom_get _), runFrom_bind_of_ok remembered]
  rfl

/-- Replies that cannot be written are a fault, also where they were read. -/
theorem given_refresh_of_not_written (answers : w.backend.Answers)
    (fails : written w.backend.database.activeReplies = .error fault) :
    (runFrom w refresh).1 = .error fault := by
  obtain ⟨c, found⟩ := runFrom_findActive answers
  have looked : runFrom w.backend fresh = (.error fault, c) := by
    unfold fresh
    rw [runFrom_bind_of_ok found, fails]
    rfl
  have read : runFrom w (Act.lookup fresh) = (.error fault, { w with backend := c }) := by
    rw [runFrom_lookup, looked]
  unfold refresh
  rw [runFrom_bind_of_error read]

/-- Replies can be written, or writing them is a fault. -/
theorem written_cases (replies : List CannedReply) :
    (replies.all isWritable = true ∧ written replies = .ok (textOf replies)) ∨
      (replies.all isWritable = false ∧ written replies = .error (.longInteger none)) := by
  unfold written
  cases writable : replies.all isWritable with
  | true => exact .inl ⟨rfl, rfl⟩
  | false => exact .inr ⟨rfl, rfl⟩

/-! ## Messages -/

/-- A message that folds to nothing gets no reply. -/
theorem runFrom_findMatch_of_blank {message : String} (blank : Text.fold message = "") (w : World) :
    runFrom w (findMatch message) = (.ok none, w) := by
  unfold findMatch
  rw [blank]
  rfl

/-- **A message gets the first of the active replies that it calls for**, and comparing it with them
leaves the cache alone. -/
theorem runFrom_findMatch {message : String} (filled : Text.fold message ≠ "") (w : World) :
    (runFrom w (findMatch message)).1 =
        ((runFrom w active).1 >>= fun replies => firstFor? (Text.fold message) replies) ∧
      (runFrom w (findMatch message)).2.cache = (runFrom w active).2.cache := by
  unfold findMatch
  dsimp only
  rw [if_neg filled, runFrom_bind]
  rcases runFrom w active with ⟨fault | replies, v⟩
  · exact ⟨rfl, rfl⟩
  · show (runFrom v (Act.lookup (Lookup.ofExcept (firstFor? _ replies)) >>= _)).1 =
          firstFor? _ replies ∧
        (runFrom v (Act.lookup (Lookup.ofExcept (firstFor? _ replies)) >>= _)).2.cache = v.cache
    cases firstFor? (Text.fold message) replies with
    | error fault => exact ⟨rfl, rfl⟩
    | ok found? => cases found? <;> exact ⟨rfl, rfl⟩

end CannedReply

end Dialogue
