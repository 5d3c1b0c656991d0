import Dialogue.Proofs.Comparing
import Dialogue.Proofs.Definition.Reread
import Dialogue.Proofs.Json.Plain
import Dialogue.Proofs.World

/-!
# Replies that are kept

The active replies are kept as a text in the cache. They are read back from it as they were, so it
makes no difference whether replies are read from the database or from a text that was written from
it: either way they are those that the database holds.

Main statements: `ofText?_of_written`, kept replies are read back; `given_active`, what is read
where the cache holds nothing else.
-/

namespace Dialogue

open Effect Checked

theorem TriggerKind.named?_name (kind : TriggerKind) : named? kind.name = some kind := by
  cases kind <;> decide

namespace CannedReply

/-! ## Texts -/

theorem read_toJson (r : CannedReply) : read r.toJson = .good r := by
  show _ = good (CannedReply.mk r.trigger r.kind r.response r.category r.priority r.isActive)
  refine seq_good ?_ (defaulted_of_get? rfl rfl)
  refine seq_good ?_ (defaulted_of_get? rfl rfl)
  refine seq_good ?_ (maybe_text_of_get? rfl)
  refine seq_good ?_ (required_of_get? rfl rfl)
  refine seq_good ?_
    (defaulted_of_get? rfl (Definition.asChoice_named (TriggerKind.named?_name r.kind)))
  exact map_good _ (required_of_get? rfl rfl)

/-- A reply that can be written is within what a cached text may hold. -/
theorem plain_toJson {r : CannedReply} (writable : r.isWritable = true) (depth : Nat) :
    Json.Plain limits (depth + 1) r.toJson := by
  have short : limits.isTooLong false (Nat.toDigits 10 r.priority.natAbs).length = false := by
    unfold isWritable Checked.mostDigits at writable
    rw [decide_eq_true_eq] at writable
    simpa [limits] using writable
  have category : Json.Plain limits depth (.ofText? r.category) := by
    cases r.category with
    | none => exact .null depth
    | some category => exact .str depth category
  have distinct : ["trigger", "trigger_type", "response", "category", "priority",
      "is_active"].Nodup := by decide
  refine .obj (fun entry mem => ?_) distinct
  simp only [List.mem_cons, List.not_mem_nil, or_false] at mem
  rcases mem with rfl | rfl | rfl | rfl | rfl | rfl
  · exact .str depth _
  · exact .str depth _
  · exact .str depth _
  · exact category
  · exact .int depth short
  · exact .bool depth _

variable {replies : List CannedReply} {text : String}

/-- **Kept replies are read back.** -/
theorem ofText?_of_written (kept : written replies = .ok text) :
    ofText? text = .ok (some replies) := by
  unfold written at kept
  split at kept
  · next writable =>
    cases kept
    have plain : Json.Plain limits limits.depth (.arr (replies.map toJson)) := by
      refine .arr fun item mem => ?_
      obtain ⟨r, listed, rfl⟩ := List.mem_map.1 mem
      exact plain_toJson (List.all_eq_true.1 writable r listed) _
    have back (replies : List CannedReply) :
        (replies.map toJson).mapM (fun item => (read item).toOption) = some replies := by
      induction replies with
      | nil => rfl
      | cons r rest ih =>
        rw [List.map_cons, List.mapM_cons, read_toJson, ih]
        rfl
    unfold ofText? textOf
    rw [Json.read_render plain]
    simp only [back]
  · cases kept

end CannedReply

/-! ## Reading replies -/

namespace Backend

/-- The active replies that the database gives, if they can be read and kept. -/
def activeReplies (b : Backend) : Except Fault (List CannedReply) :=
  (runFrom b CannedReply.fresh).1.map Prod.fst

/-- A cached value is the text that keeps what the database gives. -/
def Keeps (b : Backend) (payload : Payload) : Prop :=
  ∃ kept, (runFrom b CannedReply.fresh).1 = .ok kept ∧ payload = .text kept.2

variable {b c : Backend}

theorem Alike.activeReplies (alike : b.Alike c) : c.activeReplies = b.activeReplies :=
  congrArg (Except.map Prod.fst) (Lookup.composable_blind.fresh alike).given.symm

theorem Alike.keeps (alike : b.Alike c) {payload : Payload} (keeps : b.Keeps payload) :
    c.Keeps payload := by
  obtain ⟨kept, given, same⟩ := keeps
  exact ⟨kept, (Lookup.composable_blind.fresh alike).given.symm.trans given, same⟩

/-- **What was written from a database is read** as what the database gives. -/
theorem Keeps.ofText? {text : String} (keeps : b.Keeps (.text text)) :
    ∃ replies, CannedReply.ofText? text = .ok (some replies) ∧ b.activeReplies = .ok replies := by
  obtain ⟨kept, given, ⟨⟩⟩ := keeps
  have ran : runFrom b CannedReply.fresh = (.ok kept, (runFrom b CannedReply.fresh).2) :=
    Prod.ext given rfl
  obtain ⟨replies, c, -, ran⟩ := runFrom_bind_eq_ok_iff.1 ran
  obtain ⟨text, e, written, ran⟩ := runFrom_bind_eq_ok_iff.1 ran
  cases ran
  refine ⟨replies, CannedReply.ofText?_of_written (Prod.mk.inj written).1, ?_⟩
  unfold activeReplies
  rw [given]
  rfl

end Backend

/-- What is read as a text is what is stored under the key and still kept. -/
theorem Cache.exists_entry_of_text? {c : Cache} {now : Instant} {key text : String}
    (found : c.text? now key = some text) :
    ∃ e, c.entries.get? key = some e ∧ c.isKept now e = true ∧ e.payload = .text text := by
  unfold text? read? at found
  cases entry : c.entries.get? key with
  | none =>
    rw [entry] at found
    cases found
  | some e =>
    rw [entry, Option.filter_some] at found
    split at found
    · cases found
    · cases found
    · next s _ here =>
      cases found
      split at here
      · next kept => exact ⟨e, rfl, kept, Option.some.inj here⟩
      · cases here
    · cases found

namespace CannedReply

/-- **Reading the replies again** gives those of the database and keeps them, unless the cache
fails. -/
theorem runFrom_refresh (w : World) :
    ∃ b cache n, runFrom w refresh =
        (w.backend.activeReplies, { w with backend := b, cache := cache }) ∧
      w.backend.Rests b ∧ (cache = { w.cache with uses := n } ∨
        ∃ kept, (runFrom w.backend fresh).1 = .ok kept ∧
          cache = { w.cache with uses := n }.write cacheKey
            ⟨.text kept.2, some w.config.replySeconds, w.now⟩) := by
  have rests : Lookup.Rests fresh := Lookup.composable_rests.fresh
  unfold refresh Backend.activeReplies
  rw [runFrom_bind, runFrom_lookup]
  rcases looked : runFrom w.backend fresh with ⟨fault | kept, b⟩
  · exact ⟨b, w.cache, w.cache.uses, rfl, rests looked, .inl rfl⟩
  · have ends {v : World} (remembered : runFrom { w with backend := b }
        (Act.remember cacheKey kept.2 w.config.replySeconds) = (.ok (), v)) :
        runFrom { w with backend := b } (do
          Act.remember cacheKey kept.2 (← get).config.replySeconds
          return kept.1) = (.ok kept.1, v) := by
      rw [runFrom_bind_of_ok (runFrom_get _), runFrom_bind_of_ok remembered]
      rfl
    obtain ⟨c, n, same, remembered | remembered⟩ :=
      Act.exists_remember { w with backend := b } cacheKey kept.2 w.config.replySeconds
    · exact ⟨c, _, n, ends remembered,
        Lasting.trans (rests looked) ⟨b.database.uses, by rw [same]⟩, .inl rfl⟩
    · exact ⟨c, _, w.cache.uses + 1, ends remembered,
        Lasting.trans (rests looked) ⟨b.database.uses, by rw [same]⟩,
        .inr ⟨kept, rfl, rfl⟩⟩

/-- **The active replies are read again**, or they are taken from what the cache still holds. -/
theorem active_cases (w : World) :
    (runFrom w active).1 = w.backend.activeReplies ∨
      ∃ e text, w.cache.isConnected = true ∧ w.cache.entries.get? cacheKey = some e ∧
        w.cache.isKept w.now e = true ∧ e.payload = .text text ∧
        ∀ replies, ofText? text = .ok (some replies) → (runFrom w active).1 = .ok replies := by
  obtain ⟨found, b, n, read, same, given⟩ := Act.exists_cached? w cacheKey
  unfold active
  rw [runFrom_bind_of_ok read]
  cases found with
  | none =>
    have alike : w.backend.Alike b := (Backend.alike_refl _).of_database rfl same
    obtain ⟨c, cache, n, refreshed, -⟩ :=
      runFrom_refresh { w with backend := b, cache := { w.cache with uses := n } }
    refine .inl ?_
    show (runFrom _ refresh).1 = _
    rw [refreshed]
    exact alike.activeReplies
  | some text =>
    obtain ⟨⟨⟩⟩ | ⟨connected, held⟩ := given
    obtain ⟨e, entry, kept, payload⟩ := Cache.exists_entry_of_text? held.symm
    refine .inr ⟨e, text, connected, entry, kept, payload, fun replies back => ?_⟩
    show (runFrom _ (Act.lookup (Lookup.ofExcept (ofText? text)) >>= _)).1 = _
    rw [back]
    rfl

/-- **The active replies are those of the database**, where the cache holds what was written from
it, or nothing. -/
theorem given_active {w : World}
    (kept : ∀ e ∈ w.cache.entries.get? cacheKey, w.backend.Keeps e.payload) :
    (runFrom w active).1 = w.backend.activeReplies := by
  obtain given | ⟨e, text, -, entry, -, payload, given⟩ := active_cases w
  · exact given
  · obtain ⟨replies, back, held⟩ := Backend.Keeps.ofText? (payload ▸ kept e entry)
    rw [given replies back, held]

end CannedReply

end Dialogue
