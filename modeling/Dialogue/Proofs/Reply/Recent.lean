import Dialogue.Proofs.Reply.Finding
import Dialogue.Proofs.Reply.Keeping

/-!
# How old the active replies are

The active replies are cached for some seconds. Meanwhile the collection may be edited, so what is
read may be older than what is stored, but not by more than these seconds: the cached text was
written from the database, and the cache forgets it in time. Reloading drops it at once.

Main statements: `Upkeep.tends_after`, what one event does to the cached replies;
`Upkeep.traced_afterAll`, where they come from after any number of events;
`Upkeep.recent_of_active`.
-/

namespace Dialogue

open Effect

/-! ## The replies that a database holds -/

/-- The active replies that a database holds, those of the highest priority first. -/
def Database.activeReplies (db : Database) : List CannedReply :=
  (db.select .replies [("isActive", .value (.bool true))] (some ⟨"priority", true⟩)).filterMap
    CannedReply.ofDocument?

namespace CannedReply

variable {b c : Backend}

/-- A database that answers gives the replies that it holds. -/
theorem runFrom_findActive (answers : b.Answers) :
    ∃ c, runFrom b findActive = (.ok b.database.activeReplies, c) := by
  unfold findActive
  rw [runFrom_bind_of_ok (Lookup.runFrom_select answers ..)]
  exact ⟨_, rfl⟩

theorem runFrom_findActive_of_not_answers (down : ¬ b.Answers) :
    runFrom b findActive = (.error .databaseDown, b.used) := by
  unfold findActive Lookup.select
  rw [runFrom_bind_of_error (runFrom_bind_of_error (Lookup.runFrom_use_of_not_answers down))]

/-- What is read to be kept are the replies that the database holds, and their text. -/
theorem of_runFrom_fresh {kept : List CannedReply × String}
    (given : (runFrom b fresh).1 = .ok kept) :
    kept.1 = b.database.activeReplies ∧ written b.database.activeReplies = .ok kept.2 := by
  have ran : runFrom b fresh = (.ok kept, (runFrom b fresh).2) := Prod.ext given rfl
  obtain ⟨replies, c, found, ran⟩ := runFrom_bind_eq_ok_iff.1 ran
  obtain ⟨text, d, wrote, ran⟩ := runFrom_bind_eq_ok_iff.1 ran
  cases ran
  by_cases answers : b.Answers
  · obtain ⟨e, gives⟩ := runFrom_findActive answers
    rw [gives] at found
    cases found
    exact ⟨rfl, (Prod.mk.inj wrote).1⟩
  · rw [runFrom_findActive_of_not_answers answers] at found
    cases found

end CannedReply

namespace Backend

variable {b c : Backend}

theorem activeReplies_of_ok {replies : List CannedReply} (given : b.activeReplies = .ok replies) :
    replies = b.database.activeReplies := by
  unfold activeReplies at given
  cases read : (runFrom b CannedReply.fresh).1 with
  | error fault =>
    rw [read] at given
    cases given
  | ok kept =>
    rw [read] at given
    cases given
    exact (CannedReply.of_runFrom_fresh read).1

/-- Reading the replies fails only where the database does not answer, or one of them cannot be
written. -/
theorem activeReplies_of_error {fault : Fault} (fails : b.activeReplies = .error fault)
    (answers : b.Answers) : b.database.activeReplies.all CannedReply.isWritable = false := by
  obtain ⟨c, found⟩ := CannedReply.runFrom_findActive answers
  unfold activeReplies CannedReply.fresh at fails
  rw [runFrom_bind_of_ok found] at fails
  by_contra writable
  rw [Bool.not_eq_false] at writable
  unfold CannedReply.written at fails
  rw [if_pos writable] at fails
  cases fails

/-- Asking a database does not change the replies that it holds. -/
theorem Rests.replies (rests : b.Rests c) :
    c.database.activeReplies = b.database.activeReplies := by
  obtain ⟨n, same⟩ := rests
  rw [same]
  rfl

end Backend

/-! ## Where a cached text comes from -/

/-- An entry was written from the database of a world, at the time that its clock showed. -/
structure CacheEntry.WrittenFrom (e : CacheEntry) (u : World) : Prop where
  payload : ∃ text, CannedReply.written u.backend.database.activeReplies = .ok text ∧
    e.payload = .text text
  seconds : e.seconds = some u.config.replySeconds
  writtenAt : e.writtenAt = u.now

/-- Two worlds that differ in what was counted and in what is cached, where the replies that are
cached were written from the first. -/
structure World.Renews (w v : World) : Prop where
  idles : w.Idles v
  isConnected : v.cache.isConnected = w.cache.isConnected
  forgets : v.cache.forgets = w.cache.forgets
  outage : v.cache.outage = w.cache.outage
  entry : ∀ e, v.cache.entries.get? CannedReply.cacheKey = some e →
    w.cache.entries.get? CannedReply.cacheKey = some e ∨ e.WrittenFrom w

theorem CacheEntry.WrittenFrom.of_idles {e : CacheEntry} {w v : World} (idles : w.Idles v)
    (written : e.WrittenFrom v) : e.WrittenFrom w where
  payload := by
    rw [← idles.backend.replies]
    exact written.payload
  seconds := by
    rw [← idles.config]
    exact written.seconds
  writtenAt := written.writtenAt.trans (congrArg Stamp.moment idles.clock)

instance : Lasting World.Renews where
  refl w := ⟨Lasting.refl w, rfl, rfl, rfl, fun _ => .inl⟩
  trans first second :=
    ⟨Lasting.trans first.idles second.idles, second.isConnected.trans first.isConnected,
      second.forgets.trans first.forgets, second.outage.trans first.outage, fun e held => by
        obtain held | written := second.entry e held
        · exact first.entry e held
        · exact .inr (written.of_idles first.idles)⟩

theorem World.tolerant_renews : World.Tolerant World.Renews where
  looks rests := by
    intro w v result ran
    have idles := World.tolerant_idles.looks rests ran
    cases ran
    exact ⟨idles, rfl, rfl, rfl, fun _ => .inl⟩
  uses := by
    intro w v result ran
    have idles := World.tolerant_idles.uses ran
    cases ran
    exact ⟨idles, rfl, rfl, rfl, fun _ => .inl⟩

namespace CannedReply

variable {w v : World}

theorem renews_refresh : Within World.Renews refresh := by
  intro w v result ran
  obtain ⟨b, cache, n, refreshed, rests, rfl | ⟨kept, given, rfl⟩⟩ := runFrom_refresh w
  · rw [refreshed] at ran
    cases ran
    exact ⟨⟨rfl, rfl, rfl, rfl, rests⟩, rfl, rfl, rfl, fun _ => .inl⟩
  · rw [refreshed] at ran
    cases ran
    refine ⟨⟨rfl, rfl, rfl, rfl, rests⟩, rfl, rfl, rfl, fun e held => .inr ?_⟩
    have written := (Table.get?_set_self ..).symm.trans held
    cases written
    exact ⟨⟨kept.2, (of_runFrom_fresh given).2, rfl⟩, rfl, rfl⟩

theorem renews_active : Within World.Renews active :=
  World.tolerant_renews.activeReplies_of_refresh renews_refresh

theorem renews_forget : Within World.Renews (Act.forget cacheKey) := by
  refine World.tolerant_renews.lenient.forget fun w =>
    ⟨w.idles_cache _, rfl, rfl, rfl, fun e held => ?_⟩
  have gone : (w.cache.remove cacheKey).entries.get? cacheKey = none :=
    (Table.get?_erase ..).trans (if_pos rfl)
  cases gone.symm.trans held

theorem renews_reload : Within World.Renews reload :=
  within_bind renews_forget fun _ => within_bind renews_active fun _ => within_pure _

/-- **The active replies** are read from the database, or they are those from which an entry that is
kept was written. -/
theorem active_of_written (w : World) :
    (runFrom w active).1 = w.backend.activeReplies ∨
      ∃ e, w.cache.isConnected = true ∧ w.cache.entries.get? cacheKey = some e ∧
        w.cache.isKept w.now e = true ∧ ∀ u, e.WrittenFrom u →
          (runFrom w active).1 = .ok u.backend.database.activeReplies := by
  obtain given | ⟨e, text, connected, held, kept, payload, given⟩ := active_cases w
  · exact .inl given
  · refine .inr ⟨e, connected, held, kept, fun u written => ?_⟩
    obtain ⟨text', wrote, payload'⟩ := written.payload
    cases payload.symm.trans payload'
    exact given _ (ofText?_of_written wrote)

/-- Where nothing is cached, or the cache cannot be asked, the active replies are read. -/
theorem active_of_unset
    (unset : w.cache.isConnected = true → w.cache.entries.get? cacheKey = none) :
    (runFrom w active).1 = w.backend.activeReplies := by
  obtain given | ⟨e, text, connected, held, -⟩ := active_cases w
  · exact given
  · cases (unset connected).symm.trans held

/-- What the cached replies are dropped for: only those that the database holds are read, also
when the replies are asked for again. -/
theorem active_of_reload
    (removes : w.cache.isConnected = true → w.cache.isDown = false) :
    (∀ n, (runFrom w reload).1 = .ok n → n = w.backend.database.activeReplies.length) ∧
      ∀ replies, (runFrom (runFrom w reload).2 active).1 = .ok replies →
        replies = w.backend.database.activeReplies := by
  obtain ⟨v, dropped, renews, unset⟩ : ∃ v, runFrom w (Act.forget cacheKey) = (.ok (), v) ∧
      w.Renews v ∧ (v.cache.isConnected = true → v.cache.entries.get? cacheKey = none) := by
    obtain ⟨b, n, -, ⟨down, ran⟩ | ran⟩ := Act.exists_forget w cacheKey
    · refine ⟨_, ran, renews_forget ran, fun connected => ?_⟩
      cases (removes connected).symm.trans (down connected)
    · exact ⟨_, ran, renews_forget ran, fun _ => (Table.get?_erase ..).trans (if_pos rfl)⟩
  have same : v.backend.database.activeReplies = w.backend.database.activeReplies :=
    renews.idles.backend.replies
  have first := active_of_unset unset
  rcases looked : runFrom v active with ⟨result, u⟩
  rw [looked] at first
  have again : v.Renews u := renews_active looked
  have ran : runFrom w reload = (result.map List.length, u) := by
    unfold reload
    rw [runFrom_bind_of_ok dropped, runFrom_bind, looked]
    cases result <;> rfl
  rw [ran]
  refine ⟨fun n counted => ?_, fun replies given => ?_⟩
  · cases result with
    | error fault => cases counted
    | ok replies =>
      cases counted
      rw [Backend.activeReplies_of_ok first.symm, same]
  · obtain read | ⟨e, connected, held, -, cached⟩ := active_of_written u
    · rw [Backend.activeReplies_of_ok (read.symm.trans given), again.idles.backend.replies, same]
    · -- An entry that is there now was written on the way.
      obtain before | written := again.entry e held
      · cases (unset (again.isConnected.symm.trans connected)).symm.trans before
      · cases (cached v written).symm.trans given
        exact same

end CannedReply

/-! ## A run of events -/

/-- What happens to the canned replies: they are asked for, a message is compared with them, they
are reloaded, somebody edits the collection, or some microseconds pass. -/
inductive Upkeep where
  | looked
  | asked (message : String)
  | reloaded
  | edited (docs : List Fields)
  | passed (micros : Nat)

namespace Upkeep

/-- What the bot, or somebody else, does then. -/
def act : Upkeep → Act Unit
  | looked => discard CannedReply.active
  | asked message => discard (CannedReply.findMatch message)
  | reloaded => discard CannedReply.reload
  | edited docs => modify fun w =>
    { w with backend :=
      { w.backend with database := w.backend.database.withDocuments docs .replies } }
  | passed micros => discard (Act.advance micros)

/-- The bot after an event, also when it fails. -/
def after (w : World) (e : Upkeep) : World := (runFrom w e.act).2

/-- The bot after any number of events. -/
def afterAll (w : World) (events : List Upkeep) : World := events.foldl after w

theorem afterAll_concat (w : World) (events : List Upkeep) (e : Upkeep) :
    afterAll w (events ++ [e]) = after (afterAll w events) e := List.foldl_concat ..

variable {w v : World}

theorem left_discard {α : Type} (w : World) (x : Act α) :
    (runFrom w (discard x : Act Unit)).2 = (runFrom w x).2 := by
  show (runFrom w (x >>= fun _ => pure ())).2 = _
  rw [runFrom_bind]
  rcases runFrom w x with ⟨_ | _, _⟩ <;> rfl

/-- What events leave as it was, and time only passes. -/
structure Stays (w v : World) : Prop where
  config : v.config = w.config
  isConnected : v.cache.isConnected = w.cache.isConnected
  forgets : v.cache.forgets = w.cache.forgets
  outage : v.cache.outage = w.cache.outage
  up : w.backend.Up → v.backend.Up
  now : w.now ≤ v.now

instance : Lasting Stays where
  refl _ := ⟨rfl, rfl, rfl, rfl, id, Int.le_refl _⟩
  trans first second :=
    ⟨second.config.trans first.config, second.isConnected.trans first.isConnected,
      second.forgets.trans first.forgets, second.outage.trans first.outage, second.up ∘ first.up,
      Int.le_trans first.now second.now⟩

/-- What one event may do: what is cached then was cached before, or it was written from the world
before. -/
structure Tends (w v : World) : Prop where
  stays : Stays w v
  entry : ∀ e, v.cache.entries.get? CannedReply.cacheKey = some e →
    w.cache.entries.get? CannedReply.cacheKey = some e ∨ e.WrittenFrom w

theorem tends_of_renews (renews : w.Renews v) : Tends w v where
  stays := {
    config := renews.idles.config
    isConnected := renews.isConnected
    forgets := renews.forgets
    outage := renews.outage
    up := renews.idles.backend.agrees.up
    now := Int.le_of_eq (congrArg Stamp.moment renews.idles.clock.symm) }
  entry := renews.entry

/-- A lookup of replies changes nothing in the collection. -/
theorem tends_of_within {α : Type} {x : Act α} {e : Upkeep} (renews : Within World.Renews x)
    (acts : e.act = discard x) (w : World) :
    Tends w (after w e) ∧ (after w e).backend.database.replies = w.backend.database.replies := by
  unfold after
  rw [acts, left_discard]
  have renewed : w.Renews (runFrom w x).2 := renews rfl
  obtain ⟨n, same⟩ := renewed.idles.backend
  exact ⟨tends_of_renews renewed, by rw [same]⟩

theorem tends_of_advance (w : World) (micros : Nat) :
    Tends w (runFrom w (Act.advance micros)).2 ∧
      (runFrom w (Act.advance micros)).2.backend = w.backend := by
  unfold Act.advance
  rw [runFrom_bind_of_ok (runFrom_get w), runFrom_bind, runFrom_lookup]
  cases moved : w.clock.plus micros with
  | error fault => exact ⟨tends_of_renews (Lasting.refl w), rfl⟩
  | ok clock =>
    have later : w.now ≤ clock.moment := by
      rw [Stamp.moment_of_plus moved]
      exact Int.le_add_of_nonneg_right (Int.natCast_nonneg micros)
    exact ⟨⟨⟨rfl, rfl, rfl, rfl, id, later⟩, fun _ => .inl⟩, rfl⟩

/-- The documents of the collection after an event. -/
def docs (before : List Fields) : Upkeep → List Fields
  | edited docs => docs
  | _ => before

/-- **What one event does.** Whatever it caches was written from the world before, and only edits
change the collection. -/
theorem tends_after (w : World) (e : Upkeep) :
    Tends w (after w e) ∧
      (after w e).backend.database.replies = e.docs w.backend.database.replies := by
  cases e with
  | looked => exact tends_of_within CannedReply.renews_active (by rw [act]) w
  | asked message =>
    exact tends_of_within (World.tolerant_renews.findMatch CannedReply.renews_active message)
      (by rw [act]) w
  | reloaded => exact tends_of_within CannedReply.renews_reload (by rw [act]) w
  | edited docs => exact ⟨⟨⟨rfl, rfl, rfl, rfl, id, Int.le_refl _⟩, fun _ => .inl⟩, rfl⟩
  | passed micros =>
    obtain ⟨tends, same⟩ := tends_of_advance w micros
    rw [← left_discard] at tends same
    exact ⟨tends, congrArg (·.database.replies) same⟩

/-- What a whole run leaves as it was, and what the collection is after it. -/
theorem stays_afterAll (w : World) (events : List Upkeep) :
    Stays w (afterAll w events) ∧
      (afterAll w events).backend.database.replies =
        events.foldl docs w.backend.database.replies := by
  induction events using List.reverseRecOn with
  | nil => exact ⟨Lasting.refl w, rfl⟩
  | append_singleton events e ih =>
    obtain ⟨tends, edited⟩ := tends_after (afterAll w events) e
    rw [afterAll_concat, List.foldl_concat, ← ih.2]
    exact ⟨Lasting.trans ih.1 tends.stays, edited⟩

/-- **Where cached replies come from.** Without an entry at the start, an entry at any later moment
was written from the world of a moment in between. -/
theorem traced_afterAll (clear : w.cache.entries.get? CannedReply.cacheKey = none)
    (events : List Upkeep) (entry : CacheEntry)
    (held : (afterAll w events).cache.entries.get? CannedReply.cacheKey = some entry) :
    ∃ done rest, events = done ++ rest ∧ entry.WrittenFrom (afterAll w done) ∧
      (afterAll w done).now ≤ (afterAll w events).now := by
  induction events using List.reverseRecOn with
  | nil => cases clear.symm.trans held
  | append_singleton events e ih =>
    rw [afterAll_concat] at held ⊢
    obtain ⟨tends, -⟩ := tends_after (afterAll w events) e
    obtain before | written := tends.entry entry held
    · obtain ⟨done, rest, rfl, written, le⟩ := ih before
      exact ⟨done, rest ++ [e], List.append_assoc .., written, Int.le_trans le tends.stays.now⟩
    · exact ⟨events, [e], rfl, written, tends.stays.now⟩

/-- The replies are those that the database held at a moment of the run, and that was less long ago
than replies are cached. When they are not cached for any time, it was at the end. -/
def Recent (w : World) (events : List Upkeep) (replies : List CannedReply) : Prop :=
  ∃ done rest, events = done ++ rest ∧
    replies = (afterAll w done).backend.database.activeReplies ∧
    (afterAll w done).now ≤ (afterAll w events).now ∧
    (0 < w.config.replySeconds →
      (afterAll w events).now - w.config.replySeconds * Time.second < (afterAll w done).now) ∧
    (w.config.replySeconds ≤ 0 → (afterAll w done).now = (afterAll w events).now)

theorem recent_self (w : World) (events : List Upkeep) :
    Recent w events (afterAll w events).backend.database.activeReplies := by
  refine ⟨events, [], (List.append_nil _).symm, rfl, Int.le_refl _, fun positive => ?_,
    fun _ => rfl⟩
  exact Int.sub_lt_self _ (Int.mul_pos positive (by decide))

/-- What a cache that forgets still keeps was written from a moment that is recent. -/
theorem recent_of_kept {events done rest : List Upkeep} {e : CacheEntry}
    (forgets : w.cache.forgets = true) (split : events = done ++ rest)
    (written : e.WrittenFrom (afterAll w done))
    (le : (afterAll w done).now ≤ (afterAll w events).now)
    (kept : (afterAll w events).cache.isKept (afterAll w events).now e = true) :
    Recent w events (afterAll w done).backend.database.activeReplies := by
  have lasts : (afterAll w events).now <
      (afterAll w done).now + w.config.replySeconds * Time.second := by
    unfold Cache.isKept at kept
    rw [(stays_afterAll w events).1.forgets, forgets, written.seconds, written.writtenAt,
      (stays_afterAll w done).1.config] at kept
    simpa using kept
  refine ⟨done, rest, split, rfl, le, fun _ => Int.sub_right_lt_of_lt_add lasts, fun none_ => ?_⟩
  have nonpos : w.config.replySeconds * Time.second ≤ 0 :=
    Int.mul_nonpos_of_nonpos_of_nonneg none_ (by decide)
  exact Int.le_antisymm le
    (Int.le_of_lt (Int.lt_of_lt_of_le lasts (add_le_of_nonpos_right nonpos)))

/-- **The active replies are recent.** However lookups, reloads, edits and time follow each other,
and whenever the cache or the database fails in between: the replies that are found are those that
the database held at a moment less long ago than replies are cached. None are found only when the
database does not answer, or when one of its replies cannot be written. And right after the cached
replies are dropped, which is when the cache does not fail to do so, those of the database are
found. -/
theorem recent_of_active (forgets : w.cache.forgets = true)
    (clear : w.cache.entries.get? CannedReply.cacheKey = none) (events : List Upkeep) :
    (∀ replies, (runFrom (afterAll w events) CannedReply.active).1 = .ok replies →
      Recent w events replies) ∧
    (∀ fault, (runFrom (afterAll w events) CannedReply.active).1 = .error fault →
      (afterAll w events).backend.Answers →
        (afterAll w events).backend.database.activeReplies.all CannedReply.isWritable = false) ∧
    (((afterAll w events).cache.isConnected = true → (afterAll w events).cache.isDown = false) →
      (∀ n, (runFrom (afterAll w events) CannedReply.reload).1 = .ok n →
        n = (afterAll w events).backend.database.activeReplies.length) ∧
      ∀ replies,
        (runFrom (afterAll w (events ++ [.reloaded])) CannedReply.active).1 = .ok replies →
          replies = (afterAll w events).backend.database.activeReplies) := by
  have reloaded : afterAll w (events ++ [.reloaded]) =
      (runFrom (afterAll w events) CannedReply.reload).2 := by
    rw [afterAll_concat, after, act, left_discard]
  refine ⟨fun replies given => ?_, fun fault fails answers => ?_, fun removes => ?_⟩
  · obtain read | ⟨e, -, held, kept, cached⟩ := CannedReply.active_of_written (afterAll w events)
    · rw [Backend.activeReplies_of_ok (read.symm.trans given)]
      exact recent_self w events
    · obtain ⟨done, rest, split, written, le⟩ := traced_afterAll clear events e held
      cases (cached _ written).symm.trans given
      exact recent_of_kept forgets split written le kept
  · obtain read | ⟨e, -, held, -, cached⟩ := CannedReply.active_of_written (afterAll w events)
    · exact Backend.activeReplies_of_error (read.symm.trans fails) answers
    · obtain ⟨done, rest, -, written, -⟩ := traced_afterAll clear events e held
      cases (cached _ written).symm.trans fails
  · rw [reloaded]
    exact CannedReply.active_of_reload removes

/-! ## An edit that shows at once -/

/-- A bot with one canned reply and a cache that forgets. -/
def kiosk : World where
  config := { cancelCommands := [] }
  clock := ⟨0, none⟩
  opening := "main_menu"
  backend := { database := {
    replies := [[("trigger", .str "hello"), ("response", .str "Good day"),
      ("isActive", .bool true)]] } }
  cache := { forgets := true }

/-- Without documents there are no replies. -/
theorem activeReplies_of_nil {db : Database} (empty : db.replies = []) : db.activeReplies = [] := by
  unfold Database.activeReplies Database.select Database.documents
  rw [empty]
  show ((List.mergeSort [] _).take _).filterMap _ = _
  rw [List.mergeSort_nil]
  rfl

theorem recent_of_active_kiosk :
    kiosk.cache.forgets = true ∧ kiosk.cache.entries.get? CannedReply.cacheKey = none ∧
      (runFrom (afterAll kiosk ([.looked, .edited [], .passed 59000000] ++ [.reloaded]))
        CannedReply.active).1 = .ok [] := by
  have clear : kiosk.cache.entries.get? CannedReply.cacheKey = none := rfl
  -- It does not matter what happened before, as long as the collection was emptied in the end.
  have finds (events : List Upkeep)
      (emptied : events.foldl docs kiosk.backend.database.replies = []) :
      (runFrom (afterAll kiosk (events ++ [.reloaded])) CannedReply.active).1 = .ok [] := by
    obtain ⟨stays, edited⟩ := stays_afterAll kiosk events
    obtain ⟨stays', edited'⟩ := stays_afterAll kiosk (events ++ [.reloaded])
    rw [List.foldl_concat] at edited'
    obtain ⟨-, -, drops⟩ := recent_of_active (w := kiosk) rfl clear events
    obtain ⟨-, fails, -⟩ := recent_of_active (w := kiosk) rfl clear (events ++ [.reloaded])
    have removes : (afterAll kiosk events).cache.isDown = false := by
      unfold Cache.isDown
      rw [stays.outage]
      rfl
    have up : (afterAll kiosk (events ++ [.reloaded])).backend.Up := stays'.up fun _ => rfl
    cases found : (runFrom (afterAll kiosk (events ++ [.reloaded])) CannedReply.active).1 with
    | error fault =>
      have writable := fails fault found up.answers
      rw [activeReplies_of_nil (edited'.trans emptied)] at writable
      cases writable
    | ok replies =>
      rw [(drops fun _ => removes).2 replies found, activeReplies_of_nil (edited.trans emptied)]
  exact ⟨rfl, clear, finds _ rfl⟩

end Upkeep

end Dialogue
