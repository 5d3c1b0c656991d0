import Dialogue.Proofs.Reply.Asking

/-!
# What a cached text is good for

Any text may be stored where the canned replies are cached. A list of replies is taken, and a text
that is none is to be replaced by what the database holds. That is what happens to every text that
is no JSON, to every list with a wrong item and to every object or string with something in it. But
an empty object or string counts as no replies, and what cannot be walked through, is nested too
deep or holds too long an integer is a fault that nothing mends: it comes back for every message
until the entry is out of date or somebody drops it.

Main statements: `ofText?_eq_some_iff` and `ofText?_eq_error_iff`, what a text is read as;
`Upkeep.holds_afterAll`, a text that decides stays; `recovers_iff_of_text`.
-/

namespace Dialogue

open Effect

/-- A value that is neither a list nor an object nor a string: there is nothing to walk through. -/
def Json.IsSingle : Json → Prop
  | .null | .bool _ | .int _ | .float _ => True
  | .str _ | .arr _ | .obj _ => False

/-- Several values can be read when each of them is good. -/
theorem Checked.mapM_toOption_eq_some_iff {α β : Type} {f : α → Checked β} {l : List α}
    {values : List β} :
    (l.mapM fun a => (f a).toOption) = some values ↔ l.map f = values.map .good := by
  induction l generalizing values with
  | nil => cases values <;> simp
  | cons a l ih =>
    rw [List.mapM_cons, List.map_cons]
    cases f a with
    | bad failures => cases values <;> simp [toOption]
    | good b =>
      cases rest : l.mapM fun a => (f a).toOption with
      | none =>
        have differs (values : List β) : l.map f ≠ values.map .good := by
          intro same
          cases rest.symm.trans (ih.2 same)
        cases values with
        | nil => simp [toOption]
        | cons c values => simp [toOption, differs values]
      | some bs =>
        have same (values : List β) : l.map f = values.map .good ↔ bs = values := by
          rw [← ih, rest, Option.some.injEq]
        cases values with
        | nil => simp [toOption]
        | cons c values => simp [toOption, same]

namespace CannedReply

/-! ## What a text holds -/

/-- A text writes a list of which every item is a reply. -/
def Lists (text : String) (replies : List CannedReply) : Prop :=
  ∃ items, Json.read limits text = .ok (.arr items) ∧ items.map read = replies.map .good

/-- A text writes an empty string or an empty object, in which no item is wrong. -/
def IsHollow (text : String) : Prop :=
  Json.read limits text = .ok (.str "") ∨ Json.read limits text = .ok (.obj [])

/-- Reading a text is a fault. -/
inductive Jams (text : String) : Fault → Prop
  | single {value : Json} (written : Json.read limits text = .ok value)
      (single : value.IsSingle) : Jams text (.misused .walked value)
  | deep {inList : Bool} (deep : Json.read limits text = .error (.tooDeep inList)) :
      Jams text (.nestedTooDeep inList)
  | long {digits : Nat} (long : Json.read limits text = .error (.tooLong digits)) :
      Jams text (.longInteger (some digits))

variable {text : String} {replies : List CannedReply} {fault : Fault}

theorem IsHollow.not_lists (hollow : IsHollow text) : ¬ Lists text replies := by
  rintro ⟨items, reads, -⟩
  rcases hollow with hollow | hollow
  · cases hollow.symm.trans reads
  · cases hollow.symm.trans reads

/-- **The replies of a text** are those of its list, or none where the text is hollow. -/
theorem ofText?_eq_some_iff :
    ofText? text = .ok (some replies) ↔ Lists text replies ∨ IsHollow text ∧ replies = [] := by
  unfold ofText? Lists IsHollow
  cases Json.read limits text with
  | error trouble => cases trouble <;> simp
  | ok value =>
    cases value with
    | arr items => simp [Checked.mapM_toOption_eq_some_iff]
    | str s => by_cases empty : s = "" <;> simp [empty, eq_comm]
    | obj fields => cases fields <;> simp [eq_comm]
    | null | bool _ | int _ | float _ => simp

/-- **A text is a fault** when it jams. -/
theorem ofText?_eq_error_iff : ofText? text = .error fault ↔ Jams text fault := by
  constructor
  · intro fails
    unfold ofText? at fails
    split at fails
    · cases fails
    · cases fails
    · cases fails
    · next value noList noText noObject reads =>
      cases fails
      refine .single reads ?_
      cases value with
      | arr items => exact (noList items rfl).elim
      | str s => exact (noText s rfl).elim
      | obj fields => exact (noObject fields rfl).elim
      | null | bool _ | int _ | float _ => trivial
    · cases fails
    · next inList reads =>
      cases fails
      exact .deep reads
    · next digits reads =>
      cases fails
      exact .long reads
  · intro jams
    unfold ofText?
    cases jams with
    | deep deep => rw [deep]
    | long long => rw [long]
    | @single value written single =>
      rw [written]
      cases value with
      | arr _ | str _ | obj _ => cases single
      | null | bool _ | int _ | float _ => rfl

theorem Lists.ofText? (lists : Lists text replies) : ofText? text = .ok (some replies) :=
  ofText?_eq_some_iff.2 (.inl lists)

theorem IsHollow.ofText? (hollow : IsHollow text) : ofText? text = .ok (some []) :=
  ofText?_eq_some_iff.2 (.inr ⟨hollow, rfl⟩)

theorem Jams.ofText? (jams : Jams text fault) : ofText? text = .error fault :=
  ofText?_eq_error_iff.2 jams

/-! ## A text that decides -/

variable {w : World} {e : CacheEntry} {given : Except Fault (List CannedReply)}

/-- The cache works, and a text that can still be read is cached in place of the replies. -/
structure Holds (w : World) (e : CacheEntry) (text : String) : Prop where
  works : w.cache.Works
  entry : w.cache.entries.get? cacheKey = some e
  payload : e.payload = .text text
  kept : w.cache.isKept w.now e = true

/-- A text that gives replies, or a fault, without a look at the database. -/
def Decides (text : String) (given : Except Fault (List CannedReply)) : Prop :=
  ofText? text = some <$> given

theorem Decides.ne_empty (decides : Decides text given) : text ≠ "" := by
  rintro rfl
  have none_ : ofText? "" = .ok none := by rfl
  cases given with
  | error fault => cases none_.symm.trans decides
  | ok replies => cases none_.symm.trans decides

theorem Holds.read? (holds : Holds w e text) :
    w.cache.read? w.now cacheKey = some (.text text) := by
  unfold Cache.read?
  rw [holds.entry, Option.filter_some, holds.kept, if_pos rfl, Option.map_some, holds.payload]

/-- **A text that decides** is all that is asked for, and it stays as it is. -/
theorem runFrom_active_of_decides (holds : Holds w e text) (decides : Decides text given) :
    ∃ b, runFrom w active = (given, { w with backend := b, cache := w.cache.used }) := by
  have read := Cache.text?_of_read? decides.ne_empty holds.read?
  obtain ⟨b, -, ran⟩ := runFrom_active_of_text holds.works read
  refine ⟨b, ran.trans ?_⟩
  rw [show ofText? text = some <$> given from decides]
  cases given <;> rfl

/-- A message is then compared with the same replies, or it meets the same fault. -/
theorem given_findMatch_of_decides (holds : Holds w e text) (decides : Decides text given)
    {message : String} (filled : Text.fold message ≠ "") :
    (runFrom w (findMatch message)).1 = given >>= firstFor? (Text.fold message) ∧
      (runFrom w (findMatch message)).2.cache = w.cache.used := by
  obtain ⟨b, ran⟩ := runFrom_active_of_decides holds decides
  have found := runFrom_findMatch filled w
  rw [ran] at found
  exact found

end CannedReply

/-! ## Until it is out of date -/

namespace Upkeep

open CannedReply (Holds Decides)

variable {w v : World} {e : CacheEntry} {text : String} {given : Except Fault (List CannedReply)}

/-- The cached replies are dropped. -/
def drops : Upkeep → Bool
  | reloaded => true
  | looked | asked _ | edited _ | passed _ => false

theorem Stays.works (stays : Stays w v) (works : w.cache.Works) : v.cache.Works where
  connected := stays.isConnected.trans works.connected
  up n := (congrFun stays.outage n).trans (works.up n)

/-- What is kept at the end was kept before. -/
theorem Stays.isKept (stays : Stays w v) (kept : v.cache.isKept v.now e = true) :
    w.cache.isKept w.now e = true := by
  refine Cache.isKept_of_le stays.now ?_
  unfold Cache.isKept at kept ⊢
  rw [← stays.forgets]
  exact kept

/-- **An event leaves a text that decides**, unless it drops it. -/
theorem entry_after (holds : Holds w e text) (decides : Decides text given) {event : Upkeep}
    (stands : event.drops = false) :
    (after w event).cache.entries.get? CannedReply.cacheKey = some e := by
  unfold after
  cases event with
  | looked =>
    obtain ⟨b, ran⟩ := CannedReply.runFrom_active_of_decides holds decides
    rw [act, left_discard, ran]
    exact holds.entry
  | asked message =>
    rw [act, left_discard]
    by_cases blank : Text.fold message = ""
    · rw [CannedReply.runFrom_findMatch_of_blank blank]
      exact holds.entry
    · rw [(CannedReply.given_findMatch_of_decides holds decides blank).2]
      exact holds.entry
  | reloaded => cases stands
  | edited docs => exact holds.entry
  | passed micros =>
    rw [act, left_discard]
    unfold Act.advance
    rw [runFrom_bind_of_ok (runFrom_get w), runFrom_bind, runFrom_lookup]
    cases w.clock.plus micros with
    | error fault => exact holds.entry
    | ok clock => exact holds.entry

/-- **A text that decides stays** for as long as it is kept, whatever is asked for or edited
meanwhile. -/
theorem holds_afterAll (holds : Holds w e text) (decides : Decides text given)
    {events : List Upkeep} (stands : ∀ event ∈ events, event.drops = false)
    (kept : (afterAll w events).cache.isKept (afterAll w events).now e = true) :
    Holds (afterAll w events) e text := by
  -- From the last event backwards: what is kept after an event was kept before it.
  induction events using List.reverseRecOn with
  | nil => exact holds
  | append_singleton events event ih =>
    rw [afterAll_concat] at kept ⊢
    have stays := (tends_after (afterAll w events) event).1.stays
    have before : Holds (afterAll w events) e text :=
      ih (fun other mem => stands other (List.mem_append_left _ mem)) (stays.isKept kept)
    have last : event.drops = false := stands event (List.mem_append_right _ List.mem_cons_self)
    exact ⟨stays.works before.works, entry_after before decides last, before.payload, kept⟩

end Upkeep

namespace CannedReply

variable {w : World} {e : CacheEntry} {text : String} {replies : List CannedReply} {fault : Fault}

/-! ## A text that is replaced -/

/-- Where a text gives no replies and is no fault, those of the database are read. -/
theorem runFrom_active_of_undecided (holds : Holds w e text) (undecided : ofText? text = .ok none) :
    ∃ b, b.database = w.backend.database ∧
      runFrom w active = runFrom { w with backend := b, cache := w.cache.used } refresh := by
  by_cases filled : text = ""
  · refine runFrom_active_of_none holds.works ?_
    unfold Cache.text?
    rw [holds.read?, filled]
    rfl
  · obtain ⟨b, same, ran⟩ :=
      runFrom_active_of_text holds.works (Cache.text?_of_read? filled holds.read?)
    rw [undecided] at ran
    exact ⟨b, same, ran⟩

/-- What is promised of a cached text: a list of replies is given as it is, and in place of any
other text those that the database holds are given and cached. -/
structure Recovers (w : World) (text : String) : Prop where
  listed : ∀ replies, Lists text replies → (runFrom w active).1 = .ok replies
  refetched : (∀ replies, ¬ Lists text replies) →
    (runFrom w active).1 = .ok w.backend.database.activeReplies ∧
      ∃ kept, written w.backend.database.activeReplies = .ok kept ∧
        (runFrom w active).2.cache.entries.get? cacheKey =
          some ⟨.text kept, some w.config.replySeconds, w.now⟩

/-- A list of replies is given as it is. -/
theorem recovers_of_lists (holds : Holds w e text) (lists : Lists text replies) :
    Recovers w text where
  listed others listed := by
    have decides : Decides text (.ok others) := listed.ofText?
    obtain ⟨b, ran⟩ := runFrom_active_of_decides holds decides
    rw [ran]
  refetched unlisted := (unlisted replies lists).elim

/-- **A text that does not decide is replaced** when the replies of the database can be written. -/
theorem recovers_of_undecided (holds : Holds w e text) (answers : w.backend.Answers)
    (undecided : ofText? text = .ok none) :
    Recovers w text ↔ w.backend.database.activeReplies.all isWritable = true := by
  have unlisted (replies : List CannedReply) : ¬ Lists text replies := fun lists => by
    cases undecided.symm.trans lists.ofText?
  obtain ⟨b, same, ran⟩ := runFrom_active_of_undecided holds undecided
  have works' : ({ w with backend := b, cache := w.cache.used } : World).cache.Works :=
    ⟨holds.works.connected, holds.works.up⟩
  have answers' : b.Answers := by
    unfold Backend.Answers
    rw [same]
    exact answers
  obtain ⟨writable, wrote⟩ | ⟨unwritable, fails⟩ :=
    written_cases w.backend.database.activeReplies
  · have wrote' : written b.database.activeReplies =
        .ok (textOf w.backend.database.activeReplies) := by rw [same, wrote]
    obtain ⟨c, refreshed⟩ := runFrom_refresh_of_written works' answers' wrote'
    refine iff_of_true ⟨fun replies lists => (unlisted replies lists).elim, fun _ => ?_⟩ writable
    rw [ran, refreshed]
    exact ⟨by rw [same], _, wrote, Table.get?_set_self ..⟩
  · have failed := given_refresh_of_not_written (w := { w with
      backend := b, cache := w.cache.used }) answers' (same ▸ fails)
    refine iff_of_false (fun recovers => ?_) (by rw [unwritable]; exact Bool.false_ne_true)
    have given := (recovers.refetched unlisted).1
    rw [ran, failed] at given
    cases given

/-- A hollow text stays, and none of the replies that the database holds are given. -/
theorem not_recovers_of_hollow (holds : Holds w e text) (hollow : IsHollow text) :
    ¬ Recovers w text := by
  intro recovers
  obtain ⟨given, again, wrote, replaced⟩ :=
    recovers.refetched fun _ => hollow.not_lists
  have decides : Decides text (.ok []) := hollow.ofText?
  obtain ⟨b, ran⟩ := runFrom_active_of_decides holds decides
  rw [ran] at given replaced
  have empty : w.backend.database.activeReplies = [] := (Except.ok.inj given).symm
  cases holds.entry.symm.trans replaced
  cases holds.payload
  rw [empty] at wrote
  cases wrote
  have reads : Json.read limits (textOf []) = .ok (.arr []) := by rfl
  rcases hollow with hollow | hollow
  · cases reads.symm.trans hollow
  · cases reads.symm.trans hollow

/-- A text that jams stays, and its fault is all that is given. -/
theorem not_recovers_of_jams (holds : Holds w e text) (jams : Jams text fault) :
    ¬ Recovers w text := by
  intro recovers
  have decides : Decides text (.error fault) := jams.ofText?
  obtain ⟨b, ran⟩ := runFrom_active_of_decides holds decides
  obtain ⟨given, -⟩ := recovers.refetched fun replies lists => by
    cases jams.ofText?.symm.trans lists.ofText?
  rw [ran] at given
  cases given

/-- Until an entry is out of date or dropped, asking for the replies always gives the same, and
every message that says something is compared with that. -/
def Persists (w : World) (e : CacheEntry) (given : Except Fault (List CannedReply)) : Prop :=
  ∀ events : List Upkeep, (∀ event ∈ events, event.drops = false) →
    (Upkeep.afterAll w events).cache.isKept (Upkeep.afterAll w events).now e = true →
      (Upkeep.afterAll w events).cache.entries.get? cacheKey = some e ∧
        (runFrom (Upkeep.afterAll w events) active).1 = given ∧
        ∀ message, Text.fold message ≠ "" →
          (runFrom (Upkeep.afterAll w events) (findMatch message)).1 =
            given >>= firstFor? (Text.fold message)

theorem persists_of_decides (holds : Holds w e text)
    {given : Except Fault (List CannedReply)} (decides : Decides text given) :
    Persists w e given := by
  intro events stands kept
  have still := Upkeep.holds_afterAll holds decides stands kept
  refine ⟨still.entry, ?_, fun message filled => ?_⟩
  · obtain ⟨b, ran⟩ := runFrom_active_of_decides still decides
    rw [ran]
  · exact (given_findMatch_of_decides still decides filled).1

/-- **Which cached texts are replaced.** Where the cache works and the database answers, what is
promised of a cached text is kept just when the text is a list of replies, or it is neither hollow
nor jams and what the database holds can be written. A hollow text, in contrast, hides the replies
of the database, and a text that jams makes every message fail, until the entry is out of date or
somebody drops it. -/
theorem recovers_iff_of_text (holds : Holds w e text) (answers : w.backend.Answers) :
    (Recovers w text ↔ (∃ replies, Lists text replies) ∨
      ¬ IsHollow text ∧ (∀ fault, ¬ Jams text fault) ∧
        w.backend.database.activeReplies.all isWritable = true) ∧
      (IsHollow text → Persists w e (.ok [])) ∧
      ∀ fault, Jams text fault → Persists w e (.error fault) := by
  refine ⟨?_, fun hollow => ?_, fun fault jams => ?_⟩
  · cases read : ofText? text with
    | error fault =>
      have jams : Jams text fault := ofText?_eq_error_iff.1 read
      refine iff_of_false (not_recovers_of_jams holds jams) ?_
      rintro (⟨replies, lists⟩ | ⟨-, smooth, -⟩)
      · cases read.symm.trans lists.ofText?
      · exact smooth fault jams
    | ok replies? =>
      have smooth (fault : Fault) : ¬ Jams text fault := fun jams => by
        cases read.symm.trans jams.ofText?
      cases replies? with
      | none =>
        rw [recovers_of_undecided holds answers read]
        constructor
        · refine fun writable => .inr ⟨fun hollow => ?_, smooth, writable⟩
          cases read.symm.trans hollow.ofText?
        · rintro (⟨replies, lists⟩ | ⟨-, -, writable⟩)
          · cases read.symm.trans lists.ofText?
          · exact writable
      | some replies =>
        obtain lists | ⟨hollow, -⟩ := ofText?_eq_some_iff.1 read
        · exact iff_of_true (recovers_of_lists holds lists) (.inl ⟨_, lists⟩)
        · refine iff_of_false (not_recovers_of_hollow holds hollow) ?_
          rintro (⟨replies, lists⟩ | ⟨filled, -⟩)
          · exact hollow.not_lists lists
          · exact filled hollow
  · have decides : Decides text (.ok []) := hollow.ofText?
    exact persists_of_decides holds decides
  · have decides : Decides text (.error fault) := jams.ofText?
    exact persists_of_decides holds decides

/-! ## A text that is replaced and one that is not -/

/-- A bot with one canned reply, and a text that somebody stored in its cache. -/
def spoiled (text : String) : World where
  config := { cancelCommands := [] }
  clock := ⟨0, none⟩
  opening := "main_menu"
  backend := { database := {
    replies := [[("trigger", .str "envio"), ("response", .str "Sí."), ("isActive", .bool true)]] } }
  cache := { entries := [(cacheKey, ⟨.text text, none, 0⟩)], forgets := true }

theorem holds_spoiled (text : String) : Holds (spoiled text) ⟨.text text, none, 0⟩ text where
  works := ⟨rfl, fun _ => rfl⟩
  entry := rfl
  payload := rfl
  kept := rfl

theorem jams_null : Jams "null" (.misused .walked .null) := .single (by rfl) trivial

/-- Half a list is replaced; the word for nothing makes every message fail. -/
theorem recovers_iff_of_text_spoiled :
    (spoiled "[1").cache.Works ∧ (spoiled "[1").backend.Answers ∧ Recovers (spoiled "[1") "[1" ∧
      ∀ message, Text.fold message ≠ "" →
        (runFrom (Upkeep.afterAll (spoiled "null") [.looked, .edited [], .passed 3600000000])
          (findMatch message)).1 = .error (.misused .walked .null) := by
  refine ⟨⟨rfl, fun _ => rfl⟩, rfl, ?_, fun message filled => ?_⟩
  · have reads : Json.read limits "[1" = .error .malformed := by rfl
    refine (recovers_iff_of_text (holds_spoiled "[1") rfl).1.2 (.inr ⟨?_, ?_, ?_⟩)
    · rintro (hollow | hollow)
      · cases reads.symm.trans hollow
      · cases reads.symm.trans hollow
    · rintro fault (⟨written, -⟩ | deep | long)
      · cases reads.symm.trans written
      · cases reads.symm.trans deep
      · cases reads.symm.trans long
    · cbv
  · obtain ⟨-, -, jams⟩ := recovers_iff_of_text (holds_spoiled "null") rfl
    have still := jams _ jams_null [.looked, .edited [], .passed 3600000000] (by decide)
      (Bool.or_true _)
    exact still.2.2 message filled

/-- The word for nothing is no list of replies, and it is not replaced. -/
theorem not_recovers_null : ¬ Recovers (spoiled "null") "null" :=
  not_recovers_of_jams (holds_spoiled "null") jams_null

end CannedReply

end Dialogue
