import Dialogue.Proofs.Conversation.Composing
import Dialogue.Proofs.Conversation.Lazy
import Dialogue.Proofs.Definition.Saved
import Dialogue.Proofs.Reply.Keeping

/-!
# Settled bots

The database of a *settled* bot stays as it is and is always in order, or never. Nothing is left to
be loaded: every active definition that could be is registered under its code. And what is cached of
the canned replies is what the database gives.

A message to a settled bot leaves it settled. It changes nothing but what was counted, what is
cached of the replies, and the stored position of its sender.

Main statement: `bypasses_process`, a message passes all other customers by.
-/

namespace Dialogue

open Effect

/-! ## Definitions that could be loaded -/

namespace Definition

/-- What is loaded under a code is the flow of the first definition of the code, which is active. -/
theorem found_of_loadOne {source : OptionSource} {known : List String} {code : String}
    {b c : Backend} {flow : Flow}
    (ran : runFrom b (loadOne source known code) = (.ok (some flow), c)) :
    ∃ d, (b.database.first? .flows (byCode code)).bind ofDocument? = some d ∧
      d.isActive = true ∧ d.toFlow? source (some known) = .ok (some flow) := by
  unfold loadOne at ran
  obtain ⟨found, e, finds, ran⟩ := runFrom_bind_eq_ok_iff.1 ran
  obtain ⟨entry, f, loads, ran⟩ := runFrom_bind_eq_ok_iff.1 ran
  cases found with
  | none =>
    cases loads
    cases ran
  | some d =>
    have read : (b.database.first? .flows (byCode code)).bind ofDocument? = some d := by
      by_cases answers : b.Answers
      · obtain ⟨c', finds'⟩ := runFrom_findByCode answers code
        rw [finds] at finds'
        exact (Except.ok.inj (Prod.mk.inj finds').1).symm
      · have down : runFrom b (findByCode code) = (.error .databaseDown, b.used) :=
          runFrom_bind_of_error (runFrom_bind_of_error
            (Lookup.runFrom_use_of_not_answers answers))
        rw [finds] at down
        cases down
    unfold loadFound at loads
    dsimp only at loads
    split at loads
    · cases loads
      cases ran
    · next active =>
      obtain ⟨made, g, built, loads⟩ := runFrom_bind_eq_ok_iff.1 loads
      cases loads
      cases made with
      | none => cases ran
      | some made =>
        cases ran
        exact ⟨d, read, by simpa using active, Registry.toFlow?_of_load built⟩

/-- What is loaded under a code comes from an active definition of the code that is accepted. -/
theorem exists_of_loadOne {known : List String} {code : String} {b c : Backend} {flow : Flow}
    (ran : runFrom b (loadOne Store.options known code) = (.ok (some flow), c)) :
    ∃ doc ∈ b.database.flows, ∃ d, ofDocument? doc = some d ∧ d.code = code ∧
      d.isActive = true ∧ d.Accepted (some known) := by
  obtain ⟨d, found, active, made⟩ := found_of_loadOne ran
  obtain ⟨doc, first, read⟩ := Option.bind_eq_some_iff.1 found
  obtain ⟨problem, checked, accepted⟩ := bind_eq_ok_iff.1 made
  cases problem with
  | some problem => cases accepted
  | none =>
    exact ⟨doc, List.mem_of_find?_eq_some first, d, read,
      code_of_ofDocument? (List.find?_some first) read, active, check_eq_none_iff.1 checked⟩

end Definition

/-! ## Settled worlds -/

/-- Two caches that differ in how often they were used and in the entry of one key. -/
structure Cache.ChangedAt (key : String) (c c' : Cache) : Prop where
  connected : c'.isConnected = c.isConnected
  forgets : c'.forgets = c.forgets
  outage : c'.outage = c.outage
  others : ∀ {other : String}, other ≠ key → c'.entries.get? other = c.entries.get? other

namespace Cache

theorem changedAt_write (c : Cache) (key : String) (e : CacheEntry) :
    ChangedAt key c (c.write key e) :=
  ⟨rfl, rfl, rfl, fun different => Table.get?_set_of_ne _ _ different.symm⟩

theorem changedAt_remove (c : Cache) (key : String) : ChangedAt key c (c.remove key) :=
  ⟨rfl, rfl, rfl, fun different => (Table.get?_erase ..).trans (if_neg different.symm)⟩

theorem ChangedAt.of_used {key : String} {c c' : Cache} (changed : ChangedAt key c.used c') :
    ChangedAt key c c' :=
  ⟨changed.connected, changed.forgets, changed.outage, changed.others⟩

end Cache

/-- A bot over a database that stays as it is: everything that could be loaded is, and what is
cached of the replies is what the database gives. What its flows show is computed or looked up, as
it is in built-in and in stored flows. -/
structure World.Settled (w : World) : Prop where
  works : w.cache.Works
  steady : w.backend.Steady
  looks : w.registry.EveryPrompt Prompt.Looks
  loaded : ∀ doc ∈ w.backend.database.flows, ∀ d ∈ Definition.ofDocument? doc,
    d.isActive = true → d.Accepted (some (Table.keys w.registry)) →
      (Table.get? w.registry d.code).isSome
  replies : ∀ e ∈ w.cache.entries.get? CannedReply.cacheKey, w.backend.Keeps e.payload

namespace World

variable {w v : World} {key customer : String}

/-- A world is settled still when the same is registered and cached of the replies. -/
theorem Settled.of_rests (settled : w.Settled) (rests : w.backend.Rests v.backend)
    (registry : v.registry = w.registry) (works : v.cache.Works)
    (replies : ∀ e ∈ v.cache.entries.get? CannedReply.cacheKey, w.backend.Keeps e.payload) :
    v.Settled where
  works := works
  steady := rests.agrees.steady settled.steady
  looks := by
    rw [registry]
    exact settled.looks
  loaded := by
    rw [rests.agrees.flows, registry]
    exact settled.loaded
  replies e mem := (rests.alike settled.steady).keeps (replies e mem)

theorem Settled.of_changedAt {b : Backend} {cache : Cache} (settled : w.Settled)
    (rests : w.backend.Rests b) (changed : Cache.ChangedAt key w.cache cache)
    (noReply : key ≠ CannedReply.cacheKey) :
    World.Settled { w with backend := b, cache := cache } := by
  refine settled.of_rests rests rfl ⟨changed.connected.trans settled.works.connected, ?_⟩ ?_
  · show ∀ n, cache.outage n = false
    rw [changed.outage]
    exact settled.works.up
  · show ∀ e ∈ cache.entries.get? CannedReply.cacheKey, _
    rw [changed.others noReply.symm]
    exact settled.replies

/-- What passes a customer by: from a settled world it leads to a settled one, and leaves the
position of the customer alone. -/
def Bypasses (customer : String) (w v : World) : Prop :=
  w.Settled → v.Settled ∧ w.backend.Rests v.backend ∧
    World.Spares (Position.cacheKey customer) w v

instance (customer : String) : Lasting (Bypasses customer) where
  refl w settled := ⟨settled, Lasting.refl w.backend, Lasting.refl w⟩
  trans first second settled := by
    obtain ⟨settled', rests, spares⟩ := first settled
    obtain ⟨settled'', rests', spares'⟩ := second settled'
    exact ⟨settled'', Lasting.trans rests rests', spares.trans spares'⟩

/-- What only asks the database passes a customer by. -/
theorem bypasses_of_rests {b : Backend} (rests : w.backend.Rests b) :
    Bypasses customer w { w with backend := b } := fun settled =>
  ⟨settled.of_rests rests rfl settled.works settled.replies, rests,
    rfl, rfl, rfl, rfl, rfl, rfl, rfl, rfl⟩

/-- What changes one entry of the cache passes a customer by, when the entry is neither the
customer's position nor the kept replies. -/
theorem bypasses_of_changedAt {cache : Cache} (changed : Cache.ChangedAt key w.cache cache)
    (different : key ≠ Position.cacheKey customer) (noReply : key ≠ CannedReply.cacheKey) :
    Bypasses customer w { w with cache := cache } := fun settled =>
  ⟨settled.of_changedAt (Lasting.refl _) changed noReply, Lasting.refl _, rfl, rfl, rfl, rfl,
    changed.connected, changed.forgets, changed.outage, changed.others different.symm⟩

theorem tolerant_bypasses (customer : String) : World.Tolerant (Bypasses customer) where
  looks rests := by
    intro w v result ran
    rw [runFrom_lookup] at ran
    cases ran
    exact bypasses_of_rests (rests rfl)
  uses := by
    intro w v result ran settled
    have spares := Act.spares_useCache (Position.cacheKey customer) ran
    cases ran
    exact ⟨settled.of_rests (Lasting.refl _) rfl (spares.works settled.works) settled.replies,
      Lasting.refl _, spares⟩

end World

/-! ## What customers share -/

open World

namespace CannedReply

/-- What is read of the replies is kept as the database gives it. -/
theorem bypasses_refresh (customer : String) : Within (Bypasses customer) refresh := by
  intro w v result ran settled
  obtain ⟨b, cache, n, refreshed, rests, rfl | ⟨kept, given, rfl⟩⟩ := runFrom_refresh w
  · rw [refreshed] at ran
    cases ran
    exact ⟨settled.of_rests rests rfl ⟨settled.works.connected, settled.works.up⟩ settled.replies,
      rests, rfl, rfl, rfl, rfl, rfl, rfl, rfl, rfl⟩
  · rw [refreshed] at ran
    cases ran
    refine ⟨settled.of_rests rests rfl ⟨settled.works.connected, settled.works.up⟩ ?_, rests,
      rfl, rfl, rfl, rfl, rfl, rfl, rfl, ?_⟩
    · intro e mem
      have written := (Table.get?_set_self ..).symm.trans mem
      cases written
      exact ⟨kept, given, rfl⟩
    · exact Table.get?_set_of_ne _ _ (Conversation.cacheKey_ne customer)

theorem bypasses_active (customer : String) : Within (Bypasses customer) active :=
  (tolerant_bypasses customer).activeReplies_of_refresh (bypasses_refresh customer)

end CannedReply

namespace Registry

/-- **Where everything is loaded**, nothing more is loaded when it is needed. -/
theorem runFrom_ensure_of_settled {w : World} (settled : w.Settled) (code : String) :
    ∃ b, w.backend.Rests b ∧ runFrom w (ensure code) = (opens w code, { w with backend := b }) := by
  unfold opens ensure
  rw [runFrom_bind_of_ok (runFrom_get w)]
  cases found : w.registry.flow? code with
  | some flow => exact ⟨w.backend, Lasting.refl _, rfl⟩
  | none =>
    have rests : Lookup.Rests (Definition.loadOne Store.options (Table.keys w.registry) code) :=
      Lookup.composable_rests.loadOne _ _ code
    unfold reload
    dsimp only
    rw [runFrom_bind_of_ok (runFrom_codes w), runFrom_bind, runFrom_lookup]
    rcases looked : runFrom w.backend
        (Definition.loadOne Store.options (Table.keys w.registry) code) with ⟨fault | flow?, b⟩
    · exact ⟨b, rests looked, rfl⟩
    · cases flow? with
      | none => exact ⟨b, rests looked, rfl⟩
      | some flow =>
        obtain ⟨doc, mem, d, read, rfl, active, accepted⟩ := Definition.exists_of_loadOne looked
        have registered := settled.loaded doc mem d read active accepted
        have named : d.code ≠ "" := by
          intro empty
          have blank := accepted.named
          rw [empty] at blank
          exact blank rfl
        unfold Registry.flow? at found
        rw [if_neg named] at found
        rw [found] at registered
        cases registered

theorem bypasses_ensure (customer code : String) : Within (Bypasses customer) (ensure code) := by
  intro w v result ran settled
  obtain ⟨b, rests, opened⟩ := runFrom_ensure_of_settled settled code
  rw [opened] at ran
  cases ran
  exact bypasses_of_rests rests settled

end Registry

/-! ## Messages of others -/

namespace Conversation

/-- What is done for one customer passes the others by. -/
theorem conversational_bypasses {customer other : String} (different : other ≠ customer) :
    Conversational other fun _ x => Within (Bypasses customer) x where
  looks looks := (tolerant_bypasses customer).looks (looks _ Lookup.composable_rests)
  reads _ rest := by
    intro w v result ran settled
    rw [runFrom_bind_of_ok (runFrom_get w)] at ran
    exact rest w settled.looks ran settled
  opens code := Registry.bypasses_ensure customer code
  replies := CannedReply.bypasses_active customer
  recalls := (tolerant_bypasses customer).lenient.cached? _
  remembers text seconds :=
    (tolerant_bypasses customer).lenient.remember (fun w e =>
      bypasses_of_changedAt (w.cache.changedAt_write _ e)
        (fun same => different (cacheKey_injective same)) (cacheKey_ne other).symm) text seconds
  forgets :=
    (tolerant_bypasses customer).lenient.forget fun w =>
      bypasses_of_changedAt (w.cache.changedAt_remove _)
        (fun same => different (cacheKey_injective same)) (cacheKey_ne other).symm
  bind := within_bind

/-- **A message to a settled bot passes all other customers by.** -/
theorem bypasses_process {m : Incoming} {customer : String} (different : m.customer ≠ customer) :
    Within (Bypasses customer) (process m) :=
  (conversational_bypasses different).process

end Conversation

end Dialogue
