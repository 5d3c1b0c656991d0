import Dialogue.Proofs.Conversation.Alike
import Dialogue.Proofs.Conversation.Apart
import Dialogue.Proofs.Conversation.Composing
import Dialogue.Proofs.Conversation.Settled
import Dialogue.Proofs.Reply.Keeping

/-!
# Caches that fail

The cache may fail at any of its uses, or it may have no connection. Nothing is read then, and
nothing is stored or removed. Once the position of the sender is known, no response depends on that:
replies that are not read from the cache are read from the database, from which the cached ones were
written; and whether the next position was stored shows with the next message only.

Main statements: `blind_replies`, the same replies are found; `answering_resembles`, whatever a
response is put together from; `forgives_of_recalls`.
-/

namespace Dialogue

open Effect

/-! ## Worlds with any caches -/

/-- The database never fails, or always, and what is cached of the replies is what it gives. -/
structure World.KeepsReplies (w : World) : Prop where
  steady : w.backend.Steady
  replies : ∀ e ∈ w.cache.entries.get? CannedReply.cacheKey, w.backend.Keeps e.payload

/-- Where what is cached of the replies is what the database gives, it is so still, and nothing but
the cache and what was counted has changed. -/
def World.Upholds (w v : World) : Prop := w.KeepsReplies → v.KeepsReplies ∧ w.Idles v

/-- Two worlds that differ in what is cached and in what was counted, apart from the replies. -/
structure World.Resembles (w v : World) : Prop extends w.Accords v where
  looks : w.registry.EveryPrompt Prompt.Looks
  alike : w.backend.Alike v.backend
  keeps : w.KeepsReplies
  keeps' : v.KeepsReplies

namespace World

variable {w v w' v' : World} {key : String}

instance : Lasting Upholds where
  refl w keeps := ⟨keeps, Lasting.refl w⟩
  trans first second keeps := by
    obtain ⟨keeps', idles⟩ := first keeps
    obtain ⟨keeps'', idles'⟩ := second keeps'
    exact ⟨keeps'', Lasting.trans idles idles'⟩

/-- What only asks the database keeps the replies, when it leaves none but theirs in the cache. -/
theorem upholds_of_rests {b : Backend} {cache : Cache} (rests : w.backend.Rests b)
    (entry : ∀ e ∈ cache.entries.get? CannedReply.cacheKey,
      e ∈ w.cache.entries.get? CannedReply.cacheKey ∨ w.backend.Keeps e.payload) :
    w.Upholds { w with backend := b, cache := cache } := by
  intro keeps
  refine ⟨⟨rests.agrees.steady keeps.steady, fun e held => ?_⟩, rfl, rfl, rfl, rfl, rests⟩
  refine (rests.alike keeps.steady).keeps ?_
  obtain before | given := entry e held
  · exact keeps.replies e before
  · exact given

theorem tolerant_upholds : World.Tolerant Upholds where
  looks rests := by
    intro w v result ran
    rw [runFrom_lookup] at ran
    cases ran
    exact upholds_of_rests (rests rfl) fun _ => .inl
  uses := by
    intro w v result ran
    cases ran
    exact upholds_of_rests (Lasting.refl _) fun _ => .inl

/-- What is stored or removed under another key keeps the replies. -/
theorem upholds_of_changedAt {cache : Cache} (changed : Cache.ChangedAt key w.cache cache)
    (noReply : key ≠ CannedReply.cacheKey) : w.Upholds { w with cache := cache } := by
  refine upholds_of_rests (Lasting.refl _) fun e held => .inl ?_
  rwa [changed.others noReply.symm] at held

theorem Resembles.of_upholds (resembles : w.Resembles v) (upholds : w.Upholds w')
    (upholds' : v.Upholds v') : w'.Resembles v' := by
  obtain ⟨keeps, idles⟩ := upholds resembles.keeps
  obtain ⟨keeps', idles'⟩ := upholds' resembles.keeps'
  exact {
    config := idles'.config.trans (resembles.config.trans idles.config.symm)
    clock := idles'.clock.trans (resembles.clock.trans idles.clock.symm)
    opening := idles'.opening.trans (resembles.opening.trans idles.opening.symm)
    registry := idles'.registry.trans (resembles.registry.trans idles.registry.symm)
    looks := by
      rw [idles.registry]
      exact resembles.looks
    alike := resembles.alike.of_rests resembles.keeps.steady resembles.keeps'.steady
      idles.backend idles'.backend
    keeps := keeps
    keeps' := keeps' }

/-- What keeps the replies does the same with any caches, when it gives the same. -/
theorem blind_of_upholds {α : Type} {x : Act α} (upholds : Within Upholds x)
    (given : ∀ {w v : World}, w.Resembles v → (runFrom w x).1 = (runFrom v x).1) :
    Blind Resembles x :=
  fun _ _ resembles => ⟨given resembles, resembles.of_upholds (upholds rfl) (upholds rfl)⟩

theorem Resembles.register (resembles : w.Resembles v) {flow : Flow}
    (looks : flow.EveryPrompt Prompt.Looks) (code : String) :
    Resembles { w with registry := Table.set w.registry code flow }
      { v with registry := Table.set v.registry code flow } :=
  { resembles with
    registry := by
      show Table.set v.registry code flow = Table.set w.registry code flow
      rw [resembles.registry]
    looks := resembles.looks.set looks code
    keeps := ⟨resembles.keeps.steady, resembles.keeps.replies⟩
    keeps' := ⟨resembles.keeps'.steady, resembles.keeps'.replies⟩ }

end World

open World

/-! ## The acts of a response -/

namespace CannedReply

theorem upholds_refresh : Within Upholds refresh := by
  intro w v result ran
  obtain ⟨b, cache, n, refreshed, rests, rfl | ⟨kept, given, rfl⟩⟩ := runFrom_refresh w
  · rw [refreshed] at ran
    cases ran
    exact upholds_of_rests rests fun _ => .inl
  · rw [refreshed] at ran
    cases ran
    refine upholds_of_rests rests fun e held => .inr ?_
    have written := (Table.get?_set_self ..).symm.trans held
    cases written
    exact ⟨kept, given, rfl⟩

/-- **The same replies are found** with any caches. -/
theorem blind_replies : Blind Resembles active := by
  refine blind_of_upholds (tolerant_upholds.activeReplies_of_refresh upholds_refresh)
    fun resembles => ?_
  rw [given_active resembles.keeps.replies, given_active resembles.keeps'.replies]
  exact resembles.alike.activeReplies.symm

end CannedReply

theorem Lookup.blind_of_looks {α : Type} {l : Lookup α} (looks : l.Looks) :
    Blind Resembles (Act.lookup l) :=
  blind_of_upholds (tolerant_upholds.looks (looks _ Lookup.composable_rests)) fun resembles =>
    (looks _ Lookup.composable_blind resembles.alike).given

/-- A flow is loaded alike, and what it shows is looked up only. -/
theorem Registry.blind_ensure (code : String) : Blind Resembles (Registry.ensure code) := by
  intro w v resembles
  refine agree_get_bind ?_
  rw [resembles.registry]
  split
  · exact agree_pure _ resembles
  · refine agree_bind_of_ok (Registry.runFrom_codes w) (Registry.runFrom_codes v) ?_
    rw [resembles.registry]
    refine agree_bind (Lookup.blind_of_looks (Lookup.composable_looks.loadOne _ _ code) resembles)
      fun loaded w' v' ran _ resembles' => ?_
    cases loaded with
    | none => exact agree_pure none resembles'
    | some flow =>
      obtain ⟨d, made⟩ := exists_toFlow?_of_loadOne (runFrom_of_lookup ran)
      have looks : flow.EveryPrompt Prompt.Looks :=
        Flow.everyPrompt_of_isStored Lookup.composable_looks.prompt ⟨d, _, made⟩
      exact agree_bind_of_ok (Registry.runFrom_register code flow w')
        (Registry.runFrom_register code flow v')
        (agree_pure (some flow) (resembles'.register looks code))

/-! ## The response -/

namespace Conversation

theorem blind_remembers (customer text : String) (seconds : Int) :
    Blind Resembles (Act.remember (Position.cacheKey customer) text seconds) := by
  refine blind_of_upholds (tolerant_upholds.lenient.remember (fun w e =>
    upholds_of_changedAt (w.cache.changedAt_write _ e) (cacheKey_ne customer).symm) text seconds)
    fun {w v} _ => ?_
  have stores (w : World) :
      (runFrom w (Act.remember (Position.cacheKey customer) text seconds)).1 = .ok () := by
    obtain ⟨b, n, -, ran | ran⟩ := Act.exists_remember w (Position.cacheKey customer) text seconds
    · rw [ran]
    · rw [ran]
  rw [stores w, stores v]

theorem blind_forgets (customer : String) :
    Blind Resembles (Act.forget (Position.cacheKey customer)) := by
  refine blind_of_upholds (tolerant_upholds.lenient.forget fun w =>
    upholds_of_changedAt (w.cache.changedAt_remove _) (cacheKey_ne customer).symm)
    fun {w v} _ => ?_
  have removes (w : World) :
      (runFrom w (Act.forget (Position.cacheKey customer))).1 = .ok () := by
    obtain ⟨b, n, -, ⟨-, ran⟩ | ran⟩ := Act.exists_forget w (Position.cacheKey customer)
    · rw [ran]
    · rw [ran]
  rw [removes w, removes v]

/-- **Whatever a response is put together from** does the same with any caches. -/
theorem answering_resembles (customer : String) :
    Answering customer fun _ x => Blind Resembles x where
  looks := Lookup.blind_of_looks
  reads same rest := by
    intro w v resembles
    refine agree_get_bind ?_
    rw [same resembles.toAccords]
    exact rest w resembles.looks resembles
  opens := Registry.blind_ensure
  replies := CannedReply.blind_replies
  remembers := blind_remembers customer
  forgets := blind_forgets customer
  bind := blind_bind

variable {w v : World} {m : Incoming} {p : Position}

/-- The position of a customer is read from any cache, whatever is found. -/
theorem exists_stored (w : World) (customer : String) :
    ∃ p v, runFrom w (Position.stored customer) = (.ok p, v) ∧ w.Upholds v := by
  obtain ⟨found, b, n, read, -⟩ := Act.exists_cached? w (Position.cacheKey customer)
  refine ⟨_, _, runFrom_bind_of_ok read, ?_⟩
  exact tolerant_upholds.lenient.cached? (Position.cacheKey customer) read

/-- **Where the same position is read**, the same response is given, with any caches. -/
theorem agree_respond (resembles : w.Resembles v)
    (recalls : (runFrom w (Position.stored m.customer)).1 = .ok p)
    (recalls' : (runFrom v (Position.stored m.customer)).1 = .ok p) :
    Agree Resembles (respond m) (respond m) w v := by
  obtain ⟨q, w', read, upholds⟩ := exists_stored w m.customer
  obtain ⟨q', v', read', upholds'⟩ := exists_stored v m.customer
  rw [read] at recalls
  rw [read'] at recalls'
  cases recalls
  cases recalls'
  rw [respond_eq]
  exact agree_bind_of_ok read read'
    ((answering_resembles m.customer).respondAt p (resembles.of_upholds upholds upholds'))

/-- **A cache that fails costs no response.** Whichever uses of the cache fail while a message is
answered, the response, or the fault, is the one that a working cache leads to that holds the
position which was read, or none where reading failed. In both caches a text of the replies, if
there is one, was written from the database, and the database does not fail. -/
theorem forgives_of_recalls (looks : w.registry.EveryPrompt Prompt.Looks)
    (steady : w.backend.Steady) {c : Cache} (works : c.Works)
    (recalls : (runFrom w (Position.stored m.customer)).1 =
      .ok (World.position { w with cache := c } m.customer w.now))
    (kept : ∀ e ∈ w.cache.entries.get? CannedReply.cacheKey, w.backend.Keeps e.payload)
    (kept' : ∀ e ∈ c.entries.get? CannedReply.cacheKey, w.backend.Keeps e.payload) :
    (runFrom w (process m)).1 = (runFrom { w with cache := c } (process m)).1 := by
  have resembles : w.Resembles { w with cache := c } :=
    ⟨⟨rfl, rfl, rfl, rfl⟩, looks, Backend.alike_refl _, ⟨steady, kept⟩, ⟨steady, kept'⟩⟩
  obtain ⟨b, read⟩ := Position.runFrom_stored { w with cache := c } works m.customer
  have responds := agree_respond resembles recalls (congrArg Prod.fst read)
  exact (agree_bind responds fun r _ _ _ _ resembles' =>
    blind_bind ((answering_resembles m.customer).note _)
      (fun _ _ _ resembles => agree_pure r resembles) resembles').given

/-- A bot whose cache fails at every use. -/
def forgetful : World := { plaza with cache := { plaza.cache with outage := fun _ => true } }

/-- Nothing is read, and nothing is stored in the cache that works. -/
theorem recalls_forgetful : (runFrom forgetful (Position.stored ask.customer)).1 =
    .ok (World.position { forgetful with cache := plaza.cache } ask.customer forgetful.now) := by
  have unset : plaza.cache.entries.get? (Position.cacheKey ask.customer) = none :=
    Table.get?_set_of_ne _ _ (cacheKey_ne ask.customer)
  have none_ (now : Instant) : plaza.cache.text? now (Position.cacheKey ask.customer) = none := by
    unfold Cache.text? Cache.read?
    rw [unset]
    rfl
  unfold World.position
  rw [none_]
  rfl

theorem forgives_of_recalls_forgetful :
    forgetful.registry.EveryPrompt Prompt.Looks ∧ forgetful.backend.Steady ∧
      plaza.cache.Works ∧
      (runFrom forgetful (Position.stored ask.customer)).1 =
        .ok (World.position { forgetful with cache := plaza.cache } ask.customer forgetful.now) ∧
      (∀ e ∈ plaza.cache.entries.get? CannedReply.cacheKey, plaza.backend.Keeps e.payload) ∧
      (runFrom forgetful (process ask)).1 = (runFrom plaza (process ask)).1 :=
  have settled := settled_plaza
  ⟨settled.looks, settled.steady, settled.works, recalls_forgetful, settled.replies,
    forgives_of_recalls (w := forgetful) settled.looks settled.steady settled.works
      recalls_forgetful settled.replies settled.replies⟩

end Conversation

end Dialogue
