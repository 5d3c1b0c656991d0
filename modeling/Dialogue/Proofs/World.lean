import Dialogue.Proofs.Lookup

/-!
# Acts and the cache

When the cache works, reading a text, storing one and removing one do what they say and nothing
else. An act *spares* a key when it leaves what is stored under the key, the registered flows and
the clock as they are, whether it fails or not. Sequences of sparing acts are sparing.

Main statements: `runFrom_cached?`, `runFrom_remember` and `runFrom_forget`, the three uses of a
cache that works, and `spares_bind`.
-/

namespace Dialogue

open Effect

variable {α β : Type}

/-! ## A cache that works -/

namespace Cache

/-- The cache is connected, and none of its uses fails. -/
structure Works (c : Cache) : Prop where
  connected : c.isConnected = true
  up : ∀ n, c.outage n = false

/-- The text under a key at a time; an empty one counts as none. -/
def text? (c : Cache) (now : Instant) (key : String) : Option String :=
  match c.read? now key with
  | none | some (.text "") => none
  | some (.text s) => some s
  | some (.garbled _) => none

/-- What can be read later can be read now. -/
theorem isKept_of_le {c : Cache} {now later : Instant} {e : CacheEntry} (h : now ≤ later)
    (kept : c.isKept later e = true) : c.isKept now e = true := by
  unfold isKept at kept ⊢
  rcases Bool.or_eq_true_iff.1 kept with keeps | lasts
  · rw [keeps, Bool.true_or]
  · refine Bool.or_eq_true_iff.2 (.inr ?_)
    cases seconds : e.seconds with
    | none => rfl
    | some s =>
      rw [seconds, Option.all_some, decide_eq_true_eq] at lasts
      rw [Option.all_some, decide_eq_true_eq]
      exact Int.lt_of_le_of_lt h lasts

/-- Where a text was stored, that text is read, or nothing. -/
theorem text?_write (c : Cache) (key text : String) (seconds : Option Int)
    (writtenAt now : Instant) :
    (c.write key ⟨.text text, seconds, writtenAt⟩).text? now key = none ∨
      (c.write key ⟨.text text, seconds, writtenAt⟩).text? now key = some text := by
  have found : (c.write key ⟨.text text, seconds, writtenAt⟩).entries.get? key =
      some ⟨.text text, seconds, writtenAt⟩ := Table.get?_set_self ..
  unfold text? read?
  rw [found, Option.filter_some]
  split
  · exact .inl rfl
  · exact .inl rfl
  · next s _ here =>
    split at here
    · cases here
      exact .inr rfl
    · cases here
  · exact .inl rfl

theorem text?_of_read? {c : Cache} {now : Instant} {key text : String} (filled : text ≠ "")
    (found : c.read? now key = some (.text text)) : c.text? now key = some text := by
  unfold text?
  rw [found]
  split
  · next empty =>
    cases empty
  · next empty =>
    cases empty
    exact absurd rfl filled
  · next same =>
    cases same
    rfl
  · next garbled => cases garbled

/-- A text that is not empty is read where it was stored, as long as it is kept. -/
theorem text?_write_self {c : Cache} {now : Instant} {key text : String}
    {seconds : Option Int} {writtenAt : Instant} (filled : text ≠ "")
    (kept : c.isKept now ⟨.text text, seconds, writtenAt⟩ = true) :
    (c.write key ⟨.text text, seconds, writtenAt⟩).text? now key = some text :=
  text?_of_read? filled (read?_write_self c now key _ kept)

end Cache

namespace Act

theorem runFrom_useCache (w : World) :
    runFrom w useCache = (.ok (!w.cache.isDown), { w with cache := w.cache.used }) := rfl

/-- **Reading a text** from a cache that works. -/
theorem runFrom_cached? {w : World} (works : w.cache.Works) (key : String) :
    ∃ b, runFrom w (cached? key) =
      (.ok (w.cache.text? w.now key), { w with backend := b, cache := w.cache.used }) := by
  have up : w.cache.isDown = false := works.up _
  have same : w.cache.used.read? w.now key = w.cache.read? w.now key := rfl
  unfold cached?
  rw [runFrom_bind_of_ok (runFrom_get w), works.connected]
  simp only [Bool.not_true, Bool.false_eq_true, if_false]
  rw [runFrom_bind_of_ok (runFrom_useCache w), up]
  simp only [Bool.not_false, Bool.not_true, Bool.false_eq_true, if_false]
  rw [runFrom_bind_of_ok (runFrom_get _)]
  show ∃ b, runFrom _ (match w.cache.used.read? w.now key with
    | none | some (.text "") => _
    | some (.text s) => _
    | some (.garbled _) => _) = _
  rw [same]
  unfold Cache.text?
  split
  · exact ⟨_, rfl⟩
  · exact ⟨_, rfl⟩
  · exact ⟨_, rfl⟩
  · exact ⟨_, rfl⟩

/-- **Storing a text** in a cache that works. -/
theorem runFrom_remember {w : World} (works : w.cache.Works) (key text : String) (seconds : Int) :
    ∃ b, runFrom w (remember key text seconds) =
      (.ok (), { w with backend := b,
                        cache := w.cache.used.write key ⟨.text text, some seconds, w.now⟩ }) := by
  have up : w.cache.isDown = false := works.up _
  unfold remember
  rw [runFrom_bind_of_ok (runFrom_get w), works.connected]
  simp only [Bool.not_true, Bool.false_eq_true, if_false]
  rw [runFrom_bind_of_ok (runFrom_useCache w), up]
  exact ⟨_, rfl⟩

/-- **Removing what is stored** in a cache that works. -/
theorem runFrom_forget {w : World} (works : w.cache.Works) (key : String) :
    ∃ b, runFrom w (forget key) =
      (.ok (), { w with backend := b, cache := w.cache.used.remove key }) := by
  have up : w.cache.isDown = false := works.up _
  unfold forget
  rw [runFrom_bind_of_ok (runFrom_get w), works.connected]
  simp only [Bool.not_true, Bool.false_eq_true, if_false]
  rw [runFrom_bind_of_ok (runFrom_useCache w), up]
  exact ⟨_, rfl⟩

end Act

/-! ## A cache that may fail -/

namespace Act

/-- **Reading a text** from any cache gives what is there, or nothing. -/
theorem exists_cached? (w : World) (key : String) :
    ∃ found b n, runFrom w (cached? key) =
        (.ok found, { w with backend := b, cache := { w.cache with uses := n } }) ∧
      b.database = w.backend.database ∧
      (found = none ∨ w.cache.isConnected = true ∧ found = w.cache.text? w.now key) := by
  have same : w.cache.used.read? w.now key = w.cache.read? w.now key := rfl
  unfold cached?
  rw [runFrom_bind_of_ok (runFrom_get w)]
  by_cases connected : w.cache.isConnected = true
  · rw [if_neg (by simp [connected]), runFrom_bind_of_ok (runFrom_useCache w)]
    by_cases down : w.cache.isDown = true
    · rw [if_pos (by simp [down])]
      exact ⟨none, _, _, rfl, rfl, .inl rfl⟩
    · rw [if_neg (by simp [down]), runFrom_bind_of_ok (runFrom_get _)]
      show ∃ found b n, runFrom _ (match w.cache.used.read? w.now key with
        | none | some (.text "") => _
        | some (.text s) => _
        | some (.garbled _) => _) = _ ∧ _
      rw [same]
      unfold Cache.text?
      split
      · exact ⟨none, _, _, rfl, rfl, .inl rfl⟩
      · exact ⟨none, _, _, rfl, rfl, .inl rfl⟩
      · exact ⟨some _, _, _, rfl, rfl, .inr ⟨connected, rfl⟩⟩
      · exact ⟨none, _, _, rfl, rfl, .inl rfl⟩
  · rw [if_pos (by simp [connected])]
    exact ⟨none, w.backend, w.cache.uses, rfl, rfl, .inl rfl⟩

/-- Changes the cache, unless it fails. -/
def changing (change : World → Cache) (failed done : Event) : Act Unit := do
  if !(← get).cache.isConnected then return
  if !(← useCache) then
    note failed
  else
    modify fun w => { w with cache := change w }
    note done

theorem exists_changing (w : World) (change : World → Cache) (failed done : Event) :
    ∃ b n, b.database = w.backend.database ∧
      ((w.cache.isConnected = true → w.cache.isDown = true) ∧
          runFrom w (changing change failed done) =
            (.ok (), { w with backend := b, cache := { w.cache with uses := n } }) ∨
        runFrom w (changing change failed done) =
          (.ok (), { w with backend := b, cache := change { w with cache := w.cache.used } })) := by
  unfold changing
  rw [runFrom_bind_of_ok (runFrom_get w)]
  by_cases connected : w.cache.isConnected = true
  · rw [if_neg (by simp [connected]), runFrom_bind_of_ok (runFrom_useCache w)]
    by_cases down : w.cache.isDown = true
    · rw [if_pos (by simp [down])]
      exact ⟨w.backend.noted failed, w.cache.uses + 1, rfl, .inl ⟨fun _ => down, rfl⟩⟩
    · rw [if_neg (by simp [down])]
      exact ⟨w.backend.noted done, 0, rfl, .inr rfl⟩
  · rw [if_pos (by simp [connected])]
    exact ⟨w.backend, w.cache.uses, rfl, .inl ⟨fun h => absurd h connected, rfl⟩⟩

/-- **Storing a text** in any cache stores it, or it does nothing. -/
theorem exists_remember (w : World) (key text : String) (seconds : Int) :
    ∃ b n, b.database = w.backend.database ∧
      (runFrom w (remember key text seconds) =
          (.ok (), { w with backend := b, cache := { w.cache with uses := n } }) ∨
        runFrom w (remember key text seconds) =
          (.ok (), { w with backend := b,
                            cache := w.cache.used.write key
                              ⟨.text text, some seconds, w.now⟩ })) := by
  obtain ⟨b, n, same, ⟨-, ran⟩ | ran⟩ := exists_changing w
    (fun w => w.cache.write key ⟨.text text, seconds, w.now⟩)
    (.cacheUsed "set" "error") (.cacheUsed "set" "success")
  · exact ⟨b, n, same, .inl ran⟩
  · exact ⟨b, n, same, .inr ran⟩

/-- **Removing what is stored** in any cache removes it, or it does nothing because the cache
fails. -/
theorem exists_forget (w : World) (key : String) :
    ∃ b n, b.database = w.backend.database ∧
      ((w.cache.isConnected = true → w.cache.isDown = true) ∧ runFrom w (forget key) =
          (.ok (), { w with backend := b, cache := { w.cache with uses := n } }) ∨
        runFrom w (forget key) =
          (.ok (), { w with backend := b, cache := w.cache.used.remove key })) :=
  exists_changing w (fun w => w.cache.remove key) _ _

end Act

/-! ## What using the cache may change -/

/-- A relation that leaves open what was noted and how often the cache was used. -/
structure World.Lenient (R : World → World → Prop) : Prop where
  notes : ∀ e, Within R (Act.note e)
  uses : Within R Act.useCache

namespace World.Lenient

variable {R : World → World → Prop} [Lasting R]

/-- **Reading a text** changes what was counted. -/
theorem cached? (lenient : World.Lenient R) (key : String) : Within R (Act.cached? key) := by
  refine within_bind within_get fun w => ?_
  split
  · exact within_pure none
  · refine within_bind lenient.uses fun up => ?_
    split
    · exact within_bind (lenient.notes _) fun _ => within_pure none
    · refine within_bind within_get fun w => ?_
      split
      · exact within_bind (lenient.notes _) fun _ => within_pure none
      · exact within_bind (lenient.notes _) fun _ => within_pure none
      · exact within_bind (lenient.notes _) fun _ => within_pure _
      · exact within_bind (lenient.notes _) fun _ =>
          within_bind (lenient.notes _) fun _ => within_pure none

/-- What changes the cache does no more than the change, and what is counted. -/
theorem changing (lenient : World.Lenient R) {change : World → Cache}
    (changes : ∀ w, R w { w with cache := change w }) (failed done : Event) :
    Within R (Act.changing change failed done) := by
  refine within_bind within_get fun w => ?_
  split
  · exact within_pure ()
  · refine within_bind lenient.uses fun up => ?_
    split
    · exact lenient.notes _
    · refine within_bind ?_ fun _ => lenient.notes _
      intro w w' result ran
      cases ran
      exact changes w

/-- **Storing a text** does no more than writing it, and what is counted. -/
theorem remember (lenient : World.Lenient R) {key : String}
    (writes : ∀ w e, R w { w with cache := w.cache.write key e }) (text : String)
    (seconds : Int) : Within R (Act.remember key text seconds) :=
  lenient.changing (fun w => writes w _) _ _

/-- **Removing what is stored** does no more than that, and what is counted. -/
theorem forget (lenient : World.Lenient R) {key : String}
    (removes : ∀ w, R w { w with cache := w.cache.remove key }) :
    Within R (Act.forget key) :=
  lenient.changing removes _ _

end World.Lenient

/-- A relation that leaves open what resting lookups and uses of the cache change. -/
structure World.Tolerant (R : World → World → Prop) : Prop where
  looks : ∀ {α : Type} {l : Lookup α}, Lookup.Rests l → Within R (Act.lookup l)
  uses : Within R Act.useCache

namespace World.Tolerant

variable {R : World → World → Prop}

theorem lenient (tolerant : World.Tolerant R) : World.Lenient R where
  notes e := tolerant.looks (Lookup.composable_rests.note e)
  uses := tolerant.uses

theorem ofExcept (tolerant : World.Tolerant R) (x : Except Fault α) :
    Within R (Act.lookup (Lookup.ofExcept x)) :=
  tolerant.looks (Lookup.composable_rests.ofExcept x)

end World.Tolerant

/-- Two worlds that differ only in what is cached and what was counted. -/
structure World.Idles (w v : World) : Prop where
  config : v.config = w.config
  clock : v.clock = w.clock
  opening : v.opening = w.opening
  registry : v.registry = w.registry
  backend : w.backend.Rests v.backend

instance : Lasting World.Idles where
  refl w := ⟨rfl, rfl, rfl, rfl, Lasting.refl w.backend⟩
  trans h g := ⟨g.config.trans h.config, g.clock.trans h.clock, g.opening.trans h.opening,
    g.registry.trans h.registry, Lasting.trans h.backend g.backend⟩

theorem World.tolerant_idles : World.Tolerant World.Idles where
  looks rests := by
    intro w v result ran
    cases ran
    exact ⟨rfl, rfl, rfl, rfl, rests rfl⟩
  uses := by
    intro w v result ran
    cases ran
    exact ⟨rfl, rfl, rfl, rfl, Lasting.refl w.backend⟩

theorem World.idles_cache (w : World) (cache : Cache) : w.Idles { w with cache := cache } :=
  ⟨rfl, rfl, rfl, rfl, Lasting.refl w.backend⟩

theorem World.idles_of_database (w : World) {b : Backend}
    (same : b.database = w.backend.database) (cache : Cache) :
    w.Idles { w with backend := b, cache := cache } :=
  ⟨rfl, rfl, rfl, rfl, b.database.uses, by rw [same]⟩

/-- Two worlds with the same database. -/
def World.SameDatabase (w v : World) : Prop := v.backend.database = w.backend.database

instance : Lasting World.SameDatabase where
  refl _ := rfl
  trans h g := g.trans h

theorem World.lenient_sameDatabase : World.Lenient World.SameDatabase where
  notes e := by
    intro w v result ran
    cases ran
    rfl
  uses := by
    intro w v result ran
    cases ran
    rfl

/-! ## Sparing a key -/

/-- Two worlds that differ only in the backend and in what is cached under other keys. -/
structure World.Spares (key : String) (w w' : World) : Prop where
  config : w'.config = w.config
  clock : w'.clock = w.clock
  opening : w'.opening = w.opening
  registry : w'.registry = w.registry
  isConnected : w'.cache.isConnected = w.cache.isConnected
  forgets : w'.cache.forgets = w.cache.forgets
  outage : w'.cache.outage = w.cache.outage
  entry : w'.cache.entries.get? key = w.cache.entries.get? key

namespace World.Spares

variable {key : String} {u v w : World}

theorem refl (key : String) (w : World) : World.Spares key w w :=
  ⟨rfl, rfl, rfl, rfl, rfl, rfl, rfl, rfl⟩

theorem trans (h : World.Spares key u v) (g : World.Spares key v w) : World.Spares key u w where
  config := g.config.trans h.config
  clock := g.clock.trans h.clock
  opening := g.opening.trans h.opening
  registry := g.registry.trans h.registry
  isConnected := g.isConnected.trans h.isConnected
  forgets := g.forgets.trans h.forgets
  outage := g.outage.trans h.outage
  entry := g.entry.trans h.entry

instance : Lasting (World.Spares key) where
  refl := .refl key
  trans := .trans

theorem works (h : World.Spares key v w) (works : v.cache.Works) : w.cache.Works := by
  refine ⟨h.isConnected.trans works.connected, ?_⟩
  rw [h.outage]
  exact works.up

theorem read? (h : World.Spares key v w) (now : Instant) :
    w.cache.read? now key = v.cache.read? now key := by
  unfold Cache.read? Cache.isKept
  rw [h.entry, h.forgets]

end World.Spares

/-- An act spares a key from every world, also when it fails. -/
def Act.Spares (key : String) (x : Act α) : Prop :=
  ∀ ⦃w w' : World⦄ ⦃result : Except Fault α⦄, runFrom w x = (result, w') → World.Spares key w w'

namespace Act

variable {key other : String}

theorem spares_pure (key : String) (a : α) : Spares key (pure a) :=
  show Within (World.Spares key) (pure a) from within_pure a

theorem spares_get (key : String) : Spares key (get : Act World) :=
  show Within (World.Spares key) get from within_get

/-- **A sequence spares a key** when its parts do. -/
theorem spares_bind {x : Act α} {f : α → Act β} (first : Spares key x)
    (rest : ∀ a, Spares key (f a)) : Spares key (x >>= f) :=
  show Within (World.Spares key) (x >>= f) from within_bind first rest

theorem spares_lookup (key : String) (l : Lookup α) : Spares key (lookup l) := by
  intro w w' result ran
  rw [runFrom_lookup] at ran
  cases ran
  exact ⟨rfl, rfl, rfl, rfl, rfl, rfl, rfl, rfl⟩

theorem spares_note (key : String) (e : Event) : Spares key (note e) := spares_lookup key _

theorem spares_useCache (key : String) : Spares key useCache := by
  intro w w' result ran
  rw [runFrom_useCache] at ran
  cases ran
  exact ⟨rfl, rfl, rfl, rfl, rfl, rfl, rfl, rfl⟩

theorem tolerant_spares (key : String) : World.Tolerant (World.Spares key) where
  looks _ := spares_lookup key _
  uses := spares_useCache key

/-- Reading one key spares every key. -/
theorem spares_cached? (key other : String) : Spares key (cached? other) :=
  (tolerant_spares key).lenient.cached? other

/-- Removing what is stored under one key spares the others. -/
theorem spares_forget (different : other ≠ key) : Spares key (forget other) :=
  (tolerant_spares key).lenient.forget fun _ =>
    ⟨rfl, rfl, rfl, rfl, rfl, rfl, rfl, (Table.get?_erase ..).trans (if_neg different)⟩

end Act

end Dialogue
