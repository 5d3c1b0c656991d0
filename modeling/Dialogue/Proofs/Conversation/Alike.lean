import Dialogue.Conversation.Basic
import Dialogue.Proofs.Comparing
import Dialogue.Proofs.Conversation.Stored
import Dialogue.Proofs.Flow.Composing
import Dialogue.Proofs.Flow.Service
import Dialogue.Proofs.Reply.Finding

/-!
# Messages in worlds that are alike

Two worlds are *alike* when their caches work and hold the same, their clocks show the same, and
their backends are alike. What is registered may differ. The acts that look nothing up in the
registry do the same in both. A turn looks up few flows, so it does the same as well when these
flows are the same: the one that is started, or all of them when a step is answered.

Main statements: `agree_start`, starting a flow that opens alike; `agree_answerFresh` and
`agree_answerAt`, answering outside of flows and at a position.
-/

namespace Dialogue

open Effect

/-- Two worlds with caches that work, which may differ in what is registered and in what was
counted. -/
structure World.Alike (w v : World) : Prop where
  config : v.config = w.config
  clock : v.clock = w.clock
  opening : v.opening = w.opening
  backend : w.backend.Alike v.backend
  works : w.cache.Works
  works' : v.cache.Works
  forgets : v.cache.forgets = w.cache.forgets
  entries : v.cache.entries = w.cache.entries

namespace World.Alike

variable {w v : World}

theorem now (alike : w.Alike v) : v.now = w.now := congrArg Stamp.moment alike.clock

theorem read? (alike : w.Alike v) (key : String) :
    v.cache.read? v.now key = w.cache.read? w.now key := by
  unfold Cache.read? Cache.isKept
  rw [alike.entries, alike.forgets, alike.now]

theorem position (alike : w.Alike v) (customer : String) (now : Instant) :
    v.position customer now = w.position customer now := by
  unfold World.position Cache.text? Cache.read? Cache.isKept
  rw [alike.entries, alike.forgets]

end World.Alike

namespace Backend

variable {b b' c c' : Backend}

theorem Rests.alike (rests : b.Rests c) (steady : b.Steady) : b.Alike c := by
  obtain ⟨n, same⟩ := rests
  constructor
  · rw [same]
    intro collection
    cases collection <;> rfl
  · rw [same]
  · rw [same]
  · rw [same]
    exact fun _ => steady _ _

/-- What rests does not tell backends apart that are steady. -/
theorem Alike.of_rests (alike : b.Alike c) (steady : b.Steady) (steady' : c.Steady)
    (rests : b.Rests b') (rests' : c.Rests c') : b'.Alike c' := by
  have first := rests.alike steady
  have second := rests'.alike steady'
  constructor
  · intro collection
    exact (second.documents collection).trans
      ((alike.documents collection).trans (first.documents collection).symm)
  · exact second.indexes.trans (alike.indexes.trans first.indexes.symm)
  · exact second.isClosed.trans (alike.isClosed.trans first.isClosed.symm)
  · intro n
    rw [rests'.agrees.outage, rests.agrees.outage]
    exact (steady' _ c.database.uses).trans ((alike.outage 0).trans (steady _ _))

end Backend

/-! ## Using the cache -/

namespace Act

theorem blind_lookup {α : Type} {l : Lookup α} (blind : Blind Backend.Alike l) :
    Blind World.Alike (lookup l) := by
  intro w v alike
  obtain ⟨given, left⟩ := blind alike.backend
  constructor
  · rw [runFrom_lookup, runFrom_lookup]
    exact given
  · rw [runFrom_lookup, runFrom_lookup]
    exact { alike with backend := left }

theorem blind_note (e : Event) : Blind World.Alike (note e) := blind_lookup (Lookup.blind_note e)

theorem blind_ofExcept {α : Type} (x : Except Fault α) :
    Blind World.Alike (lookup (Lookup.ofExcept x)) := blind_lookup (Lookup.blind_ofExcept x)

theorem blind_useCache : Blind World.Alike useCache := by
  intro w v alike
  have up : w.cache.isDown = false := alike.works.up _
  have up' : v.cache.isDown = false := alike.works'.up _
  constructor
  · rw [runFrom_useCache, runFrom_useCache, up, up']
  · exact { alike with works := ⟨alike.works.connected, alike.works.up⟩
                       works' := ⟨alike.works'.connected, alike.works'.up⟩ }

/-- Reading a text gives the same. -/
theorem blind_cached? (key : String) : Blind World.Alike (cached? key) := by
  intro w v alike
  refine agree_get_bind ?_
  rw [alike.works.connected, alike.works'.connected]
  refine blind_bind blind_useCache (fun up => ?_) alike
  split
  · exact blind_bind (blind_note _) fun _ _ _ alike => agree_pure none alike
  · intro w v alike
    refine agree_get_bind ?_
    rw [alike.read?]
    split
    · exact blind_bind (blind_note _) (fun _ _ _ alike => agree_pure none alike) alike
    · exact blind_bind (blind_note _) (fun _ _ _ alike => agree_pure none alike) alike
    · exact blind_bind (blind_note _) (fun _ _ _ alike => agree_pure _ alike) alike
    · exact blind_bind (blind_note _)
        (fun _ => blind_bind (blind_note _) fun _ _ _ alike => agree_pure none alike) alike

/-- A change of the cache is blind when it leaves worlds that are alike. -/
theorem blind_changing {change : World → Cache}
    (changes : ∀ ⦃w v : World⦄, w.Alike v →
      World.Alike { w with cache := change w } { v with cache := change v })
    (failed done : Event) :
    Blind World.Alike (do
      if !(← get).cache.isConnected then return
      if !(← useCache) then
        note failed
      else
        modify fun w => { w with cache := change w }
        note done) := by
  intro w v alike
  refine agree_get_bind ?_
  rw [alike.works.connected, alike.works'.connected]
  refine blind_bind blind_useCache (fun up => ?_) alike
  split
  · exact blind_note _
  · exact blind_bind (fun _ _ alike => ⟨rfl, changes alike⟩) fun _ => blind_note _

theorem blind_remember (key text : String) (seconds : Int) :
    Blind World.Alike (remember key text seconds) := by
  refine blind_changing (fun w v alike => ?_) _ _
  refine { alike with
    works := ⟨alike.works.connected, alike.works.up⟩
    works' := ⟨alike.works'.connected, alike.works'.up⟩
    entries := ?_ }
  show v.cache.entries.set key _ = w.cache.entries.set key _
  rw [alike.entries, alike.now]

theorem blind_forget (key : String) : Blind World.Alike (forget key) := by
  refine blind_changing (fun w v alike => ?_) _ _
  refine { alike with
    works := ⟨alike.works.connected, alike.works.up⟩
    works' := ⟨alike.works'.connected, alike.works'.up⟩
    entries := ?_ }
  show v.cache.entries.erase key = w.cache.entries.erase key
  rw [alike.entries]

end Act

open Act

/-! ## Canned replies -/

namespace CannedReply

theorem blind_refresh : Blind World.Alike refresh := by
  refine blind_bind (blind_lookup Lookup.composable_blind.fresh) fun kept w v alike => ?_
  refine agree_get_bind ?_
  rw [alike.config]
  exact blind_bind (blind_remember _ _ _) (fun _ _ _ alike => agree_pure kept.1 alike) alike

theorem blind_active : Blind World.Alike active := by
  refine blind_bind (blind_cached? _) fun text? => ?_
  cases text? with
  | none => exact blind_refresh
  | some text =>
    refine blind_bind (blind_ofExcept _) fun replies? => ?_
    cases replies? with
    | none => exact blind_refresh
    | some replies => exact fun _ _ alike => agree_pure replies alike

theorem blind_findMatch (message : String) : Blind World.Alike (findMatch message) := by
  unfold findMatch
  dsimp only
  split
  · exact fun _ _ alike => agree_pure none alike
  · refine blind_bind blind_active fun replies => ?_
    refine blind_bind (blind_ofExcept _) fun reply? => ?_
    cases reply? with
    | none => exact fun _ _ alike => agree_pure none alike
    | some reply => exact blind_bind (blind_note _) fun _ _ _ alike => agree_pure _ alike

end CannedReply

/-! ## Storing a turn -/

namespace Conversation

variable (m : Incoming)

theorem blind_cannedReply? (input : String) : Blind World.Alike (cannedReply? input) := by
  intro w v alike
  refine agree_get_bind ?_
  rw [alike.config]
  split
  · exact CannedReply.blind_findMatch input alike
  · exact agree_pure none alike

theorem blind_say (body status : String) : Blind World.Alike (say m body status) :=
  blind_bind (blind_ofExcept _) fun _ _ _ alike => agree_pure _ alike

theorem blind_clear (customer : String) : Blind World.Alike (Position.clear customer) :=
  blind_forget _

theorem blind_save (customer : String) (p : Position) :
    Blind World.Alike (Position.save customer p) := by
  have remembers : Blind World.Alike (do
      remember (Position.cacheKey customer) p.text (← get).config.stateSeconds) := by
    intro w v alike
    refine agree_get_bind ?_
    rw [alike.config]
    exact blind_remember _ _ _ alike
  unfold Position.save
  split
  · exact blind_bind (fun _ _ alike => agree_throw _ alike) fun _ => remembers
  · exact remembers

/-- **A turn is stored alike.** -/
theorem blind_settle (before : Position) (turn : Turn) :
    Blind World.Alike (settle m before turn) := by
  intro w v alike
  refine agree_get_bind ?_
  rw [alike.clock]
  dsimp only
  cases before.after turn.move w.clock with
  | none =>
    exact blind_bind (blind_clear m.customer) (fun _ _ _ alike => agree_pure _ alike) alike
  | some p =>
    exact blind_bind (blind_save m.customer p) (fun _ _ _ alike => agree_pure _ alike) alike

/-! ## Opening flows -/

/-- The codes of the flows that a message outside of flows can open. -/
def openingCodes (w : World) : List String :=
  [w.opening, Catalogue.quotationCode, Catalogue.topicsCode]

/-- The flows that a message outside of flows can open are opened alike, also after a canned reply
was looked for. -/
def OpensAlike (w v : World) : Prop :=
  ∀ ⦃w' v' : World⦄, w.Idles w' → v.Idles v' → w'.Alike v' → ∀ code ∈ openingCodes w,
    Agree World.Alike (Registry.ensure code) (Registry.ensure code) w' v'

variable {m} {w v : World} {code : String}

theorem OpensAlike.of_idles {w' v' : World} (opens : OpensAlike w v) (idles : w.Idles w')
    (idles' : v.Idles v') : OpensAlike w' v' := by
  intro w'' v'' later later' alike code mem
  unfold openingCodes at mem
  rw [idles.opening] at mem
  exact opens (Lasting.trans idles later) (Lasting.trans idles' later') alike code mem

/-- **Where the same flows are registered**, all flows are opened alike. -/
theorem agree_ensure (alike : w.Alike v) (same : v.registry = w.registry) (code : String) :
    Agree World.Alike (Registry.ensure code) (Registry.ensure code) w v := by
  refine agree_get_bind ?_
  rw [same]
  split
  · exact agree_pure _ alike
  · refine agree_bind_of_ok (Registry.runFrom_codes w) (Registry.runFrom_codes v) ?_
    rw [same]
    refine agree_bind (blind_lookup (Lookup.composable_blind.loadOne _ _ code) alike)
      fun loaded w' v' _ _ alike' => ?_
    cases loaded with
    | none => exact agree_pure none alike'
    | some flow =>
      exact agree_bind_of_ok (Registry.runFrom_register code flow w')
        (Registry.runFrom_register code flow v') (agree_pure (some flow) { alike' with })

theorem opensAlike_of_registry (same : v.registry = w.registry) : OpensAlike w v := by
  intro w' v' idles idles' alike code _
  exact agree_ensure alike ((idles'.registry.trans same).trans idles.registry.symm) code

/-- Starting looks up one flow. -/
theorem start_congr {registry other : Registry} (same : other.flow? code = registry.flow? code)
    (address : Address) (data : Fields) :
    Turn.start other address (some code) data = Turn.start registry address (some code) data := by
  unfold Turn.start
  rw [Option.bind_some, Option.bind_some, same]

/-- **A flow that opens alike starts alike.** -/
theorem agree_start (every : w.registry.EveryPrompt Prompt.Blind)
    (opens : Agree World.Alike (Registry.ensure code) (Registry.ensure code) w v) :
    Agree World.Alike (start m code) (start m code) w v := by
  refine agree_bind opens fun flow? w' v' ran ran' alike => agree_get_bind ?_
  have same : v'.registry.flow? code = w'.registry.flow? code :=
    (Registry.flow?_of_ensure ran').trans (Registry.flow?_of_ensure ran).symm
  have every' : w'.registry.EveryPrompt Prompt.Blind :=
    Registry.keepsPrompts_ensure Lookup.composable_blind.prompt code ran every
  rw [start_congr same]
  refine agree_bind (blind_lookup (Lookup.composable_blind.start m.address every' _ _) alike)
    fun turn? w'' v'' _ _ alike' => ?_
  cases turn? with
  | none => exact blind_say m _ _ alike'
  | some turn => exact blind_settle m {} turn alike'

theorem agree_openMenu (alike : w.Alike v) (every : w.registry.EveryPrompt Prompt.Blind)
    (opens : OpensAlike w v) : Agree World.Alike (openMenu m) (openMenu m) w v := by
  refine agree_get_bind ?_
  rw [alike.opening]
  exact agree_start every (opens (Lasting.refl w) (Lasting.refl v) alike _ (by simp [openingCodes]))

theorem agree_answerIntent (alike : w.Alike v) (every : w.registry.EveryPrompt Prompt.Blind)
    (opens : OpensAlike w v) (intent : Intent) :
    Agree World.Alike (answerIntent m intent) (answerIntent m intent) w v := by
  have starts (code : String) (mem : code ∈ openingCodes w) :
      Agree World.Alike (start m code) (start m code) w v :=
    agree_start every (opens (Lasting.refl w) (Lasting.refl v) alike code mem)
  cases intent with
  | greeting => exact agree_openMenu alike every opens
  | sale => exact starts _ (by simp [openingCodes])
  | question => exact starts _ (by simp [openingCodes])
  | farewell => exact blind_say m _ _ alike
  | thanks => exact blind_say m _ _ alike
  | unknown => exact blind_say m _ _ alike

/-- **A message outside of flows** is answered alike, when the flows that it can open are opened
alike. -/
theorem agree_answerFresh (alike : w.Alike v) (every : w.registry.EveryPrompt Prompt.Blind)
    (opens : OpensAlike w v) : Agree World.Alike (answerFresh m) (answerFresh m) w v := by
  have idles : Within World.Idles (cannedReply? m.input) :=
    World.tolerant_idles.cannedReply? (fun w _ => World.idles_cache w _) m.input
  unfold answerFresh
  split
  · exact agree_openMenu alike every opens
  · dsimp only
    split
    · exact agree_answerIntent alike every opens _
    · refine agree_bind (blind_cannedReply? m.input alike) fun reply? w' v' ran ran' alike' => ?_
      cases reply? with
      | none =>
        have every' : w'.registry.EveryPrompt Prompt.Blind := by
          rw [(idles ran).registry]
          exact every
        exact agree_answerIntent alike' every' (opens.of_idles (idles ran) (idles ran')) _
      | some reply => exact blind_say m _ _ alike'

/-! ## Answering at a position -/

/-- **An answer at a position** is taken alike, when loading its flow leads to the same registered
flows. -/
theorem agree_answerAt {p : Position} {w' v' : World} {flow? flow?' : Option Flow}
    (ran : runFrom w (Registry.ensure (p.flow.getD "")) = (.ok flow?, w'))
    (ran' : runFrom v (Registry.ensure (p.flow.getD "")) = (.ok flow?', v'))
    (alike : w'.Alike v') (same : v'.registry = w'.registry)
    (every : w'.registry.EveryPrompt Prompt.Blind) :
    Agree World.Alike (answerAt m p) (answerAt m p) w v := by
  refine agree_bind_of_ok ran ran' (agree_get_bind ?_)
  rw [same]
  refine agree_bind
    (blind_lookup (Lookup.composable_blind.answer m.address every p m.input _) alike)
    fun turn? w'' v'' _ _ alike' => ?_
  cases turn? with
  | none => exact blind_bind (blind_clear m.customer) (fun _ => blind_say m _ _) alike'
  | some turn => exact blind_settle m p turn alike'

/-- A message is counted under the status of its response. -/
theorem agree_process (responds : Agree World.Alike (respond m) (respond m) w v) :
    Agree World.Alike (process m) (process m) w v := by
  refine agree_bind responds fun r w' v' _ _ alike => ?_
  exact blind_bind (blind_note _) (fun _ _ _ alike => agree_pure r alike) alike

end Conversation

end Dialogue
