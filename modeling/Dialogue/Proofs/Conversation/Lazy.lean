import Dialogue.Proofs.Conversation.Stale
import Dialogue.Proofs.Definition.Shelf

/-!
# Flows that are loaded when they are needed

A position may name a flow that is stored and not registered yet. The message then loads the flow
and is answered as if the flow had been registered before, as long as both count the position alike.
But whether a position still counts is decided before its flow is loaded: a flow that is not
registered has the usual time, and not its own. Where the two differ, one of the worlds takes the
message as an answer and the other does not.

Main statements: `answers_of_awaits`, which compares the two runs;
`verdict_registering_of_usual`, a flow that runs for the usual time is counted alike.
-/

namespace Dialogue

open Effect

/-! ## Loading -/

/-- Two worlds that differ only in what is registered and what was counted. -/
structure World.Loads (w v : World) : Prop where
  config : v.config = w.config
  clock : v.clock = w.clock
  opening : v.opening = w.opening
  cache : v.cache = w.cache
  backend : w.backend.Rests v.backend

instance : Lasting World.Loads where
  refl w := ⟨rfl, rfl, rfl, rfl, Lasting.refl w.backend⟩
  trans h g := ⟨g.config.trans h.config, g.clock.trans h.clock, g.opening.trans h.opening,
    g.cache.trans h.cache, Lasting.trans h.backend g.backend⟩

theorem World.Alike.of_loads {w w' v v' : World} (alike : w.Alike v) (up : w.backend.Up)
    (up' : v.backend.Up) (loads : w.Loads w') (loads' : v.Loads v') : w'.Alike v' where
  config := by rw [loads'.config, loads.config, alike.config]
  clock := by rw [loads'.clock, loads.clock, alike.clock]
  opening := by rw [loads'.opening, loads.opening, alike.opening]
  backend := alike.backend.of_rests up.steady up'.steady loads.backend loads'.backend
  works := by
    rw [loads.cache]
    exact alike.works
  works' := by
    rw [loads'.cache]
    exact alike.works'
  forgets := by rw [loads'.cache, loads.cache, alike.forgets]
  entries := by rw [loads'.cache, loads.cache, alike.entries]

namespace Registry

theorem loads_ensure (code : String) : Within World.Loads (ensure code) := by
  refine within_bind within_get fun w => ?_
  split
  · exact within_pure _
  · refine within_bind (within_bind within_get fun _ => within_pure _) fun known => ?_
    refine within_bind ?_ fun loaded => ?_
    · intro w w' result ran
      rw [runFrom_lookup] at ran
      cases ran
      exact ⟨rfl, rfl, rfl, rfl, Lookup.composable_rests.loadOne _ _ code rfl⟩
    · cases loaded with
      | none => exact within_pure none
      | some flow =>
        refine within_bind ?_ fun _ => within_pure _
        intro w w' result ran
        cases ran
        exact ⟨rfl, rfl, rfl, rfl, Lasting.refl w.backend⟩

/-- The flow of a code: the registered one, or the one that is loaded. -/
def opens (w : World) (code : String) : Except Fault (Option Flow) := (runFrom w (ensure code)).1

theorem opens_eq (w : World) (code : String) :
    opens w code = match w.registry.flow? code with
      | some flow => .ok (some flow)
      | none => (runFrom w.backend
          (Definition.loadOne Store.options (Table.keys w.registry) code)).1 := by
  unfold opens ensure
  rw [runFrom_bind_of_ok (runFrom_get w)]
  cases w.registry.flow? code with
  | some flow => rfl
  | none =>
    unfold reload
    dsimp only
    rw [runFrom_bind_of_ok (runFrom_codes w), runFrom_bind, runFrom_lookup]
    rcases runFrom w.backend (Definition.loadOne Store.options (Table.keys w.registry) code)
      with ⟨fault | flow?, b⟩
    · rfl
    · cases flow? <;> rfl

/-- What opens is not changed by what is cached and counted, when the database never fails. -/
theorem opens_of_idles {w w' : World} (idles : w.Idles w') (up : w.backend.Up) (code : String) :
    opens w' code = opens w code := by
  rw [opens_eq, opens_eq, idles.registry]
  split
  · rfl
  · exact (Lookup.composable_blind.loadOne Store.options (Table.keys w.registry) code
      (idles.backend.alike up.steady)).given.symm

end Registry

namespace Conversation

open Registry

variable {m : Incoming} {w v : World}

/-- Flows that are the same are opened alike, when the databases never fail. -/
theorem opensAlike_of_opens (up : w.backend.Up) (up' : v.backend.Up)
    (same : ∀ code ∈ openingCodes w, opens w code = opens v code) : OpensAlike w v := by
  intro w' v' idles idles' alike code mem
  constructor
  · show opens w' code = opens v' code
    rw [opens_of_idles idles up, opens_of_idles idles' up', same code mem]
  · exact alike.of_loads (idles.backend.agrees.up up) (idles'.backend.agrees.up up')
      (loads_ensure code rfl) (loads_ensure code rfl)

/-! ## Positions that are counted alike -/

/-- Removing a key leaves worlds that are alike. -/
theorem alike_removed {b c : Backend} (alike : w.Alike v)
    (kept : b.database = w.backend.database) (kept' : c.database = v.backend.database)
    (key : String) :
    World.Alike { w with backend := b, cache := w.cache.used.remove key }
      { v with backend := c, cache := v.cache.used.remove key } :=
  { alike with
    backend := alike.backend.of_database kept kept'
    works := ⟨alike.works.connected, alike.works.up⟩
    works' := ⟨alike.works'.connected, alike.works'.up⟩
    entries := congrArg (Table.erase · key) alike.entries }

/-- **What is done at a position that is counted alike** is the same, when the answer is taken alike
in case it counts, and the same flows are opened in case it does not. -/
theorem agree_proceed {p : Position} (alike : w.Alike v)
    (blind : w.registry.EveryPrompt Prompt.Blind) {commands : List String}
    (answers : m.cancels commands = false) (same : verdict v p = verdict w p)
    (taken : verdict w p = .ok true → Agree World.Alike (answerAt m p) (answerAt m p) w v)
    (opened : verdict w p = .ok false → OpensAlike w v) :
    Agree World.Alike (proceed m commands p) (proceed m commands p) w v := by
  unfold proceed
  rw [answers, if_neg Bool.false_ne_true]
  cases judged : verdict w p with
  | error fault =>
    exact agree_bind_of_error (runFrom_current_of_fault judged)
      (runFrom_current_of_fault (same.trans judged)) alike
  | ok counts =>
    cases counts with
    | true =>
      refine agree_bind_of_ok (runFrom_current_of_active judged)
        (runFrom_current_of_active (same.trans judged)) ?_
      rw [isSet_of_active judged]
      exact taken judged
    | false =>
      have opens := opened judged
      cases set : p.isSet with
      | false =>
        refine agree_bind_of_ok (runFrom_current_of_unset set w) (runFrom_current_of_unset set v) ?_
        rw [set]
        exact agree_answerFresh alike blind opens
      | true =>
        obtain ⟨b, kept, removed⟩ := runFrom_current_of_stale (m := m) alike.works set judged
        obtain ⟨c, kept', removed'⟩ :=
          runFrom_current_of_stale (m := m) alike.works' set (same.trans judged)
        exact agree_bind_of_ok removed removed'
          (agree_answerFresh (alike_removed alike kept kept' _) blind
            (opens.of_idles (w.idles_of_database kept _) (v.idles_of_database kept' _)))

end Conversation

/-! ## A flow that waits to be loaded -/

/-- The flow of an active stored definition could be registered, and is not. -/
structure World.Awaits (w : World) (d : Definition) (flow : Flow) : Prop where
  found : (w.backend.database.first? .flows (Definition.byCode d.code)).bind
    Definition.ofDocument? = some d
  active : d.isActive = true
  made : d.toFlow? Store.options (some (Table.keys w.registry)) = .ok (some flow)
  missing : Table.get? w.registry d.code = none

/-- A world in which a flow is registered as well. -/
def World.registering (w : World) (code : String) (flow : Flow) : World :=
  { w with registry := Table.set w.registry code flow }

namespace Conversation

open Registry

variable {m : Incoming} {w : World} {d : Definition} {flow : Flow}

/-- **A flow that waits is loaded** when it is needed. -/
theorem runFrom_ensure_of_awaits (up : w.backend.Up) (awaits : w.Awaits d flow) :
    ∃ b, runFrom w (ensure d.code) =
      (.ok (some flow), { w.registering d.code flow with backend := b }) := by
  have missing : w.registry.flow? d.code = none := by
    unfold Registry.flow?
    rw [awaits.missing, ite_self]
  obtain ⟨b, loaded⟩ : ∃ b, runFrom w.backend
      (Definition.loadOne Store.options (Table.keys w.registry) d.code) = (.ok (some flow), b) := by
    obtain ⟨c, finds⟩ := Definition.runFrom_findByCode up.answers d.code
    rw [awaits.found] at finds
    unfold Definition.loadOne
    rw [runFrom_bind_of_ok finds]
    unfold Definition.loadFound Definition.load
    dsimp only
    rw [awaits.active, awaits.made]
    exact ⟨_, rfl⟩
  have looked : runFrom w (Act.lookup
      (Definition.loadOne Store.options (Table.keys w.registry) d.code)) =
        (.ok (some flow), { w with backend := b }) := by
    rw [runFrom_lookup, loaded]
  refine ⟨b, ?_⟩
  unfold ensure reload
  rw [runFrom_bind_of_ok (runFrom_get w), missing]
  dsimp only
  rw [runFrom_bind_of_ok (runFrom_codes w), runFrom_bind_of_ok looked]
  rfl

theorem runFrom_ensure_of_flow? {code : String} (found : w.registry.flow? code = some flow) :
    runFrom w (ensure code) = (.ok (some flow), w) := by
  unfold ensure
  rw [runFrom_bind_of_ok (runFrom_get w), found]
  rfl

/-- What is registered, or waits, is opened alike once the flow is registered. -/
theorem opens_registering (up : w.backend.Up) (awaits : w.Awaits d flow) {code : String}
    (known : (w.registry.flow? code).isSome ∨ code = d.code ∧ code ≠ "") :
    opens w code = opens (w.registering d.code flow) code := by
  unfold opens
  rcases known with registered | ⟨rfl, named⟩
  · obtain ⟨other, found⟩ := Option.isSome_iff_exists.1 registered
    have differ : d.code ≠ code := by
      rintro rfl
      unfold Registry.flow? at found
      rw [awaits.missing, ite_self] at found
      cases found
    have found' : (w.registering d.code flow).registry.flow? code = some other := by
      unfold Registry.flow? World.registering at *
      rw [Table.get?_set_of_ne _ _ differ]
      exact found
    rw [runFrom_ensure_of_flow? found, runFrom_ensure_of_flow? found']
  · obtain ⟨b, loaded⟩ := runFrom_ensure_of_awaits up awaits
    have found : (w.registering d.code flow).registry.flow? d.code = some flow :=
      (if_neg named).trans (Table.get?_set_self ..)
    rw [loaded, runFrom_ensure_of_flow? found]

/-- A flow that runs for the usual time is counted alike before it is loaded. -/
theorem verdict_registering_of_usual (usual : flow.minutes = w.config.usualMinutes)
    (missing : Table.get? w.registry d.code = none) {p : Position} (inFlow : p.flow = some d.code) :
    verdict (w.registering d.code flow) p = verdict w p := by
  unfold verdict Turn.isActive World.registering Registry.flow?
  rw [inFlow, Option.getD_some, missing, Table.get?_set_self]
  by_cases named : d.code = ""
  · rw [if_pos named, if_pos named]
    rfl
  · rw [if_neg named, if_neg named]
    dsimp only
    rw [usual]
    rfl

variable {p : Position}

/-- **An answer in a flow that waits** is taken in the flow that is loaded. -/
theorem agree_answerAt_of_awaits {v : World} (alike : w.Alike v) (up : w.backend.Up)
    (up' : v.backend.Up) (blind : w.registry.EveryPrompt Prompt.Blind) (awaits : w.Awaits d flow)
    (registered : v.registry = Table.set w.registry d.code flow) (named : d.code ≠ "")
    (inFlow : p.flow = some d.code) : Agree World.Alike (answerAt m p) (answerAt m p) w v := by
  have stored : flow.EveryPrompt Prompt.Blind :=
    Flow.everyPrompt_of_isStored Lookup.composable_blind.prompt ⟨d, _, awaits.made⟩
  have code : p.flow.getD "" = d.code := by rw [inFlow, Option.getD_some]
  obtain ⟨b, loaded⟩ := runFrom_ensure_of_awaits up awaits
  have loads := loads_ensure d.code loaded
  rw [← code] at loaded
  have found : v.registry.flow? (p.flow.getD "") = some flow := by
    rw [code, registered]
    exact (if_neg named).trans (Table.get?_set_self ..)
  refine agree_answerAt loaded (runFrom_ensure_of_flow? found)
    (alike.of_loads up up' ?_ (Lasting.refl v)) ?_ ?_
  · rw [code]
    exact loads
  · rw [code]
    exact registered
  · rw [code]
    exact blind.set stored d.code

/-- What is done at a position in a flow that waits is the same in two worlds that are alike, when
both count the position alike, and open the same flows when it does not count. -/
theorem agree_proceed_of_awaits {v : World} (alike : w.Alike v) (up : w.backend.Up)
    (up' : v.backend.Up) (blind : w.registry.EveryPrompt Prompt.Blind) (awaits : w.Awaits d flow)
    (registered : v.registry = Table.set w.registry d.code flow)
    (inFlow : p.flow = some d.code) {commands : List String}
    (answers : m.cancels commands = false) (same : verdict v p = verdict w p)
    (opened : verdict w p = .ok false → OpensAlike w v) :
    Agree World.Alike (proceed m commands p) (proceed m commands p) w v := by
  refine agree_proceed alike blind answers same (fun counts => ?_) opened
  have set := isSet_of_active counts
  have named : d.code ≠ "" := by
    rintro unnamed
    rw [unnamed] at inFlow
    unfold Position.isSet at set
    rw [inFlow] at set
    cases set
  exact agree_answerAt_of_awaits alike up up' blind awaits registered named inFlow

/-- **A message is answered alike** when both worlds count the position alike, and open the same
flows when it does not count. -/
theorem agree_respond_of_awaits (works : w.cache.Works) (up : w.backend.Up)
    (blind : w.registry.EveryPrompt Prompt.Blind) (awaits : w.Awaits d flow)
    (inFlow : (w.position m.customer w.now).flow = some d.code)
    (answers : m.cancels w.config.cancelCommands = false)
    (same : verdict (w.registering d.code flow) (w.position m.customer w.now) =
      verdict w (w.position m.customer w.now))
    (opened : verdict w (w.position m.customer w.now) = .ok false →
      ∀ code ∈ openingCodes w, opens w code = opens (w.registering d.code flow) code) :
    Agree World.Alike (respond m) (respond m) w (w.registering d.code flow) := by
  obtain ⟨b, kept, routed⟩ := runFrom_respond works m
  obtain ⟨c, kept', routed'⟩ := runFrom_respond (w := w.registering d.code flow) works m
  have up₁ : b.Up := by
    unfold Backend.Up
    rw [kept]
    exact up
  have up₂ : c.Up := by
    unfold Backend.Up
    rw [kept']
    exact up
  have awaits' : World.Awaits { w with backend := b, cache := w.cache.used } d flow := by
    refine ⟨?_, awaits.active, awaits.made, awaits.missing⟩
    show (b.database.first? .flows _).bind _ = _
    rw [kept]
    exact awaits.found
  have alike : World.Alike { w with backend := b, cache := w.cache.used }
      { w with
        backend := c
        cache := w.cache.used
        registry := Table.set w.registry d.code flow } :=
    ⟨rfl, rfl, rfl, (Backend.alike_refl w.backend).of_database kept kept',
      ⟨works.connected, works.up⟩, ⟨works.connected, works.up⟩, rfl, rfl⟩
  refine agree_of_runs routed routed' ?_
  refine agree_proceed_of_awaits alike up₁ up₂ blind awaits' rfl inFlow answers same fun stale => ?_
  have opens : OpensAlike w (w.registering d.code flow) :=
    opensAlike_of_opens up up (opened stale)
  exact opens.of_idles (w.idles_of_database kept _)
    ((w.registering d.code flow).idles_of_database kept' _)

/-! ## Messages -/

/-- **Where one world counts the position and the other does not**, the responses differ. -/
theorem ne_of_verdicts {v : World} {r r' : Response} {w' v' : World} (works : w.cache.Works)
    (works' : v.cache.Works) (answers : m.cancels w.config.cancelCommands = false)
    (answers' : m.cancels v.config.cancelCommands = false)
    (differ : verdict v (v.position m.customer v.now) ≠ verdict w (w.position m.customer w.now))
    (ran : runFrom w (respond m) = (.ok r, w')) (ran' : runFrom v (respond m) = (.ok r', v')) :
    r ≠ r' := by
  rcases respond_cases works answers ran with ⟨counts, u, taken⟩ | ⟨stale, u, fresh⟩
  · rcases respond_cases works' answers' ran' with ⟨counts', -⟩ | ⟨-, u', fresh'⟩
    · exact absurd (counts'.trans counts.symm) differ
    · exact ne_of_ways taken fresh'
  · rcases respond_cases works' answers' ran' with ⟨-, u', taken'⟩ | ⟨stale', -⟩
    · exact (ne_of_ways taken' fresh).symm
    · exact absurd (stale'.trans stale.symm) differ

/-- **Loading a flow when it is needed cannot be told from having it registered, except by the time
that a position counts.** Take a position in a flow that is stored and can be loaded, and a message
that is no command to cancel; the database works, and no prompt of the registered flows looks at
what was counted. When the position counts with the flow's own time as it does with the usual one,
the message is answered as if the flow had been registered before, and leaves the same positions;
if it does not count, this takes that the flows which can open a conversation are the same. When
the two times judge the position differently, the responses differ. -/
theorem answers_of_awaits (works : w.cache.Works) (up : w.backend.Up)
    (blind : w.registry.EveryPrompt Prompt.Blind) (awaits : w.Awaits d flow)
    (inFlow : (w.position m.customer w.now).flow = some d.code)
    (answers : m.cancels w.config.cancelCommands = false) :
    (verdict (w.registering d.code flow) (w.position m.customer w.now) =
        verdict w (w.position m.customer w.now) →
      (verdict w (w.position m.customer w.now) = .ok false → ∀ code ∈ openingCodes w,
        opens w code = opens (w.registering d.code flow) code) →
      (runFrom w (process m)).1 = (runFrom (w.registering d.code flow) (process m)).1 ∧
        ∀ customer now, (runFrom w (process m)).2.position customer now =
          (runFrom (w.registering d.code flow) (process m)).2.position customer now) ∧
    (verdict (w.registering d.code flow) (w.position m.customer w.now) ≠
        verdict w (w.position m.customer w.now) →
      ∀ r r' w' v', runFrom w (process m) = (.ok r, w') →
        runFrom (w.registering d.code flow) (process m) = (.ok r', v') → r ≠ r') := by
  constructor
  · intro same opened
    obtain ⟨given, left⟩ :=
      agree_process (agree_respond_of_awaits works up blind awaits inFlow answers same opened)
    exact ⟨given, fun customer now => (left.position customer now).symm⟩
  · intro differ r r' w' v' ran ran'
    obtain ⟨_, u, responded, ran⟩ := runFrom_bind_eq_ok_iff.1 ran
    obtain ⟨_, u', responded', ran'⟩ := runFrom_bind_eq_ok_iff.1 ran'
    cases ran
    cases ran'
    exact ne_of_verdicts works (v := w.registering d.code flow) works answers answers differ
      responded responded'

/-! ## A flow of an hour -/

/-- A definition of a flow that asks one question and runs for an hour. -/
def hourly : Definition :=
  { Definition.plain "survey"
      [{ Definition.Step.plain "ask" "How was it?" with expects := .any }] with minutes := 60 }

/-- The flow of the definition. -/
def survey : Flow where
  name := "survey"
  description := ""
  steps := [("ask", { id := "ask", prompt := .fixed (.ofText "How was it?"), expects := .any })]
  initial := "ask"
  minutes := 60
  has_initial := rfl
  minutes_pos := by decide

/-- A customer was asked at the first moment of the calendar. -/
def asked : Position := ⟨some "survey", some "ask", [], some ⟨0, none⟩⟩

/-- A bot that stores the definition, and has kept the position for some minutes. It opens all
conversations with the same flow. -/
def dawdling (minutes : Int) : World where
  config := { cancelCommands := [] }
  clock := ⟨minutes * Time.minute, none⟩
  opening := "lobby"
  backend := { database := { flows := [document "1" hourly] } }
  cache := Cache.write {} (Position.cacheKey "549") ⟨.text asked.text, none, 0⟩
  registry := [("lobby", lobby), (Catalogue.quotationCode, lobby), (Catalogue.topicsCode, lobby)]

theorem awaits_dawdling (minutes : Int) : (dawdling minutes).Awaits (copy "1" hourly) survey where
  found := by
    show (some (document "1" hourly)).bind Definition.ofDocument? = _
    exact ofDocument?_document (by decide) hourly
  active := rfl
  made := by
    have accepted : (copy "1" hourly).check (some (Table.keys (dawdling minutes).registry)) =
        .ok none := by cbv
    have made : (copy "1" hourly).toFlow Store.options = .ok survey := by cbv
    unfold Definition.toFlow?
    rw [accepted, made]
    rfl
  missing := rfl

theorem works_dawdling (minutes : Int) : (dawdling minutes).cache.Works := ⟨rfl, fun _ => rfl⟩

theorem position_dawdling {w : World} (minutes : Int) (held : w.cache = (dawdling minutes).cache)
    (now : Instant) : w.position tap.customer now = asked := by
  have civil : ∀ stamp ∈ asked.startedAt, stamp.IsCivil := by
    rintro _ ⟨⟩
    exact ⟨by decide, nofun⟩
  exact Position.position_of_write held rfl civil now

theorem flow_dawdling (minutes : Int) :
    ((dawdling minutes).position tap.customer (dawdling minutes).now).flow = some "survey" := by
  rw [position_dawdling minutes rfl]
  rfl

theorem blind_dawdling (minutes : Int) :
    (dawdling minutes).registry.EveryPrompt Prompt.Blind := by
  refine Registry.everyPrompt_of_mem fun entry mem step listed => ?_
  have same : entry.2 = lobby := by
    simp only [dawdling, List.mem_cons, List.not_mem_nil, or_false] at mem
    rcases mem with rfl | rfl | rfl <;> rfl
  rw [same] at listed
  rw [List.mem_singleton.1 listed]
  trivial

/-- After ten minutes the position counts, and after ninety it does not. After three quarters of an
hour, it counts once the flow is registered. -/
theorem verdict_dawdling :
    (verdict (dawdling 10) asked = .ok true ∧
      verdict ((dawdling 10).registering "survey" survey) asked = .ok true) ∧
    (verdict (dawdling 45) asked = .ok false ∧
      verdict ((dawdling 45).registering "survey" survey) asked = .ok true) ∧
    (verdict (dawdling 90) asked = .ok false ∧
      verdict ((dawdling 90).registering "survey" survey) asked = .ok false) :=
  ⟨⟨rfl, rfl⟩, ⟨rfl, rfl⟩, ⟨rfl, rfl⟩⟩

theorem differ_dawdling :
    verdict ((dawdling 45).registering "survey" survey) asked ≠ verdict (dawdling 45) asked := by
  obtain ⟨-, ⟨left, taken⟩, -⟩ := verdict_dawdling
  rw [left, taken]
  nofun

theorem answers_of_awaits_dawdling :
    (∀ minutes, (dawdling minutes).cache.Works ∧ (dawdling minutes).backend.Up ∧
      (dawdling minutes).registry.EveryPrompt Prompt.Blind ∧
      (dawdling minutes).Awaits (copy "1" hourly) survey ∧
      ((dawdling minutes).position tap.customer (dawdling minutes).now).flow = some "survey") ∧
    (runFrom (dawdling 10) (process tap)).1 =
      (runFrom ((dawdling 10).registering "survey" survey) (process tap)).1 ∧
    (∀ r r' w' v', runFrom (dawdling 45) (process tap) = (.ok r, w') →
      runFrom ((dawdling 45).registering "survey" survey) (process tap) = (.ok r', v') → r ≠ r') ∧
    (runFrom (dawdling 90) (process tap)).1 =
      (runFrom ((dawdling 90).registering "survey" survey) (process tap)).1 := by
  obtain ⟨early, -, late⟩ := verdict_dawdling
  have compared (minutes : Int) := answers_of_awaits (m := tap) (works_dawdling minutes)
    (fun _ => rfl) (blind_dawdling minutes) (awaits_dawdling minutes) (flow_dawdling minutes) rfl
  refine ⟨fun minutes => ⟨works_dawdling minutes, fun _ => rfl, blind_dawdling minutes,
    awaits_dawdling minutes, flow_dawdling minutes⟩, ?_, ?_, ?_⟩
  · obtain ⟨same, -⟩ := compared 10
    rw [position_dawdling 10 rfl] at same
    refine (same (early.2.trans early.1.symm) fun stale => ?_).1
    rw [early.1] at stale
    cases stale
  · obtain ⟨-, differ⟩ := compared 45
    rw [position_dawdling 45 rfl] at differ
    exact differ differ_dawdling
  · obtain ⟨same, -⟩ := compared 90
    rw [position_dawdling 90 rfl] at same
    refine (same (late.2.trans late.1.symm) fun _ code mem => ?_).1
    refine opens_registering (fun _ => rfl) (awaits_dawdling 90) (.inl ?_)
    simp only [openingCodes, List.mem_cons, List.not_mem_nil, or_false] at mem
    rcases mem with rfl | rfl | rfl <;> rfl

/-- A flow of an hour is left after three quarters of an hour when it was not loaded before, and
else it is answered. -/
theorem lazy_not_transparent_dawdling :
    (dawdling 45).cache.Works ∧ (dawdling 45).backend.Up ∧
      (dawdling 45).registry.EveryPrompt Prompt.Blind ∧
      (dawdling 45).Awaits (copy "1" hourly) survey ∧
      ((dawdling 45).position tap.customer (dawdling 45).now).flow = some "survey" ∧
      tap.cancels (dawdling 45).config.cancelCommands = false ∧
      ∃ r r' w' v', runFrom (dawdling 45) (process tap) = (.ok r, w') ∧
        runFrom ((dawdling 45).registering "survey" survey) (process tap) = (.ok r', v') ∧
        r ≠ r' := by
  obtain ⟨-, ⟨left, taken⟩, -⟩ := verdict_dawdling
  have works := works_dawdling 45
  have placed := position_dawdling (w := (dawdling 45).registering "survey" survey) 45 rfl
  obtain ⟨r, w', ran⟩ : ∃ r w', runFrom (dawdling 45) (respond tap) = (.ok r, w') := by
    obtain ⟨b, -, routed⟩ := runFrom_respond works tap
    obtain ⟨c, -, removed⟩ := runFrom_current_of_stale (m := tap) (p := asked)
      (w := { dawdling 45 with backend := b, cache := (dawdling 45).cache.used })
      ⟨works.connected, works.up⟩ rfl left
    rw [routed, position_dawdling 45 rfl]
    exact ⟨_, _, (runFrom_bind_of_ok removed).trans (by cbv)⟩
  obtain ⟨r', v', ran'⟩ : ∃ r' v',
      runFrom ((dawdling 45).registering "survey" survey) (respond tap) = (.ok r', v') := by
    obtain ⟨b, -, routed⟩ :=
      runFrom_respond (w := (dawdling 45).registering "survey" survey) works tap
    have counted := runFrom_current_of_active (m := tap) (p := asked)
      (w := { dawdling 45 with
        backend := b
        cache := (dawdling 45).cache.used
        registry := Table.set (dawdling 45).registry "survey" survey }) taken
    rw [routed, placed]
    exact ⟨_, _, (runFrom_bind_of_ok counted).trans (by cbv)⟩
  refine ⟨works, fun _ => rfl, blind_dawdling 45, awaits_dawdling 45, flow_dawdling 45, rfl,
    r, r', _, _, runFrom_bind_of_ok ran, runFrom_bind_of_ok ran', ?_⟩
  refine ne_of_verdicts (v := (dawdling 45).registering "survey" survey) works works rfl rfl ?_
    ran ran'
  rw [placed, position_dawdling 45 rfl]
  exact differ_dawdling

end Conversation

end Dialogue
