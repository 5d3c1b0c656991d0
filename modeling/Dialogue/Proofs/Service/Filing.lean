import Dialogue.Proofs.Definition.Ledger
import Dialogue.Proofs.Service.Running

/-!
# Saving is all or nothing

A database that held nothing at first and never fails is filled by requests to save definitions. A
request is confirmed exactly if its body is a definition of the code in the path that passes the
check next to the registered flows. If it is not confirmed, nothing at all is changed. If it is, the
definition is found under its code as it was submitted, with the times of the first and the last
confirmed save of the code, and the documents of other codes are as they were. It is said to be in
service exactly if it is active.

Between two requests the flows in service, the cache and the stores may become anything: only the
stored definitions matter.

Main statements: `World.Filed.files`, what any number of requests leaves; `saved_or_untouched`.
-/

namespace Dialogue

open Effect Definition

variable {ledger : Ledger} {shelf : Table Definition} {w v : World} {d e : Definition}

/-- The stored definitions are what the ledger says, and each of them was accepted. -/
structure World.Files (ledger : Ledger) (w : World) : Prop where
  backend : w.backend.Files ledger
  stocks : w.Stocks ledger.shelf

namespace World.Files

theorem of_agrees (files : w.Files ledger) (agrees : w.backend.Agrees v.backend)
    (civil : v.clock.IsCivil) : v.Files ledger where
  backend := files.backend.of_agrees agrees
  stocks := ⟨files.stocks.holds.of_agrees agrees, civil, files.stocks.accepted⟩

/-- **Saving** an accepted definition makes one more entry. -/
theorem save (files : w.Files ledger) (accepted : d.Accepted none)
    (agrees : (saved w.backend d w.clock).Agrees v.backend) (clock : v.clock = w.clock) :
    v.Files (ledger ++ [⟨d, w.clock⟩]) where
  backend := (files.backend.save d files.stocks.civil).of_agrees agrees
  stocks := by
    have holds := holds_saved files.stocks.holds d files.stocks.civil
    rw [Ledger.shelf_concat]
    exact (files.stocks.save holds accepted).of_agrees agrees clock

end World.Files

/-- Choosing the flow to open with leaves the stored definitions. -/
theorem World.Stocks.exists_loadOpening (stocks : w.Stocks shelf) :
    ∃ code v, runFrom w Registry.loadOpening = (.ok code, v) ∧ w.backend.Agrees v.backend ∧
      v.clock = w.clock := by
  obtain ⟨b, agrees, ran⟩ := stocks.runFrom_loadOpening
  rw [ran]
  split
  · exact ⟨_, _, rfl, agrees, rfl⟩
  · exact ⟨_, _, rfl, agrees, rfl⟩

namespace Admin

variable {r : Request} {code : String}

/-! ## What a save answers -/

/-- A saved definition is put in service if it is active, and else taken out. -/
theorem exists_putInService (stocks : w.Stocks shelf) (onShelf : shelf.get? d.code = some d)
    (accepted : d.Accepted (some (Table.keys w.registry))) (same : e.authored = d.authored) :
    ∃ v, runFrom w (putInService e d.code) =
        (.ok (d.isActive, !d.isActive && Table.has w.registry d.code), v) ∧
      w.backend.Agrees v.backend ∧ v.clock = w.clock := by
  cases isActive : d.isActive with
  | true =>
    obtain ⟨b, flow, agrees, -, ran⟩ :=
      runFrom_putInService_of_active stocks onShelf isActive accepted same
    exact ⟨_, ran, agrees, rfl⟩
  | false =>
    have inactive : e.isActive = false := (switches_of_authored same).1.trans isActive
    refine ⟨_, runFrom_putInService_of_inactive inactive d.code w, ?_,
      Registry.without_clock w d.code⟩
    rw [Registry.without_backend]
    exact Lasting.refl w.backend

/-- **Saving an accepted definition** confirms what is read back then. -/
theorem runFrom_storeFlow_of_stocks (stocks : w.Stocks shelf)
    (accepted : d.Accepted (some (Table.keys w.registry)))
    (found : ((saved w.backend d w.clock).database.first? .flows (byCode d.code)).bind
      ofDocument? = some e) :
    ∃ v, runFrom w (storeFlow d d.code) =
        (.ok (confirmation e d.code d.isActive (!d.isActive && Table.has w.registry d.code)), v) ∧
      (saved w.backend d w.clock).Agrees v.backend ∧ v.clock = w.clock := by
  -- What is read back is what was saved, the id and the stamps apart, so it is put in service, or
  -- taken out, as the saved definition would be.
  have same : e.authored = d.authored := by
    obtain ⟨e', found', same⟩ := exists_found_saved stocks.holds d stocks.civil
    rw [found] at found'
    cases found'
    exact same
  obtain ⟨c, agrees, ran⟩ := runFrom_save_of_up stocks.holds.up d w.clock
  rw [found] at ran
  have after := stocks.save ((holds_saved stocks.holds d stocks.civil).of_agrees agrees)
    accepted.unknown
  obtain ⟨u, put, agrees', clock⟩ :=
    exists_putInService after (Table.get?_set_self ..) accepted same
  rw [runFrom_storeFlow_of_put ran put]
  split
  · obtain ⟨opening, v, opens, agrees'', clock'⟩ :=
      (after.of_agrees agrees' clock).exists_loadOpening
    rw [runFrom_bind_of_ok opens]
    exact ⟨v, rfl, Lasting.trans agrees (Lasting.trans agrees' agrees''), clock'.trans clock⟩
  · exact ⟨u, rfl, Lasting.trans agrees agrees', clock⟩

/-! ## What a request answers -/

/-- What is done for a request is its answer, unless the head alone is asked for. -/
theorem runFrom_handle_of_action {resource : Resource} {action : Act Answer} {a : Answer}
    (path : resource? (pathParts r.path) = some resource)
    (asked : action? (Text.upper r.method) r.body resource = some action)
    (whole : Text.upper r.method ≠ "HEAD") (ran : runFrom w action = (.ok a, v)) :
    runFrom w (handle r) = (.ok a, v) := by
  have half : runFrom w (respond r) = (.ok a, v) := by
    unfold respond
    dsimp only
    rw [path]
    dsimp only
    rw [asked]
    dsimp only
    rw [runFrom_tryCatch, ran]
  unfold handle
  rw [runFrom_bind_of_ok half, if_neg whole]
  rfl

/-- The definition of the code passes the check next to the registered flows and itself. -/
theorem check_eq_none_iff_accepted (same : d.code = code) (codes : List String) :
    d.check (some (codes ++ [code])) = .ok none ↔ d.Accepted (some codes) := by
  rw [check_eq_none_iff]
  constructor
  · intro accepted
    refine accepted.of_subset fun other mem => (List.mem_append.1 mem).imp_right fun own => ?_
    rw [List.mem_singleton.1 own, same]
  · exact fun accepted => accepted.of_subset fun other mem => .inl (List.mem_append_left _ mem)

/-- **A request that is confirmed**: what it answers, and what it leaves. -/
theorem runFrom_handle_of_accepted (files : w.Files ledger)
    (path : resource? (pathParts r.path) = some (.flow code)) (put : Text.upper r.method = "PUT")
    (read : readBody r.body = .good d) (same : d.code = code)
    (accepted : d.Accepted (some (Table.keys w.registry))) :
    ∃ id first v, Ledger.first? (ledger ++ [⟨d, w.clock⟩]) code = some first ∧
      runFrom w (handle r) = (.ok (confirmation (d.stamped id first.time w.clock) code d.isActive
        (!d.isActive && Table.has w.registry code)), v) ∧
      (v.backend.database.first? .flows (byCode code)).bind ofDocument? =
        some (d.stamped id first.time w.clock) ∧
      (saved w.backend d w.clock).Agrees v.backend ∧ v.clock = w.clock := by
  subst same
  obtain ⟨id, found⟩ := (files.backend.save d files.stocks.civil).found d.code
  obtain ⟨first, first_, entry⟩ := Ledger.entry?_concat ledger ⟨d, w.clock⟩
  rw [entry] at found
  obtain ⟨v, ran, agrees, clock⟩ := runFrom_storeFlow_of_stocks files.stocks accepted found
  refine ⟨id, first, v, first_, ?_, ?_, agrees, clock⟩
  · have asked : action? (Text.upper r.method) r.body (.flow d.code) =
        some (putFlow d.code r.body) := by
      rw [put]
      rfl
    refine runFrom_handle_of_action path asked (by rw [put]; decide) ?_
    unfold putFlow
    rw [read]
    exact (runFrom_saveFlow_of_accepted accepted).trans ran
  · show (v.backend.database.flows.find? _).bind _ = _
    rw [agrees.flows]
    exact found

/-- **A request that is refused** changes nothing. -/
theorem runFrom_handle_of_refused (path : resource? (pathParts r.path) = some (.flow code))
    (put : Text.upper r.method = "PUT")
    (refused : ∀ d, readBody r.body = .good d → d.code = code →
      ¬ d.Accepted (some (Table.keys w.registry))) :
    ∃ a, runFrom w (handle r) = (.ok a, w) ∧ a.status ≠ 200 := by
  have refused' (d : Definition) (asked : r.definition? = some (d.code, d)) :
      ¬ d.Accepted (some (Table.keys w.registry)) := by
    obtain ⟨path', -, read⟩ := definition?_eq_some_iff.1 asked
    rw [path] at path'
    exact refused d read (Resource.flow.inj (Option.some.inj path')).symm
  obtain ⟨a, ran, fails⟩ := runFrom_respond_of_refused path put refused'
  refine ⟨a, ?_, fails⟩
  unfold handle
  rw [runFrom_bind_of_ok ran, if_neg (by rw [put]; decide)]
  rfl

/-- The ledger after a request: a save that was confirmed is entered. -/
def Request.enter (r : Request) (now : Stamp) (answer : Except Fault Answer) (ledger : Ledger) :
    Ledger :=
  match r.saved? answer with
  | some (_, d) => ledger ++ [⟨d, now⟩]
  | none => ledger

theorem enter_of_confirmed (path : resource? (pathParts r.path) = some (.flow code))
    (put : Text.upper r.method = "PUT") (read : readBody r.body = .good d) {a : Answer}
    (done : a.status = 200) (now : Stamp) :
    r.enter now (.ok a) ledger = ledger ++ [⟨d, now⟩] := by
  unfold Request.enter
  rw [saved?_of_status_eq done, definition?_eq_some_iff.2 ⟨path, put, read⟩]

theorem enter_of_refused {a : Answer} (fails : a.status ≠ 200) (now : Stamp) :
    r.enter now (.ok a) ledger = ledger := by
  have none_ : r.saved? (.ok a) = none := saved?_of_status fun b answered => by
    cases answered
    exact fails
  unfold Request.enter
  rw [none_]

end Admin

/-! ## Any number of requests -/

/-- The moments of a bot whose database held nothing at first and never fails, with the ledger of
the saves that were confirmed. Definitions are stored by requests alone; all else may change at any
moment. -/
inductive World.Filed : Ledger → World → Prop where
  | empty {w : World} (none_ : w.backend.database.flows = []) (up : w.backend.Up)
      (civil : w.clock.IsCivil) : World.Filed [] w
  | pass {ledger : Ledger} {w v : World} (filed : World.Filed ledger w)
      (agrees : w.backend.Agrees v.backend) (civil : v.clock.IsCivil) : World.Filed ledger v
  | put {ledger : Ledger} {w v : World} {r : Admin.Request} {code : String}
      {answer : Except Fault Admin.Answer} (filed : World.Filed ledger w)
      (path : Admin.resource? (Admin.pathParts r.path) = some (.flow code))
      (put : Text.upper r.method = "PUT") (ran : runFrom w (Admin.handle r) = (answer, v)) :
      World.Filed (r.enter w.clock answer ledger) v

/-- **Any number of requests** leaves what the ledger says. -/
theorem World.Filed.files (filed : w.Filed ledger) : w.Files ledger := by
  induction filed with
  | empty none_ up civil =>
    have files := Backend.Files.empty none_ up
    exact ⟨files, files.holds, civil, fun _ mem => (List.not_mem_nil mem).elim⟩
  | pass _ agrees civil ih => exact ih.of_agrees agrees civil
  | @put ledger w v r code answer _ path put ran ih =>
    by_cases fine : ∃ d, Admin.readBody r.body = .good d ∧ d.code = code ∧
        d.Accepted (some (Table.keys w.registry))
    · obtain ⟨d, read, same, accepted⟩ := fine
      obtain ⟨id, first, u, -, ran', -, agrees, clock⟩ :=
        Admin.runFrom_handle_of_accepted ih path put read same accepted
      rw [ran] at ran'
      cases ran'
      rw [Admin.enter_of_confirmed path put read rfl]
      exact ih.save accepted.unknown agrees clock
    · obtain ⟨a, ran', fails⟩ := Admin.runFrom_handle_of_refused path put
        fun d read same accepted => fine ⟨d, read, same, accepted⟩
      rw [ran] at ran'
      cases ran'
      rw [Admin.enter_of_refused fails]
      exact ih

/-! ## All or nothing -/

/-- A definition is found under a code, and shown when it is asked for. -/
structure World.Shows (code : String) (e : Definition) (w : World) : Prop where
  found : ∃ b, runFrom w.backend (findByCode code) = (.ok (some e), b)
  shown (r : Admin.Request) :
    Admin.resource? (Admin.pathParts r.path) = some (.flow code) → Text.upper r.method = "GET" →
      ∃ v, runFrom w (Admin.handle r) = (.ok (Admin.success "Flow retrieved successfully"
        [("flow", e.toJson), ("registered", .bool (Table.has w.registry code))]), v)

theorem World.shows_of_first? {code : String} (up : w.backend.Up)
    (found : (w.backend.database.first? .flows (byCode code)).bind ofDocument? = some e) :
    w.Shows code e := by
  obtain ⟨b, looked⟩ := runFrom_findByCode up.answers code
  rw [found] at looked
  refine ⟨⟨b, looked⟩, fun r path method => ⟨{ w with backend := b }, ?_⟩⟩
  have asked : Admin.action? (Text.upper r.method) r.body (.flow code) =
      some (Admin.getFlow code) := by
    rw [method]
    rfl
  refine Admin.runFrom_handle_of_action path asked (by rw [method]; decide) ?_
  unfold Admin.getFlow
  have ran : runFrom w (Act.lookup (findByCode code)) =
      (.ok (some e), { w with backend := b }) := by
    rw [runFrom_lookup, looked]
  rw [runFrom_bind_of_ok ran]
  rfl

/-- **A request to save is all or nothing.** It is confirmed exactly if its body is a definition of
the code in its path that passes the check next to the registered flows. If it is not confirmed,
nothing is changed. If it is, the definition is found and shown as it was submitted, created at the
time of the first confirmed save of the code and updated now; all documents of other codes stay as
they were; and the answer says that the flow is in service exactly if the definition is active. -/
theorem saved_or_untouched {ledger : Ledger} {w : World} (filed : w.Filed ledger)
    {r : Admin.Request} {code : String}
    (path : Admin.resource? (Admin.pathParts r.path) = some (.flow code))
    (put : Text.upper r.method = "PUT") :
    ∃ a v, runFrom w (Admin.handle r) = (.ok a, v) ∧
      (a.status = 200 ↔ ∃ d, Admin.readBody r.body = .good d ∧ d.code = code ∧
        d.check (some (Table.keys w.registry ++ [code])) = .ok none) ∧
      (a.status ≠ 200 → v = w) ∧
      (a.status = 200 → ∃ d id first, Admin.readBody r.body = .good d ∧ d.code = code ∧
        Ledger.first? (ledger ++ [⟨d, w.clock⟩]) code = some first ∧
        v.Shows code (d.stamped id first.time w.clock) ∧
        (v.backend.database.flows.filter fun doc => !(byCode code).holds doc) =
          (w.backend.database.flows.filter fun doc => !(byCode code).holds doc) ∧
        a = Admin.confirmation (d.stamped id first.time w.clock) code d.isActive
          (!d.isActive && Table.has w.registry code)) := by
  have files := filed.files
  by_cases fine : ∃ d, Admin.readBody r.body = .good d ∧ d.code = code ∧
      d.check (some (Table.keys w.registry ++ [code])) = .ok none
  · obtain ⟨d, read, same, passes⟩ := fine
    have accepted := (Admin.check_eq_none_iff_accepted same _).1 passes
    obtain ⟨id, first, v, first_, ran, found, agrees, clock⟩ :=
      Admin.runFrom_handle_of_accepted files path put read same accepted
    have up := (files.save accepted.unknown agrees clock).stocks.holds.up
    have others : (v.backend.database.flows.filter fun doc => !(byCode code).holds doc) =
        w.backend.database.flows.filter fun doc => !(byCode code).holds doc := by
      rw [agrees.flows, ← same]
      exact filter_flows_saved w.backend d w.clock
    exact ⟨_, v, ran, ⟨fun _ => ⟨d, read, same, passes⟩, fun _ => rfl⟩,
      fun fails => absurd rfl fails, fun _ =>
        ⟨d, id, first, read, same, first_, World.shows_of_first? up found, others, rfl⟩⟩
  · obtain ⟨a, ran, fails⟩ := Admin.runFrom_handle_of_refused path put
      fun d read same accepted =>
        fine ⟨d, read, same, (Admin.check_eq_none_iff_accepted same _).2 accepted⟩
    exact ⟨a, w, ran, ⟨fun done => absurd done fails, fun done => absurd done fine⟩, fun _ => rfl,
      fun done => absurd done fails⟩

/-- A minute of the first of May 2024, in universal time. -/
def onTheDay (minutes : Int) : Stamp := .ofInstant (739006 * Time.day + minutes * Time.minute)

theorem isCivil_onTheDay {minutes : Int} (early : 0 ≤ minutes) (late : minutes < 1440) :
    (onTheDay minutes).IsCivil where
  inRange := by
    unfold Time.inRange
    rw [Bool.and_eq_true, decide_eq_true_eq, decide_eq_true_eq]
    show 0 ≤ 739006 * Time.day + minutes * Time.minute ∧
      739006 * Time.day + minutes * Time.minute < Time.limit
    unfold Time.limit Time.day Time.minute Time.second
    omega
  offset minutes given := by
    cases given
    decide

/-- The definition passes the check next to any flows, since it leads to none. -/
theorem check_retired (codes : List String) : retired.check (some codes) = .ok none := by
  have alone : retired.check (some []) = .ok none := by cbv
  exact check_eq_none_iff.2
    ((check_eq_none_iff.1 alone).of_subset fun _ mem => (List.not_mem_nil mem).elim)

set_option maxRecDepth 20000 in
theorem saved_or_untouched_retired :
    ∃ w v : World, ∃ a id, w.Filed [⟨offers, onTheDay 600⟩] ∧ w.clock = onTheDay 660 ∧
      runFrom w (Admin.handle (Admin.Request.put retired)) = (.ok a, v) ∧ a.status = 200 ∧
      v.Shows "offers" (retired.stamped id (onTheDay 600) (onTheDay 660)) := by
  have path (d : Definition) (same : d.code = "offers") : Admin.resource? (Admin.pathParts
      (Admin.Request.put d).path) = some (.flow d.code) := by
    unfold Admin.Request.put
    rw [same]
    cbv
  have put : Text.upper "PUT" = "PUT" := by decide
  have read (d : Definition) (same : d.code = "offers") : Admin.readBody
      (Admin.Request.put d).body = .good d.authored :=
    (Admin.definition?_eq_some_iff.1 (Admin.definition?_put (path d same))).2.2
  have filed : World.Filed [] { newborn with clock := onTheDay 600 } :=
    .empty rfl (fun _ => rfl) (isCivil_onTheDay (by decide) (by decide))
  obtain ⟨a, v, ran, confirmed, -⟩ := saved_or_untouched filed (path offers rfl) put
  have done := confirmed.2 ⟨offers, read offers rfl, rfl, by cbv⟩
  have filed' := filed.put (path offers rfl) put ran
  rw [Admin.enter_of_confirmed (path offers rfl) put (read offers rfl) done] at filed'
  have later : World.Filed [⟨offers, onTheDay 600⟩] { v with clock := onTheDay 660 } :=
    filed'.pass (Lasting.refl _) (isCivil_onTheDay (by decide) (by decide))
  obtain ⟨a', v', ran', confirmed', -, saves⟩ := saved_or_untouched later (path retired rfl) put
  have done' := confirmed'.2 ⟨retired, read retired rfl, rfl, check_retired _⟩
  obtain ⟨d, id, first, read', -, first_, shows, -⟩ := saves done'
  rw [read retired rfl] at read'
  cases read'
  cases first_
  exact ⟨_, v', a', id, later, rfl, ran', done', shows⟩

end Dialogue
