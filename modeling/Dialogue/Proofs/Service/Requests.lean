import Dialogue.Proofs.Service.Saving

/-!
# Requests to a bot that serves

A request to the admin interface keeps a bot serving: a request that saves a definition puts it on
the shelf, and any other one, also one that fails, leaves the shelf as it is.

Main statements: `serves_handle`, and `saves_of_saved?`, what a request has saved.
-/

namespace Dialogue

open Effect Definition

/-! ## Acts that keep a property -/

/-- If a property holds before, it holds after. -/
def World.Kept (P : World → Prop) (w v : World) : Prop := P w → P v

instance (P : World → Prop) : Lasting (World.Kept P) where
  refl _ := id
  trans h g := g ∘ h

namespace Act

variable {α β : Type} {P : World → Prop} {shelf : Table Definition}

/-- An act keeps a property, also when it fails. -/
abbrev Maintains (P : World → Prop) (x : Act α) : Prop := Within (World.Kept P) x

/-- What follows may use that the property holds of the world that was got. -/
theorem maintains_get_bind {f : World → Act β} (rest : ∀ w, P w → Maintains P (f w)) :
    Maintains P (get >>= f) := by
  intro w v result ran before
  rw [runFrom_bind_of_ok (runFrom_get w)] at ran
  exact rest w before ran before

theorem maintains_of_runs {x : Act α}
    (runs : ∀ w, P w → ∃ a v, runFrom w x = (.ok a, v) ∧ P v) : Maintains P x := by
  intro w v result ran before
  obtain ⟨a, u, ran', after⟩ := runs w before
  rw [ran] at ran'
  cases ran'
  exact after

/-- A lookup that reads keeps a bot serving. -/
theorem maintains_lookup {l : Lookup α} (reads : Lookup.Reads l) :
    Maintains (World.Serves shelf) (lookup l) := by
  intro w v result ran serves
  rw [runFrom_lookup] at ran
  cases ran
  exact serves.of_agrees (reads rfl) rfl rfl

theorem maintains_note (e : Event) : Maintains (World.Serves shelf) (note e) :=
  maintains_lookup (Lookup.composable_reads.note e)

theorem maintains_useCache : Maintains (World.Serves shelf) useCache := by
  intro w v result ran serves
  cases ran
  exact serves.of_agrees ⟨rfl, rfl⟩ rfl rfl

theorem tolerant_maintains : World.Tolerant (World.Kept (World.Serves shelf)) where
  looks rests := maintains_lookup (Lookup.reads_of_rests rests)
  uses := maintains_useCache

/-- Changing the cache keeps a bot serving. -/
theorem kept_cache (w : World) (cache : Cache) :
    World.Kept (World.Serves shelf) w { w with cache := cache } :=
  fun serves => serves.of_agrees ⟨rfl, rfl⟩ rfl rfl

theorem maintains_isCacheAlive : Maintains (World.Serves shelf) isCacheAlive := by
  refine within_bind within_get fun w => ?_
  split
  · exact within_pure false
  · exact maintains_useCache

end Act

namespace Registry

variable {shelf : Table Definition}

theorem maintains_codes : Act.Maintains (World.Serves shelf) codes :=
  within_bind within_get fun _ => within_pure _

theorem maintains_loadDynamic : Act.Maintains (World.Serves shelf) loadDynamic :=
  Act.maintains_of_runs fun w serves => by
    obtain ⟨n, v, ran, after, -⟩ := serves.runFrom_loadDynamic
    exact ⟨n, v, ran, after⟩

theorem maintains_loadOpening : Act.Maintains (World.Serves shelf) loadOpening :=
  Act.maintains_of_runs fun w serves => by
    obtain ⟨code, v, ran, after, -⟩ := serves.runFrom_loadOpening
    exact ⟨code, v, ran, after⟩

theorem maintains_reload (code : String) : Act.Maintains (World.Serves shelf) (reload code) :=
  Act.maintains_of_runs fun _ serves => serves.runFrom_reload code

theorem maintains_ensure (code : String) : Act.Maintains (World.Serves shelf) (ensure code) := by
  refine within_bind within_get fun w => ?_
  split
  · exact within_pure _
  · exact maintains_reload code

end Registry

namespace Admin

variable {shelf : Table Definition} {w v : World}

/-! ## Requests that save nothing -/

theorem maintains_readiness : Act.Maintains (World.Serves shelf) readiness := by
  refine within_bind (Act.maintains_lookup Lookup.reads_isAlive) fun database => ?_
  refine within_bind Act.maintains_isCacheAlive fun cache => ?_
  split <;> exact within_pure _

theorem maintains_listFlows : Act.Maintains (World.Serves shelf) listFlows :=
  within_bind (Act.maintains_lookup Lookup.composable_reads.findAll) fun _ =>
    within_bind Registry.maintains_codes fun _ => within_pure _

theorem maintains_reloadFlows : Act.Maintains (World.Serves shelf) reloadFlows :=
  within_bind Registry.maintains_loadDynamic fun _ =>
    within_bind Registry.maintains_loadOpening fun _ =>
      within_bind Registry.maintains_codes fun _ => within_pure _

theorem maintains_getFlow (code : String) : Act.Maintains (World.Serves shelf) (getFlow code) := by
  refine within_bind (Act.maintains_lookup (Lookup.composable_reads.findByCode code))
    fun found => ?_
  cases found with
  | none => exact within_pure _
  | some d => exact within_bind within_get fun _ => within_pure _

/-- The definition that a request asks to save, and the code of its path. -/
def Request.definition? (r : Request) : Option (String × Definition) :=
  match resource? (pathParts r.path) with
  | some (.flow code) =>
    if Text.upper r.method = "PUT" then (readBody r.body).toOption.map fun d => (code, d) else none
  | _ => none

/-- Whatever a method does with a resource keeps a bot serving, unless it saves a definition. -/
theorem maintains_action? {method : String} {body : Option Json} {resource : Resource}
    {action : Act Answer} (asked : action? method body resource = some action)
    (saves : ∀ code, resource = .flow code → method ≠ "PUT") :
    Act.Maintains (World.Serves shelf) action := by
  cases resource with
  | health =>
    cases (Option.ite_none_right_eq_some.1 asked).2
    exact within_bind within_get fun _ => within_pure _
  | readiness =>
    cases (Option.ite_none_right_eq_some.1 asked).2
    exact maintains_readiness
  | metrics =>
    cases (Option.ite_none_right_eq_some.1 asked).2
    exact within_pure _
  | flows =>
    cases (Option.ite_none_right_eq_some.1 asked).2
    exact maintains_listFlows
  | flow code =>
    unfold action? at asked
    dsimp only at asked
    rw [if_neg (saves code rfl)] at asked
    split at asked
    · cases asked
      exact maintains_reloadFlows
    · split at asked
      · cases asked
        exact maintains_getFlow code
      · cases asked

/-! ## Requests that save -/

/-- The definition that a request has saved, by its answer, and the code of its path. -/
def Request.saved? (r : Request) (answer : Except Fault Answer) : Option (String × Definition) :=
  match answer with
  | .ok a => if a.status = 200 then r.definition? else none
  | .error _ => none

/-- A shelf after a request: a definition that was saved is put on it. -/
def Request.shelve (r : Request) (answer : Except Fault Answer) (shelf : Table Definition) :
    Table Definition :=
  match r.saved? answer with
  | some (code, d) => shelf.set code d
  | none => shelf

theorem shelve_of_not_saved {r : Request} {answer : Except Fault Answer}
    (none_ : r.saved? answer = none) (shelf : Table Definition) :
    r.shelve answer shelf = shelf := by
  unfold Request.shelve
  rw [none_]

theorem saved?_of_definition? {r : Request} (none_ : r.definition? = none)
    (answer : Except Fault Answer) : r.saved? answer = none := by
  unfold Request.saved?
  split
  · split
    · exact none_
    · rfl
  · rfl

theorem saved?_of_status {r : Request} {answer : Except Fault Answer}
    (refused : ∀ a, answer = .ok a → a.status ≠ 200) : r.saved? answer = none := by
  unfold Request.saved?
  split
  · exact if_neg (refused _ rfl)
  · rfl

theorem definition?_of_saved? {r : Request} {answer : Except Fault Answer}
    {entry : String × Definition} (saved : r.saved? answer = some entry) :
    r.definition? = some entry := by
  unfold Request.saved? at saved
  split at saved
  · exact (Option.ite_none_right_eq_some.1 saved).2
  · cases saved

theorem definition?_eq_some_iff {r : Request} {code : String} {d : Definition} :
    r.definition? = some (code, d) ↔ resource? (pathParts r.path) = some (.flow code) ∧
      Text.upper r.method = "PUT" ∧ readBody r.body = .good d := by
  unfold Request.definition?
  split
  · next name path =>
    by_cases put : Text.upper r.method = "PUT"
    · rw [if_pos put, path]
      cases readBody r.body <;> simp [Checked.toOption, put, and_comm]
    · simp [put]
  · next other => simp_all

/-- How a request to a definition is answered: a fault is reported. -/
theorem runFrom_respond_put {r : Request} {code : String}
    (path : resource? (pathParts r.path) = some (.flow code))
    (put : Text.upper r.method = "PUT") (w : World) :
    runFrom w (respond r) =
      match runFrom w (putFlow code r.body) with
      | (.ok a, v) => (.ok a, v)
      | (.error _, v) => (.ok ⟨500, .str "Internal Server Error"⟩, v) := by
  have asked : action? (Text.upper r.method) r.body (.flow code) = some (putFlow code r.body) := by
    rw [put]
    rfl
  unfold respond
  dsimp only
  rw [path]
  dsimp only
  rw [asked]
  dsimp only
  rw [runFrom_tryCatch]
  obtain ⟨answer | fault, v⟩ := runFrom w (putFlow code r.body) <;> rfl

/-- A request to save an accepted definition saves it. -/
theorem runFrom_respond_of_accepted (serves : w.Serves shelf) {r : Request} {d : Definition}
    (asked : r.definition? = some (d.code, d))
    (accepted : d.Accepted (some (Table.keys w.registry))) :
    ∃ a v, runFrom w (respond r) = (.ok a, v) ∧ a.status = 200 ∧ w.Saves shelf d v := by
  obtain ⟨path, put, read⟩ := definition?_eq_some_iff.1 asked
  obtain ⟨a, v, ran, done, saves⟩ := runFrom_storeFlow serves accepted
  refine ⟨a, v, ?_, done, saves⟩
  rw [runFrom_respond_put path put]
  unfold putFlow
  rw [read]
  dsimp only
  rw [runFrom_saveFlow_of_accepted accepted, ran]

/-- A request to save any other definition changes nothing, and its answer says so. -/
theorem runFrom_respond_of_refused {r : Request} {code : String}
    (path : resource? (pathParts r.path) = some (.flow code))
    (put : Text.upper r.method = "PUT")
    (refused : ∀ d, r.definition? = some (d.code, d) →
      ¬ d.Accepted (some (Table.keys w.registry))) :
    ∃ a, runFrom w (respond r) = (.ok a, w) ∧ a.status ≠ 200 := by
  have ran : ∃ result, runFrom w (putFlow code r.body) = (result, w) ∧
      ∀ a, result = .ok a → a.status ≠ 200 := by
    unfold putFlow
    cases read : readBody r.body with
    | good d =>
      refine runFrom_saveFlow_of_refused fun h => ?_
      have asked := definition?_eq_some_iff.2 ⟨path, put, read⟩
      rw [← h.1] at asked
      exact refused d asked h.2
    | bad failures =>
      refine ⟨_, rfl, fun a answered => ?_⟩
      cases answered
      exact show (422 : Nat) ≠ 200 by decide
  obtain ⟨result, ran, fails⟩ := ran
  rw [runFrom_respond_put path put, ran]
  cases result with
  | ok a => exact ⟨a, rfl, fails a rfl⟩
  | error fault => exact ⟨_, rfl, show (500 : Nat) ≠ 200 by decide⟩

theorem saved?_of_status_eq {r : Request} {a : Answer} (done : a.status = 200) :
    r.saved? (.ok a) = r.definition? := if_pos done

/-- **A request to save** saves its definition, or changes nothing and says so. -/
theorem saves_or_refuses {r : Request} {code : String} (serves : w.Serves shelf)
    (path : resource? (pathParts r.path) = some (.flow code)) (put : Text.upper r.method = "PUT")
    {answer : Except Fault Answer} (ran : runFrom w (respond r) = (answer, v)) :
    (∃ d, r.saved? answer = some (d.code, d) ∧ w.Saves shelf d v) ∨
      r.saved? answer = none ∧ v = w := by
  by_cases fine : ∃ d, r.definition? = some (d.code, d) ∧
      d.Accepted (some (Table.keys w.registry))
  · obtain ⟨d, asked, accepted⟩ := fine
    obtain ⟨a, u, ran', done, saves⟩ := runFrom_respond_of_accepted serves asked accepted
    rw [ran] at ran'
    cases ran'
    exact .inl ⟨d, (saved?_of_status_eq done).trans asked, saves⟩
  · obtain ⟨a, ran', refused⟩ :=
      runFrom_respond_of_refused path put fun d asked accepted => fine ⟨d, asked, accepted⟩
    rw [ran] at ran'
    cases ran'
    refine .inr ⟨saved?_of_status fun b answered => ?_, rfl⟩
    cases answered
    exact refused

/-- A request that asks for no definition to be saved keeps a bot serving. -/
theorem serves_respond_of_not_put {r : Request} (serves : w.Serves shelf)
    (saves : ∀ code, resource? (pathParts r.path) = some (.flow code) →
      Text.upper r.method ≠ "PUT")
    {answer : Except Fault Answer} (ran : runFrom w (respond r) = (answer, v)) :
    v.Serves shelf := by
  unfold respond at ran
  dsimp only at ran
  split at ran
  · cases ran
    exact serves
  · next resource found =>
    split at ran
    · cases ran
      exact serves
    · next action asked =>
      have maintains : Act.Maintains (World.Serves shelf) action :=
        maintains_action? asked fun code same => saves code (same ▸ found)
      exact within_tryCatch maintains (fun _ => within_pure _) ran serves

/-- **Answering a request keeps a bot serving**, with the definition on the shelf that was saved. -/
theorem serves_respond {r : Request} (serves : w.Serves shelf) {answer : Except Fault Answer}
    (ran : runFrom w (respond r) = (answer, v)) : v.Serves (r.shelve answer shelf) := by
  by_cases asks : ∃ code, resource? (pathParts r.path) = some (.flow code) ∧
      Text.upper r.method = "PUT"
  · obtain ⟨code, path, put⟩ := asks
    rcases saves_or_refuses serves path put ran with ⟨d, saved, saves⟩ | ⟨none_, rfl⟩
    · unfold Request.shelve
      rw [saved]
      exact saves.serves
    · rw [shelve_of_not_saved none_]
      exact serves
  · have none_ : r.definition? = none := by
      rw [Option.eq_none_iff_forall_ne_some]
      rintro ⟨code, d⟩ asked
      obtain ⟨path, put, -⟩ := definition?_eq_some_iff.1 asked
      exact asks ⟨code, path, put⟩
    rw [shelve_of_not_saved (saved?_of_definition? none_ answer)]
    exact serves_respond_of_not_put serves (fun code path put => asks ⟨code, path, put⟩) ran

/-- The head of an answer says what was saved. -/
theorem saved?_of_handle {r : Request} {answer : Except Fault Answer}
    (ran : runFrom w (handle r) = (answer, v)) :
    ∃ first, runFrom w (respond r) = (first, v) ∧ r.saved? answer = r.saved? first := by
  unfold handle at ran
  rw [runFrom_bind] at ran
  split at ran
  · next a u half =>
    cases ran
    refine ⟨_, half, ?_⟩
    by_cases head : Text.upper r.method = "HEAD"
    · rw [if_pos head]
      rfl
    · rw [if_neg head]
  · next fault u half =>
    cases ran
    exact ⟨_, half, rfl⟩

/-- **A request keeps a bot serving**, with the definition on the shelf that it has saved. -/
theorem serves_handle {r : Request} (serves : w.Serves shelf) {answer : Except Fault Answer}
    (ran : runFrom w (handle r) = (answer, v)) : v.Serves (r.shelve answer shelf) := by
  obtain ⟨first, half, same⟩ := saved?_of_handle ran
  unfold Request.shelve
  rw [same]
  exact serves_respond serves half

/-- **What a request has saved**, it has put on the shelf and in service. -/
theorem saves_of_saved? {r : Request} (serves : w.Serves shelf) {answer : Except Fault Answer}
    (ran : runFrom w (handle r) = (answer, v)) {code : String} {d : Definition}
    (saved : r.saved? answer = some (code, d)) : code = d.code ∧ w.Saves shelf d v := by
  obtain ⟨first, half, same⟩ := saved?_of_handle ran
  rw [same] at saved
  obtain ⟨path, put, -⟩ := definition?_eq_some_iff.1 (definition?_of_saved? saved)
  rcases saves_or_refuses serves path put half with ⟨e, found, saves⟩ | ⟨none_, -⟩
  · rw [saved] at found
    cases found
    exact ⟨rfl, saves⟩
  · rw [saved] at none_
    cases none_

/-! ## Asking to save -/

/-- The request to save a definition. -/
def Request.put (d : Definition) : Request :=
  ⟨"PUT", "/api/v1/admin/flows/" ++ d.code, some (.obj d.authoredFields)⟩

theorem definition?_put {d : Definition}
    (path : resource? (pathParts (Request.put d).path) = some (.flow d.code)) :
    (Request.put d).definition? = some (d.code, d.authored) := by
  refine definition?_eq_some_iff.2 ⟨path, show Text.upper "PUT" = "PUT" by decide, ?_⟩
  unfold Request.put readBody
  dsimp only
  rw [read_authoredFields]

/-- Asking to save a definition that passes the check next to the flows in service saves it. -/
theorem runFrom_handle_put (serves : w.Serves shelf) {d : Definition}
    (path : resource? (pathParts (Request.put d).path) = some (.flow d.code))
    (passes : d.check (some (servedCodes shelf)) = .ok none) :
    ∃ a v, runFrom w (handle (Request.put d)) = (.ok a, v) ∧
      (Request.put d).saved? (.ok a) = some (d.code, d.authored) ∧ w.Saves shelf d.authored v := by
  have accepted : d.authored.Accepted (some (Table.keys w.registry)) :=
    (check_eq_none_iff.1 ((check_authored d _).trans passes)).of_subset fun code mem =>
      .inl ((serves.mem_keys_iff code).2 mem)
  obtain ⟨a, v, ran, done, saves⟩ :=
    runFrom_respond_of_accepted serves (definition?_put path) accepted
  refine ⟨a, v, ?_, (saved?_of_status_eq done).trans (definition?_put path), saves⟩
  have whole : Text.upper (Request.put d).method ≠ "HEAD" :=
    show Text.upper "PUT" ≠ "HEAD" by decide
  unfold handle
  rw [runFrom_bind_of_ok ran, if_neg whole]
  rfl

end Admin

end Dialogue
