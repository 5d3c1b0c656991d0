import Dialogue.Proofs.Definition.Saved
import Dialogue.Proofs.Service.Restarting

/-!
# Keeping the flow to open with up to date

The flow to open with is chosen among the stored definitions: the first active one that is flagged,
if it passes the check next to the registered flows, or else the usual one. It is *up to date* when
it is the one that would be chosen now. A bot that has just chosen is up to date, since registering
what was chosen changes no choice. So it is up to date after all definitions were loaded again, and
after a definition was saved that is flagged or is the one to open with. After any other save the
bot opens with what it opened with before, whatever would be chosen now.

What is stored may be anything, and the database may fail at any moment; a request that succeeds has
met no outage.

Main statements: `upToDate_of_loadOpening`, and `Admin.cases_of_storeFlow`, what a save does;
`upToDate_of_handle`.
-/

namespace Dialogue

open Effect Definition

variable {w u v : World} {d : Definition} {code : String} {flow : Flow}

/-! ## The flow that would be chosen -/

/-- The bot with a database that does not fail any more. -/
def World.recovered (w : World) : World := { w with backend := w.backend.recovered }

/-- The code that would be chosen now to open with. -/
def World.choice (w : World) : Except Fault String :=
  (runFrom w.recovered Registry.loadOpening).1

/-- The bot opens with what would be chosen now. -/
def World.UpToDate (w : World) : Prop := w.choice = .ok w.opening

/-- The first active stored definition that is flagged to open with. -/
def World.flagged? (w : World) : Option Definition :=
  (w.backend.database.first? .flows byDefault).bind ofDocument?

/-- No check of the flagged definition stops. -/
def World.Checks (w : World) : Prop :=
  ∀ d ∈ w.flagged?, d.isActive = true → ∀ fault, ¬ d.Exceeds (some (Table.keys w.registry)) fault

theorem World.recovered_of_up (up : w.backend.Up) : w.recovered = w := by
  unfold World.recovered
  rw [Backend.recovered_of_up up]

/-- **What would be chosen**: the flagged definition if it passes the check, or else the usual
code. -/
theorem World.choice_eq (checks : w.Checks) :
    w.choice = .ok (((Registry.opened? w).map (·.1)).getD w.config.fallbackOpening) := by
  obtain ⟨b, -, ran⟩ :=
    Registry.runFrom_loadOpening (show w.recovered.backend.Answers from rfl) checks
  have same : Registry.opened? w.recovered = Registry.opened? w := rfl
  unfold World.choice
  rw [ran, same]
  cases Registry.opened? w <;> rfl

/-! ## Choosing -/

/-- A lookup as an act leaves a backend. -/
theorem exists_backend_of_lookup {α : Type} {l : Lookup α} {a : α}
    (ran : runFrom w (Act.lookup l) = (.ok a, v)) :
    ∃ b, runFrom w.backend l = (.ok a, b) ∧ v = { w with backend := b } := by
  refine ⟨v.backend, runFrom_of_lookup ran, ?_⟩
  rw [runFrom_lookup] at ran
  obtain ⟨-, rfl⟩ := Prod.mk.inj ran
  rfl

/-- A choice that succeeds has met no check that stops. -/
theorem checks_of_loadDefault {b c : Backend} {known : List String}
    {found : Option (String × Flow)}
    (ran : runFrom b (loadDefault Store.options known) = (.ok found, c)) :
    ∀ d ∈ (b.database.first? .flows byDefault).bind ofDocument?, d.isActive = true →
      ∀ fault, ¬ d.Exceeds (some known) fault := by
  intro d hd isActive fault exceeds
  obtain ⟨d?, e, looked, loaded⟩ := runFrom_bind_eq_ok_iff.1
    (Lookup.composable_recovers.loadDefault Store.options known ran)
  obtain ⟨f, again⟩ := runFrom_findDefault b.up_recovered.answers
  rw [looked] at again
  have same : d? = some d := (Except.ok.inj (Prod.mk.inj again).1).trans hd
  subst same
  unfold loadFound at loaded
  dsimp only at loaded
  rw [isActive, if_neg (by decide),
    runFrom_bind_of_error (runFrom_load_of_exceeds Store.options e exceeds)] at loaded
  cases loaded

/-- A choice that succeeds is the same when the database does not fail. -/
theorem recovers_loadOpening (ran : runFrom w Registry.loadOpening = (.ok code, v)) :
    w.Checks ∧ runFrom w.recovered Registry.loadOpening = (.ok code, v.recovered) := by
  unfold Registry.loadOpening at ran ⊢
  rw [runFrom_bind_of_ok (Registry.runFrom_codes w)] at ran
  obtain ⟨found, t, looked, ran⟩ := runFrom_bind_eq_ok_iff.1 ran
  obtain ⟨b, loaded, rfl⟩ := exists_backend_of_lookup looked
  have again : runFrom w.recovered
      (Act.lookup (loadDefault Store.options (Table.keys w.recovered.registry))) =
        (.ok found, { w with backend := b.recovered }) := by
    rw [runFrom_lookup, show w.recovered.backend = w.backend.recovered from rfl,
      show w.recovered.registry = w.registry from rfl,
      Lookup.composable_recovers.loadDefault Store.options _ loaded]
    rfl
  refine ⟨checks_of_loadDefault loaded, ?_⟩
  rw [runFrom_bind_of_ok (Registry.runFrom_codes w.recovered), runFrom_bind_of_ok again]
  cases found with
  | none =>
    cases ran
    rfl
  | some entry =>
    cases ran
    rfl

/-- The flow that was chosen would be chosen again once it is registered. -/
theorem opened?_of_registered (opened : Registry.opened? w = some (code, flow))
    (flagged : v.flagged? = w.flagged?) (registry : v.registry = Table.set w.registry code flow) :
    v.Checks ∧ Registry.opened? v = some (code, flow) := by
  obtain ⟨d, first, chosen⟩ := Option.bind_eq_some_iff.1 opened
  unfold activeFlow? at chosen
  obtain ⟨isActive, chosen⟩ := Option.ite_none_right_eq_some.1 chosen
  obtain ⟨flow', made, same⟩ := Option.map_eq_some_iff.1 chosen
  cases same
  have accepted : d.Accepted (some (Table.keys v.registry)) := by
    refine (accepted_of_flow? made).of_subset fun other mem => .inl ?_
    rw [registry, Table.keys_set]
    split
    · exact mem
    · exact List.mem_append_left _ mem
  have first' : v.flagged? = some d := flagged.trans first
  constructor
  · intro e he _ fault exceeds
    rw [first'] at he
    cases he
    have stops := (check_eq_error_iff _).2 ⟨fault, rfl, exceeds⟩
    rw [check_eq_none_iff.2 accepted] at stops
    cases stops
  · show v.flagged?.bind _ = _
    rw [first']
    show d.activeFlow? Store.options _ = _
    unfold activeFlow?
    rw [if_pos isActive, flow?_of_accepted made accepted]
    rfl

/-- **A bot that has just chosen** is up to date. -/
theorem upToDate_of_loadOpening (ran : runFrom w Registry.loadOpening = (.ok code, v)) :
    v.UpToDate := by
  obtain ⟨checks, again⟩ := recovers_loadOpening ran
  obtain ⟨b, agrees, chosen⟩ :=
    Registry.runFrom_loadOpening (show w.recovered.backend.Answers from rfl) checks
  have same : Registry.opened? w.recovered = Registry.opened? w := rfl
  rw [again, same] at chosen
  have flagged (same : v.recovered.backend = b) : v.flagged? = w.flagged? := by
    have flows : v.recovered.backend.database.flows = w.recovered.backend.database.flows :=
      same ▸ agrees.flows
    unfold World.flagged?
    show (v.recovered.backend.database.flows.find? _).bind _ = _
    rw [flows]
    rfl
  unfold World.UpToDate
  cases opened : Registry.opened? w with
  | none =>
    rw [opened] at chosen
    have left := (Prod.mk.inj chosen).2
    have first := flagged (congrArg World.backend left)
    have registry := congrArg World.registry left
    have opening := congrArg World.opening left
    have config := congrArg World.config left
    change v.registry = w.registry at registry
    change v.opening = w.config.fallbackOpening at opening
    change v.config = w.config at config
    have none_ : Registry.opened? v = none := by
      show v.flagged?.bind _ = none
      rw [first, registry]
      exact opened
    rw [World.choice_eq (by unfold World.Checks; rwa [first, registry]), none_, opening, config]
    rfl
  | some entry =>
    rw [opened] at chosen
    have left := (Prod.mk.inj chosen).2
    have registry := congrArg World.registry left
    have opening := congrArg World.opening left
    change v.registry = Table.set w.registry entry.1 entry.2 at registry
    change v.opening = entry.1 at opening
    obtain ⟨checks', opened'⟩ := opened?_of_registered opened
      (flagged (congrArg World.backend left)) registry
    rw [World.choice_eq checks', opened', opening]
    rfl

/-! ## Saving -/

namespace Admin

theorem kept_of_putInService {e : Definition} {done : Bool × Bool}
    (same : e.isActive = d.isActive) (ran : runFrom w (putInService e d.code) = (.ok done, u)) :
    u.opening = keptOpening d w.opening w.config.fallbackOpening := by
  unfold putInService at ran
  rw [same] at ran
  unfold keptOpening
  cases isActive : d.isActive with
  | true =>
    rw [isActive, if_pos rfl] at ran
    obtain ⟨flow?, t, reloaded, ran⟩ := runFrom_bind_eq_ok_iff.1 ran
    cases ran
    rw [if_neg (by simp)]
    obtain ⟨b, rfl | ⟨flow, -, rfl⟩⟩ := Registry.reload_cases reloaded <;> rfl
  | false =>
    rw [isActive, if_neg (by decide)] at ran
    obtain ⟨gone, t, taken, ran⟩ := runFrom_bind_eq_ok_iff.1 ran
    rw [Registry.runFrom_deactivate] at taken
    cases taken
    cases ran
    unfold Registry.without
    split
    · next builtin => rw [builtin, if_neg (by simp)]
    · next builtin =>
      rw [builtin]
      simp

/-- **What a save does** to the flow to open with: a flow that is taken out of service gives way to
the usual one; then the bot chooses again if the definition is flagged or is the one to open
with. -/
theorem cases_of_storeFlow {a : Answer} (ran : runFrom w (storeFlow d d.code) = (.ok a, v)) :
    ∃ u, u.opening = keptOpening d w.opening w.config.fallbackOpening ∧
      if d.isDefault = true ∨ d.code = u.opening then
        ∃ code, runFrom u Registry.loadOpening = (.ok code, v)
      else v = u := by
  unfold storeFlow at ran
  rw [runFrom_bind_of_ok (runFrom_get w)] at ran
  obtain ⟨e, t, saved, ran⟩ := runFrom_bind_eq_ok_iff.1 ran
  obtain ⟨b, stored, rfl⟩ := exists_backend_of_lookup saved
  obtain ⟨inUse, flagged⟩ := switches_of_save stored
  obtain ⟨done, u, put, ran⟩ := runFrom_bind_eq_ok_iff.1 ran
  have kept := kept_of_putInService inUse put
  refine ⟨u, kept, ?_⟩
  rw [runFrom_bind_of_ok (runFrom_get u), flagged] at ran
  dsimp only at ran
  by_cases again : d.isDefault = true ∨ d.code = u.opening
  · rw [if_pos (by simpa using again)] at ran
    rw [if_pos again]
    obtain ⟨code, t, chosen, ran⟩ := runFrom_bind_eq_ok_iff.1 ran
    cases ran
    exact ⟨code, chosen⟩
  · rw [if_neg (by simpa using again)] at ran
    rw [if_neg again]
    cases ran
    rfl

/-! ## Requests -/

theorem status_of_saved? {r : Request} {a : Answer} {entry : String × Definition}
    (saved : r.saved? (.ok a) = some entry) : a.status = 200 := by
  by_contra refused
  rw [saved?_of_status fun b answered => by cases answered; exact refused] at saved
  cases saved

/-- A request to load all definitions again. -/
def Request.Reloads (r : Request) : Prop :=
  ∃ code, resource? (pathParts r.path) = some (.flow code) ∧ Text.upper r.method = "POST" ∧
    ends code "reload" = true

/-- A request to save that succeeds has stored its definition. -/
theorem storeFlow_of_handle {r : Request} {a : Answer} (ran : runFrom w (handle r) = (.ok a, v))
    (done : a.status = 200) (asked : r.definition? = some (code, d)) :
    code = d.code ∧ ∃ b, runFrom w (storeFlow d d.code) = (.ok b, v) := by
  obtain ⟨path, put, read⟩ := definition?_eq_some_iff.1 asked
  obtain ⟨first, half, same⟩ := saved?_of_handle ran
  rw [saved?_of_status_eq done, asked] at same
  rw [runFrom_respond_put path put] at half
  unfold putFlow at half
  rw [read] at half
  dsimp only at half
  have fails {first : Except Fault Answer} (status : ∀ b, first = .ok b → b.status ≠ 200)
      (saved : some (code, d) = r.saved? first) : False := by
    rw [saved?_of_status status] at saved
    cases saved
  by_cases fine : d.code = code ∧ d.Accepted (some (Table.keys w.registry))
  · obtain ⟨rfl, accepted⟩ := fine
    rw [runFrom_saveFlow_of_accepted accepted] at half
    rcases stored : runFrom w (storeFlow d d.code) with ⟨fault | b, t⟩
    · rw [stored] at half
      cases half
      refine (fails (fun b answered => ?_) same).elim
      cases answered
      exact show (500 : Nat) ≠ 200 by decide
    · rw [stored] at half
      cases half
      exact ⟨rfl, b, rfl⟩
  · obtain ⟨result, refused, status⟩ := runFrom_saveFlow_of_refused fine
    rw [refused] at half
    cases result with
    | ok b =>
      cases half
      exact (fails status same).elim
    | error fault =>
      cases half
      refine (fails (fun b answered => ?_) same).elim
      cases answered
      exact show (500 : Nat) ≠ 200 by decide

/-- A request to load again that succeeds ends with a choice. -/
theorem loadOpening_of_handle {r : Request} {a : Answer} (reloads : r.Reloads)
    (ran : runFrom w (handle r) = (.ok a, v)) (done : a.status = 200) :
    ∃ u code, runFrom u Registry.loadOpening = (.ok code, v) := by
  obtain ⟨code, path, post, reload⟩ := reloads
  have asked : action? (Text.upper r.method) r.body (.flow code) = some reloadFlows :=
    if_pos ⟨post, reload⟩
  unfold handle at ran
  obtain ⟨b, t, half, ran⟩ := runFrom_bind_eq_ok_iff.1 ran
  rw [post, if_neg (by decide)] at ran
  cases ran
  unfold respond at half
  dsimp only at half
  rw [path] at half
  dsimp only at half
  rw [asked] at half
  dsimp only at half
  rw [runFrom_tryCatch] at half
  rcases loaded : runFrom w reloadFlows with ⟨fault | b, t⟩
  · rw [loaded] at half
    cases half
    exact absurd done (by decide)
  · rw [loaded] at half
    cases half
    obtain ⟨n, u, -, loaded⟩ := runFrom_bind_eq_ok_iff.1 loaded
    obtain ⟨code, t, chosen, loaded⟩ := runFrom_bind_eq_ok_iff.1 loaded
    rw [runFrom_bind_of_ok (Registry.runFrom_codes t)] at loaded
    cases loaded
    exact ⟨u, code, chosen⟩

/-- The bot after some requests, however they ended. -/
def served (w : World) (requests : List Request) : World :=
  requests.foldl (fun w r => (runFrom w (handle r)).2) w

end Admin

/-- The bot after its start. -/
def World.started (w : World) : World := (runFrom w (Startup.loadFlows true)).2

/-- **When the flow to open with is up to date.** Take a bot that was started, whatever was stored,
and any requests to it, and then one that succeeds. If this loads all definitions again, or saves a
definition that is flagged, the bot is up to date. It also is when the code of the saved definition
is the one to open with, and a flow stays in service under it or it is the usual code. A save under
another code leaves the flow to open with as it was, so a bot that was up to date stays so exactly
when the same would be chosen as before. -/
theorem upToDate_of_handle (w : World) (earlier : List Admin.Request) {r : Admin.Request}
    {a : Admin.Answer} {v : World}
    (ran : runFrom (Admin.served w.started earlier) (Admin.handle r) = (.ok a, v))
    (done : a.status = 200) :
    (r.Reloads → v.UpToDate) ∧
    ∀ code d, r.definition? = some (code, d) →
      let u := Admin.served w.started earlier
      (d.isDefault = true → v.UpToDate) ∧
      (code = u.opening →
        d.isActive = true ∨ code ∈ Catalogue.codes ∨ code = u.config.fallbackOpening →
        v.UpToDate) ∧
      (d.isDefault = false → code ≠ u.opening →
        v.opening = u.opening ∧ (u.UpToDate → (v.UpToDate ↔ v.choice = u.choice))) := by
  generalize Admin.served w.started earlier = u at ran
  refine ⟨fun reloads => ?_, fun code d asked => ?_⟩
  · obtain ⟨t, code, chosen⟩ := Admin.loadOpening_of_handle reloads ran done
    exact upToDate_of_loadOpening chosen
  obtain ⟨rfl, b, stored⟩ := Admin.storeFlow_of_handle ran done asked
  obtain ⟨t, kept, left⟩ := Admin.cases_of_storeFlow stored
  have chooses (again : d.isDefault = true ∨ d.code = t.opening) : v.UpToDate := by
    rw [if_pos again] at left
    obtain ⟨code, chosen⟩ := left
    exact upToDate_of_loadOpening chosen
  refine ⟨fun flagged => chooses (.inl flagged), fun current stays => chooses (.inr ?_),
    fun plain other => ?_⟩
  · rw [kept, keptOpening]
    split
    · next gone =>
      rcases stays with active | builtin | usual
      · rw [gone.1] at active
        cases active
      · exact absurd builtin (Table.get?_eq_none_iff.1 gone.2.1)
      · exact usual
    · exact current
  · have same : t.opening = u.opening := by
      rw [kept, keptOpening, if_neg fun gone => other gone.2.2.symm]
    rw [if_neg (by rw [plain, same]; simpa using other)] at left
    subst left
    refine ⟨same, fun before => ?_⟩
    unfold World.UpToDate at before ⊢
    rw [same, before]

theorem upToDate_of_handle_desk :
    ∃ a v, runFrom (Admin.served newborn.started []) (Admin.handle (.put desk)) = (.ok a, v) ∧
      a.status = 200 ∧ (Admin.Request.put desk).definition? = some ("desk", desk) ∧ v.UpToDate := by
  obtain ⟨w, started, serves, -⟩ := isBlank_newborn.runFrom_loadFlows
  have bot : newborn.started = w := congrArg Prod.snd started
  have path : Admin.resource? (Admin.pathParts (Admin.Request.put desk).path) =
    some (.flow desk.code) := by cbv
  obtain ⟨a, v, ran, saved, -⟩ := Admin.runFrom_handle_put serves path (by cbv)
  have asked := Admin.definition?_of_saved? saved
  have done := Admin.status_of_saved? saved
  rw [← bot] at ran
  exact ⟨a, v, ran, done, asked,
    ((upToDate_of_handle newborn [] ran done).2 _ _ asked).1 rfl⟩

/-- The flow to open with leads to one that was taken out of service: it would not be chosen. -/
theorem choice_of_retired (serves : w.Serves [("offers", retired), ("hub", hub)]) :
    w.choice = .ok w.config.fallbackOpening := by
  obtain ⟨b, -, ran⟩ := serves.toStocks.runFrom_loadOpening
  have none_ : opener? [("offers", retired), ("hub", hub)] (Table.keys w.registry) = none := by
    rw [serves.opener?_keys, Option.eq_none_iff_forall_ne_some]
    intro entry opened
    obtain ⟨d, first, -, made⟩ := opener?_eq_some_iff.1 opened
    cases first
    exact absurd (check_hub.1 (check_eq_none_iff.2 (accepted_of_flow? made))) (by decide)
  rw [none_] at ran
  unfold World.choice
  rw [World.recovered_of_up serves.holds.up, ran]

theorem stale_hub :
    ∃ w₁ w₂ w₃ a₁ a₂ a₃,
      runFrom newborn.started (Admin.handle (.put offers)) = (.ok a₁, w₁) ∧ a₁.status = 200 ∧
      runFrom w₁ (Admin.handle (.put hub)) = (.ok a₂, w₂) ∧ a₂.status = 200 ∧
      runFrom w₂ (Admin.handle (.put retired)) = (.ok a₃, w₃) ∧ a₃.status = 200 ∧
      w₃.opening = "hub" ∧ w₃.choice = .ok "main_menu" := by
  obtain ⟨w, started, serves, config, -⟩ := isBlank_newborn.runFrom_loadFlows
  have bot : newborn.started = w := congrArg Prod.snd started
  obtain ⟨a₁, w₁, ran₁, saved₁, saves₁⟩ :=
    Admin.runFrom_handle_put (d := offers) serves (by cbv) (by cbv)
  obtain ⟨a₂, w₂, ran₂, saved₂, saves₂⟩ :=
    Admin.runFrom_handle_put (d := hub) saves₁.serves (by cbv) (by cbv)
  obtain ⟨a₃, w₃, ran₃, saved₃, saves₃⟩ :=
    Admin.runFrom_handle_put (d := retired) saves₂.serves (by cbv) (by cbv)
  change w₁.Saves [("offers", offers)] hub w₂ at saves₂
  change w₂.Saves [("offers", offers), ("hub", hub)] retired w₃ at saves₃
  have opened : w₂.opening = "hub" := by
    rw [saves₂.opening, openingAfter, if_pos (.inl rfl)]
    exact openingOf_of_passes (show flagged? [("offers", offers), ("hub", hub)] = some hub from rfl)
      _ (by cbv)
  have usual : w₃.config.fallbackOpening = "main_menu" := by
    rw [saves₃.config, saves₂.config, saves₁.config, config]
    rfl
  refine ⟨w₁, w₂, w₃, a₁, a₂, a₃, bot ▸ ran₁, Admin.status_of_saved? saved₁, ran₂,
    Admin.status_of_saved? saved₂, ran₃, Admin.status_of_saved? saved₃, ?_, ?_⟩
  · have kept : keptOpening retired "hub" w₂.config.fallbackOpening = "hub" :=
      if_neg fun gone => absurd gone.2.2 (by decide)
    rw [saves₃.opening, opened]
    exact (if_neg (by rw [kept]; decide)).trans kept
  · rw [choice_of_retired saves₃.serves, usual]

end Dialogue
