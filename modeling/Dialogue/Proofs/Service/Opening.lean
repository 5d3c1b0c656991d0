import Dialogue.Proofs.Flow.Turns
import Dialogue.Proofs.Service.Running

/-!
# The menu can be opened

Once the built-in flows are registered, a flow of each built-in code stays registered: what is
loaded may take the place of a flow, and what is taken out of service gives way to the built-in one.
The flow to open with is the usual one or a registered one, since the code of a registered flow is
never moved away from under it. So when the usual code is a built-in one, a conversation can always
be opened.

None of this asks anything of the database: what it holds may change at any moment, and it may fail.

Main statements: `Openable.register` and `Openable.without`, what changes of the registry keep;
`openable_handle`, what any request keeps; and `menu_opens`.
-/

namespace Dialogue

open Effect

/-! ## Registered codes -/

/-- A flow is registered under the code. -/
def Registry.Knows (registry : Registry) (code : String) : Prop :=
  ∃ flow, registry.flow? code = some flow

namespace Registry.Knows

variable {registry : Registry} {code : String}

theorem iff_get? :
    registry.Knows code ↔ code ≠ "" ∧ ∃ flow, Table.get? registry code = some flow := by
  unfold Registry.Knows Registry.flow?
  by_cases empty : code = "" <;> simp [empty]

theorem set (knows : registry.Knows code) (other : String) (flow : Flow) :
    Registry.Knows (Table.set registry other flow) code := by
  obtain ⟨named, old, found⟩ := iff_get?.1 knows
  refine iff_get?.2 ⟨named, ?_⟩
  rw [Table.get?_set]
  split
  · exact ⟨flow, rfl⟩
  · exact ⟨old, found⟩

theorem set_self (named : code ≠ "") (registry : Registry) (flow : Flow) :
    Registry.Knows (Table.set registry code flow) code :=
  iff_get?.2 ⟨named, flow, Table.get?_set_self ..⟩

theorem setAll (knows : registry.Knows code) (flows : Registry) :
    Registry.Knows (Table.setAll registry flows) code := by
  induction flows generalizing registry with
  | nil => exact knows
  | cons entry rest ih => exact ih (knows.set entry.1 entry.2)

end Registry.Knows

/-- The built-in flows are there to be registered. -/
theorem knows_builtins {code : String} (mem : code ∈ Catalogue.codes) :
    Registry.builtins.Knows code := by
  refine Registry.Knows.iff_get?.2 ⟨?_, Table.mem_keys_iff.1 (Registry.keys_builtins ▸ mem)⟩
  rintro rfl
  exact absurd mem (by decide)

/-- **Taking a flow out** leaves the built-in flow under its code, if there is one. -/
theorem knows_without_iff {w : World} {code other : String} :
    (Registry.without w code).registry.Knows other ↔
      (if code = other then Registry.builtins else w.registry).Knows other := by
  rw [Registry.Knows.iff_get?, Registry.Knows.iff_get?, Registry.get?_without]
  split <;> rfl

/-! ## Bots that can open a conversation -/

/-- The built-in codes are registered, and the flow to open with is the usual one or a registered
one. -/
structure World.Openable (usual : String) (w : World) : Prop where
  config : w.config.fallbackOpening = usual
  builtin : ∀ code ∈ Catalogue.codes, w.registry.Knows code
  opening : w.opening = usual ∨ w.registry.Knows w.opening

namespace World.Openable

variable {usual : String} {w : World}

/-- What is stored, cached or counted does not matter, nor does the time. -/
theorem of_same {v : World} (openable : w.Openable usual) (config : v.config = w.config)
    (registry : v.registry = w.registry) (opening : v.opening = w.opening) : v.Openable usual where
  config := by
    rw [config]
    exact openable.config
  builtin := by
    rw [registry]
    exact openable.builtin
  opening := by
    rw [registry, opening]
    exact openable.opening

/-- Any flow may be registered. -/
theorem register (openable : w.Openable usual) (code : String) (flow : Flow) :
    World.Openable usual { w with registry := Table.set w.registry code flow } where
  config := openable.config
  builtin other mem := (openable.builtin other mem).set code flow
  opening := openable.opening.imp_right fun knows => knows.set code flow

/-- Any flow may be taken out of service. -/
theorem without (openable : w.Openable usual) (code : String) :
    (Registry.without w code).Openable usual where
  config := by
    rw [Registry.without_config]
    exact openable.config
  builtin other mem := by
    rw [knows_without_iff]
    split
    · exact knows_builtins mem
    · exact openable.builtin other mem
  opening := by
    cases builtin : Registry.builtins.get? code with
    | some flow =>
      have stays : (Registry.without w code).opening = w.opening := by
        unfold Registry.without
        rw [builtin]
      rw [stays, knows_without_iff]
      refine openable.opening.imp_right fun knows => ?_
      split
      · next gone =>
        -- The flow gives way to the built-in one, under the same code.
        subst gone
        exact Registry.Knows.iff_get?.2 ⟨(Registry.Knows.iff_get?.1 knows).1, flow, builtin⟩
      · exact knows
    | none =>
      have moves : (Registry.without w code).opening =
          if w.opening = code then w.config.fallbackOpening else w.opening := by
        unfold Registry.without
        rw [builtin]
      rw [moves]
      split
      · exact .inl openable.config
      · next other =>
        rw [knows_without_iff, if_neg (Ne.symm other)]
        exact openable.opening

end World.Openable

/-! ## Loading flows -/

namespace Registry

variable {usual : String} {α : Type}

/-- Looking anything up changes neither the registered flows nor the one to open with. -/
theorem openable_lookup (l : Lookup α) : Act.Maintains (World.Openable usual) (Act.lookup l) := by
  intro w v result ran openable
  rw [runFrom_lookup] at ran
  cases ran
  exact openable.of_same rfl rfl rfl

theorem openable_codes : Act.Maintains (World.Openable usual) codes :=
  within_bind within_get fun _ => within_pure _

theorem openable_register (code : String) (flow : Flow) :
    Act.Maintains (World.Openable usual) (register code flow) := by
  intro w v result ran openable
  cases ran
  exact openable.register code flow

theorem openable_registerAll (flows : Registry) :
    Act.Maintains (World.Openable usual) (registerAll flows) := by
  induction flows with
  | nil => exact within_pure ()
  | cons entry rest ih => exact within_bind (openable_register entry.1 entry.2) fun _ => ih

theorem openable_loadDynamic : Act.Maintains (World.Openable usual) loadDynamic :=
  within_bind openable_codes fun _ => within_bind (openable_lookup _) fun _ =>
    within_bind (openable_registerAll _) fun _ => within_pure _

/-- A flow that is loaded has the code of its definition, which is not empty. -/
theorem named_of_loadFound {known : List String} {found : Option Definition} {b c : Backend}
    {code : String} {flow : Flow}
    (ran : runFrom b (Definition.loadFound Store.options known found) =
      (.ok (some (code, flow)), c)) : code ≠ "" := by
  cases found with
  | none => cases ran
  | some d =>
    unfold Definition.loadFound at ran
    dsimp only at ran
    split at ran
    · cases ran
    · obtain ⟨flow?, e, loaded, ran⟩ := runFrom_bind_eq_ok_iff.1 ran
      cases flow? with
      | none => cases ran
      | some flow =>
        cases ran
        obtain ⟨problem, checked, made⟩ := bind_eq_ok_iff.1 (toFlow?_of_load loaded)
        cases problem with
        | some problem => cases made
        | none =>
          have named := (Definition.check_eq_none_iff.1 checked).named
          intro empty
          rw [empty] at named
          exact named rfl

theorem openable_loadOpening : Act.Maintains (World.Openable usual) loadOpening := by
  refine within_bind openable_codes fun known => ?_
  intro w v result ran openable
  rw [runFrom_bind, runFrom_lookup] at ran
  split at ran
  · next found u looked =>
    obtain ⟨given, rfl⟩ := Prod.mk.inj looked
    cases found with
    | none =>
      cases ran
      exact ⟨openable.config, openable.builtin, .inl openable.config⟩
    | some entry =>
      obtain ⟨b, looked⟩ : ∃ b, runFrom w.backend (Definition.loadDefault Store.options known) =
        (.ok (some entry), b) := ⟨_, Prod.ext given rfl⟩
      obtain ⟨d, c, -, loaded⟩ := runFrom_bind_eq_ok_iff.1 looked
      cases ran
      have registered := openable.register entry.1 entry.2
      exact ⟨registered.config, registered.builtin,
        .inr (.set_self (named_of_loadFound loaded) w.registry entry.2)⟩
  · next fault u looked =>
    cases ran
    obtain ⟨-, rfl⟩ := Prod.mk.inj looked
    exact openable.of_same rfl rfl rfl

theorem openable_reload (code : String) : Act.Maintains (World.Openable usual) (reload code) := by
  intro w v result ran openable
  obtain ⟨b, rfl | ⟨flow, -, rfl⟩⟩ := reload_cases ran
  · exact openable.of_same rfl rfl rfl
  · exact (openable.register code flow).of_same rfl rfl rfl

theorem openable_ensure (code : String) : Act.Maintains (World.Openable usual) (ensure code) := by
  refine within_bind within_get fun w => ?_
  split
  · exact within_pure _
  · exact openable_reload code

theorem openable_deactivate (code : String) :
    Act.Maintains (World.Openable usual) (deactivate code) := by
  intro w v result ran openable
  rw [runFrom_deactivate] at ran
  cases ran
  exact openable.without code

end Registry

/-! ## Requests -/

namespace Admin

variable {usual : String}

theorem openable_readiness : Act.Maintains (World.Openable usual) readiness := by
  refine within_bind (Registry.openable_lookup _) fun database => ?_
  refine within_bind ?_ fun cache => by split <;> exact within_pure _
  refine within_bind within_get fun w => ?_
  split
  · exact within_pure false
  · intro w v result ran openable
    cases ran
    exact openable.of_same rfl rfl rfl

theorem openable_listFlows : Act.Maintains (World.Openable usual) listFlows :=
  within_bind (Registry.openable_lookup _) fun _ =>
    within_bind Registry.openable_codes fun _ => within_pure _

theorem openable_reloadFlows : Act.Maintains (World.Openable usual) reloadFlows :=
  within_bind Registry.openable_loadDynamic fun _ =>
    within_bind Registry.openable_loadOpening fun _ =>
      within_bind Registry.openable_codes fun _ => within_pure _

theorem openable_getFlow (code : String) : Act.Maintains (World.Openable usual) (getFlow code) := by
  refine within_bind (Registry.openable_lookup _) fun found => ?_
  cases found with
  | none => exact within_pure _
  | some d => exact within_bind within_get fun _ => within_pure _

theorem openable_storeFlow (d : Definition) (code : String) :
    Act.Maintains (World.Openable usual) (storeFlow d code) := by
  refine within_bind within_get fun w => within_bind (Registry.openable_lookup _) fun stored => ?_
  refine within_bind ?_ fun (reloaded, deactivated) => within_bind within_get fun v => ?_
  · unfold putInService
    split
    · exact within_bind (Registry.openable_reload code) fun _ => within_pure _
    · exact within_bind (Registry.openable_deactivate code) fun _ => within_pure _
  · dsimp only
    split
    · exact within_bind Registry.openable_loadOpening fun _ => within_pure _
    · exact within_pure _

theorem openable_saveFlow (code : String) (d : Definition) :
    Act.Maintains (World.Openable usual) (saveFlow code d) := by
  unfold saveFlow
  split
  · exact within_pure _
  · refine within_bind Registry.openable_codes fun codes =>
      within_bind (Registry.openable_lookup _) fun problem? => ?_
    cases problem? with
    | some problem => exact within_pure _
    | none => exact openable_storeFlow d code

theorem openable_putFlow (code : String) (body : Option Json) :
    Act.Maintains (World.Openable usual) (putFlow code body) := by
  unfold putFlow
  split
  · exact openable_saveFlow code _
  · exact within_pure _

theorem openable_action? {method : String} {body : Option Json} {resource : Resource}
    {action : Act Answer} (asked : action? method body resource = some action) :
    Act.Maintains (World.Openable usual) action := by
  cases resource with
  | health =>
    cases (Option.ite_none_right_eq_some.1 asked).2
    exact within_bind within_get fun _ => within_pure _
  | readiness =>
    cases (Option.ite_none_right_eq_some.1 asked).2
    exact openable_readiness
  | metrics =>
    cases (Option.ite_none_right_eq_some.1 asked).2
    exact within_pure _
  | flows =>
    cases (Option.ite_none_right_eq_some.1 asked).2
    exact openable_listFlows
  | flow code =>
    unfold action? at asked
    dsimp only at asked
    split at asked
    · cases asked
      exact openable_reloadFlows
    · split at asked
      · cases asked
        exact openable_getFlow code
      · cases (Option.ite_none_right_eq_some.1 asked).2
        exact openable_putFlow code body

/-- **A request**, whatever it asks for and however it ends. -/
theorem openable_handle (r : Request) : Act.Maintains (World.Openable usual) (handle r) := by
  refine within_bind ?_ fun answer => within_pure _
  unfold respond
  dsimp only
  split
  · exact within_pure _
  · next resource found =>
    split
    · exact within_pure _
    · next action asked => exact within_tryCatch (openable_action? asked) fun _ => within_pure _

end Admin

/-! ## Any number of operations -/

/-- What may happen to the registered flows and to what is stored. -/
inductive Operation where
  | loadDynamic
  | loadOpening
  | ensure (code : String)
  | reload (code : String)
  | deactivate (code : String)
  | request (r : Admin.Request)
  /-- Somebody else changes what is stored, or the database breaks down or recovers. -/
  | outside (backend : Backend)

namespace Operation

variable {usual : String}

/-- What an operation does. -/
def act : Operation → Act Unit
  | loadDynamic => discard Registry.loadDynamic
  | loadOpening => discard Registry.loadOpening
  | ensure code => discard (Registry.ensure code)
  | reload code => discard (Registry.reload code)
  | deactivate code => discard (Registry.deactivate code)
  | request r => discard (Admin.handle r)
  | outside backend => modify fun w => { w with backend := backend }

/-- The bot after an operation, also when it fails. -/
def after (w : World) (o : Operation) : World := (runFrom w o.act).2

/-- The bot after any number of operations. -/
def afterAll (w : World) (operations : List Operation) : World := operations.foldl after w

theorem maintains_discard {α : Type} {P : World → Prop} {x : Act α}
    (maintains : Act.Maintains P x) : Act.Maintains P (discard x : Act Unit) :=
  within_bind maintains fun _ => within_pure ()

theorem openable_act (o : Operation) : Act.Maintains (World.Openable usual) o.act := by
  cases o with
  | loadDynamic => exact maintains_discard Registry.openable_loadDynamic
  | loadOpening => exact maintains_discard Registry.openable_loadOpening
  | ensure code => exact maintains_discard (Registry.openable_ensure code)
  | reload code => exact maintains_discard (Registry.openable_reload code)
  | deactivate code => exact maintains_discard (Registry.openable_deactivate code)
  | request r => exact maintains_discard (Admin.openable_handle r)
  | outside backend =>
    intro w v result ran openable
    cases ran
    exact openable.of_same rfl rfl rfl

/-- **Any number of operations** leaves the menu to be opened. -/
theorem openable_afterAll {w : World} (openable : w.Openable usual) (operations : List Operation) :
    (afterAll w operations).Openable usual := by
  induction operations generalizing w with
  | nil => exact openable
  | cons o rest ih => exact ih (openable_act o rfl openable)

end Operation

/-- Registering the built-in flows leaves the menu to be opened. -/
theorem openable_registerBuiltins {w v : World} {result : Except Fault Unit}
    (usual : w.opening = w.config.fallbackOpening)
    (ran : runFrom w Registry.registerBuiltins = (result, v)) :
    v.Openable w.config.fallbackOpening := by
  rw [Registry.runFrom_registerBuiltins] at ran
  cases ran
  refine ⟨rfl, fun code mem => ?_, .inl usual⟩
  obtain ⟨named, flow, found⟩ := Registry.Knows.iff_get?.1 (knows_builtins mem)
  refine Registry.Knows.iff_get?.2 ⟨named, flow, ?_⟩
  show Table.get? (Table.setAll w.registry Registry.builtins) code = _
  rw [Table.get?_setAll _ Registry.nodup_keys_builtins, found]
  rfl

/-- A registered flow is started, or showing its initial step fails. -/
theorem start_ne_none_of_knows {registry : Registry} {code : String} (knows : registry.Knows code)
    (address : Address) (data : Fields) {b c : Backend} :
    runFrom b (Turn.start registry address (some code) data) ≠ (.ok none, c) := by
  obtain ⟨flow, registered⟩ := knows
  rw [Turn.start_eq registered]
  intro ran
  obtain ⟨message, d, -, ran⟩ := runFrom_bind_eq_ok_iff.1 ran
  obtain ⟨-, e, -, ran⟩ := runFrom_bind_eq_ok_iff.1 ran
  cases ran

/-- **The menu can always be opened.** Once the built-in flows are registered, after any number of
operations, whatever the database holds, all built-in codes are registered, and the flow to open
with is the usual one or a registered one. So if the usual code is a built-in one, starting the flow
to open with never gives no turn. -/
theorem menu_opens {w v : World} {result : Except Fault Unit}
    (usual : w.opening = w.config.fallbackOpening)
    (ran : runFrom w Registry.registerBuiltins = (result, v)) (operations : List Operation) :
    let u := Operation.afterAll v operations
    (∀ code ∈ Catalogue.codes, u.registry.Knows code) ∧
      (u.opening = w.config.fallbackOpening ∨ u.registry.Knows u.opening) ∧
      (w.config.fallbackOpening ∈ Catalogue.codes → ∀ address data b c,
        runFrom b (Turn.start u.registry address (some u.opening) data) ≠ (.ok none, c)) := by
  have openable := Operation.openable_afterAll (openable_registerBuiltins usual ran) operations
  refine ⟨openable.builtin, openable.opening, fun builtin address data b c => ?_⟩
  refine start_ne_none_of_knows (openable.opening.elim (fun same => ?_) id) address data
  rw [same]
  exact openable.builtin _ builtin

/-- The menu is taken out of service, and the flow to open with is looked for in a database that is
out of order. -/
def outages : List Operation :=
  [.deactivate Catalogue.menuCode, .outside { database := { outage := fun _ => true } },
    .loadOpening]

theorem menu_opens_newborn :
    ∃ v, runFrom newborn Registry.registerBuiltins = (.ok (), v) ∧
      (Operation.afterAll v outages).registry.Knows Catalogue.menuCode ∧
      ∀ c, runFrom {} (Turn.start (Operation.afterAll v outages).registry ⟨"549", none⟩
        (some (Operation.afterAll v outages).opening) []) ≠ (.ok none, c) := by
  obtain ⟨v, ran⟩ : ∃ v, runFrom newborn Registry.registerBuiltins = (.ok (), v) :=
    ⟨_, Registry.runFrom_registerBuiltins newborn⟩
  obtain ⟨builtin, -, starts⟩ := menu_opens rfl ran outages
  exact ⟨v, ran, builtin _ (by decide), starts (by decide) ⟨"549", none⟩ [] {}⟩

end Dialogue
