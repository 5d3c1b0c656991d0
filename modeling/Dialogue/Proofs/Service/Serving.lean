import Dialogue.Proofs.Definition.Shelf
import Dialogue.Proofs.Flow.Reading

/-!
# The flows in service

A bot *stocks* a shelf of saved definitions when its database holds the shelf, and it *serves* the
shelf when besides under every code the registered flow is the one in service: the flow of the
definition that was last saved, if that is active, or else the built-in flow of the code. Whatever
is loaded, at once or when it is needed, was in service already, so loading keeps a bot serving.

Main statements: `Serves.mem_keys_iff`, the registered codes are those in service; and
`Serves.runFrom_loadDynamic`, `Serves.runFrom_loadOpening` and `Serves.runFrom_reload`.
-/

namespace Dialogue

open Effect Definition

/-! ## What is in service -/

/-- The flow in service under a code: that of the active definition on the shelf, or else the
built-in one. -/
def inService? (shelf : Table Definition) (code : String) : Option Flow :=
  match shelf.get? code with
  | some d => if d.isActive then d.flow? Store.options none else Registry.builtins.get? code
  | none => Registry.builtins.get? code

/-- The codes of the flows in service. -/
def servedCodes (shelf : Table Definition) : List String :=
  within Catalogue.codes (shelf.map (·.2))

/-- The flow to open with next to some registered flows, and its code. -/
def opener? (shelf : Table Definition) (known : List String) : Option (String × Flow) :=
  (flagged? shelf).bind fun d => d.activeFlow? Store.options known

/-- The database holds a shelf of accepted definitions. -/
structure World.Stocks (shelf : Table Definition) (w : World) : Prop where
  holds : w.backend.Holds shelf
  civil : w.clock.IsCivil
  accepted : ∀ entry ∈ shelf, entry.2.Accepted none

/-- The database holds a shelf of accepted definitions, and the registered flows are those in
service. -/
structure World.Serves (shelf : Table Definition) (w : World) : Prop
    extends World.Stocks shelf w where
  serves : ∀ code, Table.get? w.registry code = inService? shelf code

variable {shelf : Table Definition} {w v : World} {b : Backend}

theorem flagged?_mem {d : Definition} (found : flagged? shelf = some d) :
    ∃ code, (code, d) ∈ shelf ∧ d.isDefault = true ∧ d.isActive = true := by
  obtain ⟨entry, first, rfl⟩ := Option.map_eq_some_iff.1 found
  have holds := List.find?_some first
  rw [Bool.and_eq_true] at holds
  exact ⟨entry.1, List.mem_of_find?_eq_some first, holds⟩

theorem not_flagged_of_none (none_ : flagged? shelf = none) {entry : String × Definition}
    (mem : entry ∈ shelf) (isDefault : entry.2.isDefault = true) : entry.2.isActive = false := by
  have fails := List.find?_eq_none.1 (Option.map_eq_none_iff.1 none_) entry mem
  rwa [isDefault, Bool.true_and, Bool.not_eq_true] at fails

theorem opener?_of_none (none_ : flagged? shelf = none) (known : List String) :
    opener? shelf known = none := by
  unfold opener?
  rw [none_]
  rfl

theorem opener?_of_flagged? {d : Definition} (found : flagged? shelf = some d)
    (known : List String) :
    opener? shelf known =
      (d.flow? Store.options (some known)).map fun flow => (d.code, flow) := by
  obtain ⟨_, _, _, isActive⟩ := flagged?_mem found
  unfold opener?
  rw [found]
  exact if_pos isActive

/-- The flow to open with is that of the flagged definition, which passes the check. -/
theorem opener?_eq_some_iff {known : List String} {entry : String × Flow} :
    opener? shelf known = some entry ↔ ∃ d, flagged? shelf = some d ∧ entry.1 = d.code ∧
      d.flow? Store.options (some known) = some entry.2 := by
  cases found : flagged? shelf with
  | none => simp [opener?_of_none found]
  | some d =>
    rw [opener?_of_flagged? found]
    constructor
    · intro opened
      obtain ⟨flow, made, rfl⟩ := Option.map_eq_some_iff.1 opened
      exact ⟨d, rfl, rfl, made⟩
    · rintro ⟨e, same, code, made⟩
      cases same
      rw [made, Option.map_some, ← code]

namespace World.Stocks

/-- The stored definitions and the clock are all that matters. -/
theorem of_agrees (stocks : w.Stocks shelf) (agrees : w.backend.Agrees v.backend)
    (clock : v.clock = w.clock) : v.Stocks shelf where
  holds := stocks.holds.of_agrees agrees
  civil := by
    rw [clock]
    exact stocks.civil
  accepted := stocks.accepted

theorem accepted_of_get? (stocks : w.Stocks shelf) {code : String} {d : Definition}
    (found : shelf.get? code = some d) : d.Accepted none ∧ d.code = code :=
  have mem := Table.mem_of_get? found
  ⟨stocks.accepted _ mem, stocks.holds.codes _ mem⟩

theorem get?_of_mem (stocks : w.Stocks shelf) {entry : String × Definition}
    (mem : entry ∈ shelf) : shelf.get? entry.2.code = some entry.2 := by
  rw [stocks.holds.codes entry mem]
  exact Table.get?_of_mem stocks.holds.distinct mem

/-! ## What is found -/

/-- What is found of a definition on the shelf never stops the check. -/
theorem not_exceeds (stocks : w.Stocks shelf) {found d? : Option Definition}
    (same : found.map authored = d?.map authored) (onShelf : ∀ d ∈ d?, ∃ code, (code, d) ∈ shelf)
    (known : Known) : ∀ e ∈ found, ∀ fault, ¬ e.Exceeds known fault := by
  rintro e rfl fault
  obtain ⟨d, hd, same⟩ := Option.map_eq_some_iff.1 same.symm
  obtain ⟨code, mem⟩ := onShelf d hd
  exact not_exceeds_of_authored same.symm (stocks.accepted _ mem).compiles known fault

theorem not_exceeds_readable (stocks : w.Stocks shelf) (known : Known) :
    ∀ e ∈ active (readable w.backend.database), ∀ fault, ¬ e.Exceeds known fault := by
  intro e he fault
  have copied : e.authored ∈ (readable w.backend.database).map authored :=
    List.mem_map_of_mem (List.mem_filter.1 he).1
  rw [map_readable stocks.holds] at copied
  obtain ⟨entry, mem, same⟩ := List.mem_map.1 copied
  exact not_exceeds_of_authored same.symm
    (stocks.accepted _ (List.mem_of_mem_take mem)).compiles known fault

/-- Loading all registers the flows of the first definitions on the shelf. -/
theorem runFrom_loadDynamic (stocks : w.Stocks shelf) :
    ∃ n b, w.backend.Agrees b ∧ runFrom w Registry.loadDynamic = (.ok n, { w with
      backend := b
      registry := Table.setAll w.registry (flows Store.options (Table.keys w.registry)
        ((shelf.take Database.readLimit).map (·.2))) }) := by
  obtain ⟨b, ran, agrees⟩ :=
    Registry.runFrom_loadDynamic stocks.holds.up.answers (stocks.not_exceeds_readable _)
  have stored : Registry.stored w = flows Store.options (Table.keys w.registry)
      ((shelf.take Database.readLimit).map (·.2)) := by
    refine flows_eq_of_map_authored ?_
    rw [map_readable stocks.holds, List.map_map]
    rfl
  rw [stored] at ran
  exact ⟨_, b, agrees, ran⟩

/-- Choosing the flow to open with registers the flow of the first flagged definition. -/
theorem runFrom_loadOpening (stocks : w.Stocks shelf) :
    ∃ b, w.backend.Agrees b ∧ runFrom w Registry.loadOpening =
      match opener? shelf (Table.keys w.registry) with
      | some (code, flow) => (.ok code, { w with backend := b, opening := code,
                                                 registry := Table.set w.registry code flow })
      | none => (.ok w.config.fallbackOpening,
          { w with backend := b, opening := w.config.fallbackOpening }) := by
  have run := stocks.not_exceeds (map_first?_byDefault stocks.holds) (fun d hd => by
    obtain ⟨code, mem, -⟩ := flagged?_mem hd
    exact ⟨code, mem⟩) (some (Table.keys w.registry))
  have opened : Registry.opened? w = opener? shelf (Table.keys w.registry) :=
    bind_eq_of_map_authored (map_first?_byDefault stocks.holds) fun d =>
      activeFlow?_authored d Store.options (Table.keys w.registry)
  rw [← opened]
  exact Registry.runFrom_loadOpening stocks.holds.up.answers fun d hd _ => run d hd

/-- Loading a flow again registers the flow of the definition on the shelf. -/
theorem runFrom_reload (stocks : w.Stocks shelf) (code : String) :
    ∃ b, w.backend.Agrees b ∧
      match (shelf.get? code).bind fun d =>
        d.activeFlow? Store.options (Table.keys w.registry) with
      | some (_, flow) => runFrom w (Registry.reload code) =
          (.ok (some flow), { w with backend := b, registry := Table.set w.registry code flow })
      | none => runFrom w (Registry.reload code) = (.ok none, { w with backend := b }) := by
  have run := stocks.not_exceeds (map_first?_byCode stocks.holds code) (fun d hd =>
    ⟨code, Table.mem_of_get? hd⟩) (some (Table.keys w.registry))
  obtain ⟨b, agrees, ran⟩ :=
    Registry.runFrom_reload stocks.holds.up.answers code fun d hd _ => run d hd
  refine ⟨b, agrees, ?_⟩
  unfold Registry.stored? at ran
  rw [bind_eq_of_map_authored (map_first?_byCode stocks.holds code) fun d =>
    activeFlow?_authored d Store.options (Table.keys w.registry)] at ran
  split
  · next found =>
    rw [found] at ran
    exact ran
  · next missing =>
    rw [missing] at ran
    exact ran

end World.Stocks

/-! ## Loading what is in service -/

namespace World.Serves

/-- A flow in service may be registered again. -/
theorem register (serves : w.Serves shelf) (agrees : w.backend.Agrees b) {code : String}
    {flow : Flow} (found : inService? shelf code = some flow) :
    World.Serves shelf { w with backend := b, registry := Table.set w.registry code flow } where
  toStocks := serves.toStocks.of_agrees agrees rfl
  serves other := by
    rw [Table.get?_set]
    split
    · next same => rw [← same, found]
    · exact serves.serves other

/-- The stored definitions, the clock and the registry are all that matters. -/
theorem of_agrees (serves : w.Serves shelf) (agrees : w.backend.Agrees v.backend)
    (clock : v.clock = w.clock) (registry : v.registry = w.registry) : v.Serves shelf where
  toStocks := serves.toStocks.of_agrees agrees clock
  serves := by
    rw [registry]
    exact serves.serves

/-- The flow of an active definition on the shelf is in service. -/
theorem inService?_of_flow? {code : String} {d : Definition} (found : shelf.get? code = some d)
    (isActive : d.isActive = true) {known : Known} {flow : Flow}
    (made : d.flow? Store.options known = some flow) : inService? shelf code = some flow := by
  unfold inService?
  rw [found]
  exact (if_pos isActive).trans (flow?_unknown made)

/-- What is loaded for a definition on the shelf is in service under its code. -/
theorem inService?_of_activeFlow? (stocks : w.Stocks shelf) {code : String} {d : Definition}
    (found : shelf.get? code = some d) {known : List String} {entry : String × Flow}
    (loaded : d.activeFlow? Store.options known = some entry) :
    entry.1 = code ∧ inService? shelf code = some entry.2 := by
  unfold activeFlow? at loaded
  split at loaded
  · next isActive =>
    obtain ⟨flow, made, rfl⟩ := Option.map_eq_some_iff.1 loaded
    exact ⟨(stocks.accepted_of_get? found).2, inService?_of_flow? found isActive made⟩
  · cases loaded

/-- The flow to open with is in service under its code. -/
theorem inService?_of_opener? (stocks : w.Stocks shelf) {known : List String}
    {entry : String × Flow} (opened : opener? shelf known = some entry) :
    inService? shelf entry.1 = some entry.2 := by
  obtain ⟨d, found, code, made⟩ := opener?_eq_some_iff.1 opened
  obtain ⟨_, mem, -, isActive⟩ := flagged?_mem found
  rw [code]
  exact inService?_of_flow? (stocks.get?_of_mem mem) isActive made

/-- The flows in service show what they show without changing the stored definitions. -/
theorem reads (serves : w.Serves shelf) : Registry.Reads w.registry := by
  intro code flow found
  rw [serves.serves] at found
  unfold inService? at found
  split at found
  · split at found
    · exact reads_of_toFlow (flow?_eq_some_iff.1 found).2
    · exact Registry.reads_builtins code flow found
  · exact Registry.reads_builtins code flow found

/-- **The registered codes** are those of the flows in service. -/
theorem mem_keys_iff (serves : w.Serves shelf) (code : String) :
    code ∈ Table.keys w.registry ↔ code ∈ servedCodes shelf := by
  rw [Table.mem_keys_iff, serves.serves]
  unfold inService? servedCodes within
  rw [List.mem_append, ← Registry.keys_builtins, Table.mem_keys_iff]
  constructor
  · rintro ⟨flow, found⟩
    split at found
    · next d onShelf =>
      split at found
      · next isActive =>
        have mem : d ∈ active (shelf.map (·.2)) := List.mem_filter.2
          ⟨List.mem_map_of_mem (Table.mem_of_get? onShelf), isActive⟩
        exact .inr ((serves.accepted_of_get? onShelf).2 ▸ List.mem_map_of_mem mem)
      · exact .inl ⟨flow, found⟩
    · exact .inl ⟨flow, found⟩
  · intro served
    have onShelf (listed : code ∈ (active (shelf.map (·.2))).map Definition.code) :
        ∃ d, shelf.get? code = some d ∧ d.isActive = true := by
      obtain ⟨d, hd, rfl⟩ := List.mem_map.1 listed
      obtain ⟨listed, isActive⟩ := List.mem_filter.1 hd
      obtain ⟨entry, mem, rfl⟩ := List.mem_map.1 listed
      exact ⟨entry.2, serves.get?_of_mem mem, isActive⟩
    split
    · next d found =>
      split
      · exact exists_flow?_of_accepted Store.options
          (check_eq_none_iff.2 (serves.accepted_of_get? found).1)
      · next inactive =>
        refine served.resolve_right fun listed => ?_
        obtain ⟨e, found', isActive⟩ := onShelf listed
        rw [found] at found'
        cases found'
        exact inactive isActive
    · next missing =>
      refine served.resolve_right fun listed => ?_
      obtain ⟨e, found, -⟩ := onShelf listed
      rw [missing] at found
      cases found

theorem opener?_keys (serves : w.Serves shelf) :
    opener? shelf (Table.keys w.registry) = opener? shelf (servedCodes shelf) := by
  unfold opener?
  congr 1
  funext d
  exact activeFlow?_eq_of_mem_iff Store.options serves.mem_keys_iff d

/-- What is loaded at once is in service. -/
theorem inService?_of_flows (stocks : w.Stocks shelf) {known : List String} {n : Nat}
    {code : String} {flow : Flow}
    (found : (flows Store.options known ((shelf.take n).map (·.2))).get? code = some flow) :
    inService? shelf code = some flow := by
  rcases mem_foldl_put (Table.mem_of_get? found) with mem | ⟨d, hd, rfl, made⟩
  · cases mem
  · obtain ⟨listed, isActive⟩ := List.mem_filter.1 hd
    obtain ⟨entry, mem, rfl⟩ := List.mem_map.1 listed
    exact inService?_of_flow? (stocks.get?_of_mem (List.mem_of_mem_take mem)) isActive made

/-- **Loading all keeps a bot serving.** -/
theorem runFrom_loadDynamic (serves : w.Serves shelf) :
    ∃ n v, runFrom w Registry.loadDynamic = (.ok n, v) ∧ v.Serves shelf ∧
      v.opening = w.opening ∧ v.config = w.config := by
  obtain ⟨n, b, agrees, ran⟩ := serves.toStocks.runFrom_loadDynamic
  refine ⟨n, _, ran, ⟨serves.toStocks.of_agrees agrees rfl, fun code => ?_⟩, rfl, rfl⟩
  show (Table.setAll w.registry _).get? code = _
  rw [Table.get?_setAll _ (nodup_keys_flows _ _ _), serves.serves]
  cases found : Table.get? (flows Store.options (Table.keys w.registry)
    ((shelf.take Database.readLimit).map (·.2))) code with
  | none => rfl
  | some flow => exact (inService?_of_flows serves.toStocks found).symm

/-- **Choosing the flow to open with keeps a bot serving.** -/
theorem runFrom_loadOpening (serves : w.Serves shelf) :
    ∃ code v, runFrom w Registry.loadOpening = (.ok code, v) ∧ v.Serves shelf ∧
      v.opening = ((opener? shelf (servedCodes shelf)).map (·.1)).getD w.config.fallbackOpening ∧
      v.config = w.config := by
  obtain ⟨b, agrees, ran⟩ := serves.toStocks.runFrom_loadOpening
  rw [serves.opener?_keys] at ran
  cases opened : opener? shelf (servedCodes shelf) with
  | none =>
    rw [opened] at ran
    exact ⟨_, _, ran, serves.of_agrees agrees rfl rfl, rfl, rfl⟩
  | some entry =>
    rw [opened] at ran
    have registered := serves.register agrees (inService?_of_opener? serves.toStocks opened)
    exact ⟨_, _, ran, registered.of_agrees ⟨rfl, rfl⟩ rfl rfl, rfl, rfl⟩

/-- **Loading a flow again keeps a bot serving.** -/
theorem runFrom_reload (serves : w.Serves shelf) (code : String) :
    ∃ flow? v, runFrom w (Registry.reload code) = (.ok flow?, v) ∧ v.Serves shelf := by
  obtain ⟨b, agrees, ran⟩ := serves.toStocks.runFrom_reload code
  split at ran
  · next name flow loaded =>
    obtain ⟨d, found, loaded⟩ := Option.bind_eq_some_iff.1 loaded
    exact ⟨_, _, ran,
      serves.register agrees (inService?_of_activeFlow? serves.toStocks found loaded).2⟩
  · exact ⟨_, _, ran, serves.of_agrees agrees rfl rfl⟩

end World.Serves

end Dialogue
