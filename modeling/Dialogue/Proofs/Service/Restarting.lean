import Dialogue.Proofs.Service.Running

/-!
# Starting again

A bot on which definitions were saved one after another is compared with a bot that starts on its
database. A saved definition was checked next to the flows that were in service then, and a start
checks it next to the built-in flows and the definitions that are active now. So the new bot has the
flows of the old one, apart from those that lead to a flow which has been taken out since.

The two bots open with the same flow when no definition is flagged for it. They also do when the
first flagged definition passes the check at the start, and was found and passed it when the old bot
last looked for one.

Main statements: `get?_restored` and `get?_restored_of_refused`, the flows after a start;
`World.Edited.opens`, the flow that the old bot opens with; and `restores_of_edited`.
-/

namespace Dialogue

open Effect Definition

variable {shelf looked : Table Definition} {w u v : World} {d : Definition} {code : String}
variable {known : List String} {flow : Flow}

/-! ## What is read at once -/

theorem atOnce_sublist (shelf : Table Definition) :
    List.Sublist (atOnce shelf) (shelf.map (·.2)) :=
  (List.take_sublist _ _).map _

/-- A start may switch to no more codes than those of the flows in service. -/
theorem mem_servedCodes_of_within
    (mem : code ∈ within Catalogue.codes (atOnce shelf)) :
    code ∈ servedCodes shelf := by
  have fewer := ((atOnce_sublist shelf).filter (·.isActive)).map Definition.code
  exact (List.mem_append.1 mem).elim (List.mem_append_left _)
    fun listed => List.mem_append_right _ (fewer.subset listed)

namespace World.Stocks

theorem get?_of_mem_atOnce (stocks : w.Stocks shelf) (mem : d ∈ atOnce shelf) :
    shelf.get? d.code = some d := by
  obtain ⟨entry, first, rfl⟩ := List.mem_map.1 mem
  exact stocks.get?_of_mem (List.mem_of_mem_take first)

theorem nodup_codes_atOnce (stocks : w.Stocks shelf) :
    ((active (atOnce shelf)).map Definition.code).Nodup := by
  have codes : (shelf.map (·.2)).map Definition.code = shelf.keys := by
    rw [List.map_map]
    exact List.map_congr_left stocks.holds.codes
  have fewer : List.Sublist (active (atOnce shelf)) (shelf.map (·.2)) :=
    List.filter_sublist.trans (atOnce_sublist shelf)
  have distinct := stocks.holds.distinct
  rw [← codes] at distinct
  exact distinct.sublist (fewer.map Definition.code)

/-! ## The flows after a start -/

/-- **A flow is in service again** when its definition is read at once and passes the check next to
the built-in flows and the active definitions. -/
theorem get?_restored (stocks : w.Stocks shelf)
    (passes : ∀ d, shelf.get? code = some d → d.isActive = true → d ∈ atOnce shelf ∧
      d.check (some (within Catalogue.codes (atOnce shelf))) = .ok none) :
    Table.get? (restored shelf) code = inService? shelf code := by
  have again : Table.get? (reloaded shelf) code = inService? shelf code := by
    rw [reloaded, Registry.get?_loaded]
    cases loaded : (flows Store.options Catalogue.codes (atOnce shelf)).get? code with
    | some flow => exact (World.Serves.inService?_of_flows stocks loaded).symm
    | none =>
      unfold inService?
      split
      · next d found =>
        split
        · next isActive =>
          obtain ⟨mem, passes⟩ := passes d found isActive
          obtain ⟨flow, made⟩ := exists_flow?_of_accepted Store.options passes
          have present := (get?_flows_iff Store.options _ stocks.nodup_codes_atOnce).2
            ⟨d, List.mem_filter.2 ⟨mem, isActive⟩, rfl, made⟩
          rw [(stocks.accepted_of_get? found).2, loaded] at present
          cases present
        · rfl
      · rfl
  unfold restored
  split
  · next name flow opened =>
    rw [Table.get?_set]
    split
    · next same =>
      rw [← same]
      exact (World.Serves.inService?_of_opener? stocks opened).symm
    · exact again
  · exact again

/-- **A flow is not in service again** when its definition does not pass the check next to the flows
that are in service. -/
theorem get?_restored_of_refused (stocks : w.Stocks shelf) (found : shelf.get? code = some d)
    (refused : d.check (some (servedCodes shelf)) ≠ .ok none) :
    Table.get? (restored shelf) code = Table.get? Registry.builtins code := by
  have astray {codes : List String} {flow : Flow}
      (made : d.flow? Store.options (some codes) = some flow)
      (fewer : ∀ other ∈ codes, other ∈ servedCodes shelf) : False :=
    refused (check_eq_none_iff.2 ((accepted_of_flow? made).of_subset fun other mem =>
      .inl (fewer other mem)))
  have missing : Table.get? (reloaded shelf) code = Table.get? Registry.builtins code := by
    rw [reloaded, Registry.get?_loaded]
    cases loaded : (flows Store.options Catalogue.codes (atOnce shelf)).get? code with
    | none => rfl
    | some flow =>
      obtain ⟨e, he, rfl, made⟩ :=
        (get?_flows_iff Store.options _ stocks.nodup_codes_atOnce).1 loaded
      have same := stocks.get?_of_mem_atOnce (List.mem_filter.1 he).1
      rw [found] at same
      cases same
      exact (astray made fun _ => mem_servedCodes_of_within).elim
  unfold restored
  split
  · next name flow opened =>
    rw [Table.get?_set, missing]
    refine if_neg fun same => ?_
    obtain ⟨e, first, rfl, made⟩ := opener?_eq_some_iff.1 opened
    obtain ⟨_, mem, -⟩ := flagged?_mem first
    have onShelf := stocks.get?_of_mem mem
    rw [show e.code = code from same, found] at onShelf
    cases onShelf
    exact astray made fun _ mem => mem_servedCodes_of_within
      (Registry.within_of_mem_keys_loaded stocks.nodup_codes_atOnce mem)
  · exact missing

/-! ## The flow to open with after a start -/

/-- The flagged definition is opened with when it passes the check next to the flows of the
start. -/
theorem restoredOpener?_of_passes (first : flagged? shelf = some d)
    (passes : d.check (some (Table.keys (restored shelf))) = .ok none) :
    ∃ flow, restoredOpener? shelf = some (d.code, flow) := by
  have accepted : d.Accepted (some (Table.keys (reloaded shelf))) := by
    refine (check_eq_none_iff.1 passes).of_subset fun code mem => ?_
    obtain ⟨flow, found⟩ := Table.mem_keys_iff.1 mem
    unfold restored at found
    split at found
    · next name other opened =>
      obtain ⟨e, again, same, -⟩ := opener?_eq_some_iff.1 opened
      rw [first] at again
      cases again
      rw [Table.get?_set] at found
      split at found
      · next here => exact .inr (here.symm.trans same)
      · exact .inl (Table.mem_keys_iff.2 ⟨flow, found⟩)
    · exact .inl (Table.mem_keys_iff.2 ⟨flow, found⟩)
  obtain ⟨flow, made⟩ := exists_flow?_of_accepted Store.options (check_eq_none_iff.2 accepted)
  exact ⟨flow, opener?_eq_some_iff.2 ⟨d, first, rfl, made⟩⟩

end World.Stocks

/-! ## A bot that was edited -/

/-- The moments of a bot that was started with nothing stored and then asked to save definitions
alone, with the shelf of those that were last saved, and that shelf as it stood when the bot last
looked for the flow to open with. -/
inductive World.Edited : Table Definition → Table Definition → World → Prop where
  | start {w v : World} {result : Except Fault Unit} (blank : w.IsBlank)
      (ran : runFrom w (Startup.loadFlows true) = (result, v)) : World.Edited [] [] v
  | pass {shelf looked : Table Definition} {w v : World} (edited : World.Edited shelf looked w)
      (passes : w.Passes v) : World.Edited shelf looked v
  | save {shelf looked : Table Definition} {w v : World} {r : Admin.Request}
      {answer : Except Fault Admin.Answer} {d : Definition} (edited : World.Edited shelf looked w)
      (ran : runFrom w (Admin.handle r) = (answer, v))
      (saved : r.saved? answer = some (d.code, d)) :
      World.Edited (shelf.set d.code d)
        (if d.isDefault = true ∨ d.code = keptOpening d w.opening w.config.fallbackOpening then
          shelf.set d.code d else looked) v

theorem World.Edited.lives (edited : w.Edited shelf looked) : w.Lives shelf := by
  induction edited with
  | start blank ran => exact .start blank ran
  | pass _ passes ih => exact ih.pass passes
  | save _ ran saved ih =>
    have lives := ih.request ran
    unfold Admin.Request.shelve at lives
    rw [saved] at lives
    exact lives

/-- What is known of the flow that an edited bot opens with. It is the usual one or that of a
flagged definition, and it is that of the definition that was found when the bot last looked, as
long as this is on the shelf. -/
structure World.Opens (shelf looked : Table Definition) (w : World) : Prop where
  flagged : w.opening = w.config.fallbackOpening ∨ ∃ d, shelf.get? d.code = some d ∧
    d.isDefault = true ∧ d.isActive = true ∧ w.opening = d.code
  found : ∀ d, flagged? looked = some d → d.check (some (servedCodes looked)) = .ok none →
    shelf.get? d.code = some d → w.opening = d.code

theorem openingOf_of_passes (first : flagged? shelf = some d) (fallback : String)
    (passes : d.check (some (servedCodes shelf)) = .ok none) :
    openingOf shelf fallback = d.code := by
  obtain ⟨flow, made⟩ := exists_flow?_of_accepted Store.options passes
  have opened : opener? shelf (servedCodes shelf) = some (d.code, flow) :=
    opener?_eq_some_iff.2 ⟨d, first, rfl, made⟩
  unfold openingOf
  rw [opened]
  rfl

theorem openingOf_of_refused (first : flagged? shelf = some d) (fallback : String)
    (refused : d.check (some (servedCodes shelf)) ≠ .ok none) :
    openingOf shelf fallback = fallback := by
  have none_ : opener? shelf (servedCodes shelf) = none := by
    rw [Option.eq_none_iff_forall_ne_some]
    intro entry opened
    obtain ⟨e, again, -, made⟩ := opener?_eq_some_iff.1 opened
    rw [first] at again
    cases again
    exact refused (check_eq_none_iff.2 (accepted_of_flow? made))
  unfold openingOf
  rw [none_]
  rfl

/-- A bot that looks for the flow to open with. -/
theorem World.Serves.opens (serves : w.Serves shelf)
    (looks : w.opening = openingOf shelf w.config.fallbackOpening) : w.Opens shelf shelf where
  flagged := by
    rw [looks]
    unfold openingOf
    cases opened : opener? shelf (servedCodes shelf) with
    | none => exact .inl rfl
    | some entry =>
      obtain ⟨d, first, code, -⟩ := opener?_eq_some_iff.1 opened
      obtain ⟨_, mem, isDefault, isActive⟩ := flagged?_mem first
      exact .inr ⟨d, serves.get?_of_mem mem, isDefault, isActive, code⟩
  found d first passes _ := looks.trans (openingOf_of_passes first _ passes)

/-- A save after which the bot does not look again. -/
theorem World.Opens.save (opens : w.Opens shelf looked) (config : v.config = w.config)
    (plain : d.isDefault = false)
    (other : d.code ≠ keptOpening d w.opening w.config.fallbackOpening)
    (keeps : v.opening = keptOpening d w.opening w.config.fallbackOpening) :
    v.Opens (shelf.set d.code d) looked where
  flagged := by
    rw [keeps, config]
    unfold keptOpening at other ⊢
    split
    · exact .inl rfl
    · next stays =>
      rw [if_neg stays] at other
      refine opens.flagged.imp_right fun ⟨e, found, isDefault, isActive, opening⟩ => ?_
      rw [opening] at other
      exact ⟨e, (Table.get?_set_of_ne _ _ other).trans found, isDefault, isActive, opening⟩
  found e first passes onShelf := by
    have apart : d.code ≠ e.code := by
      intro same
      rw [← same, Table.get?_set_self] at onShelf
      cases onShelf
      obtain ⟨_, _, isDefault, _⟩ := flagged?_mem first
      rw [plain] at isDefault
      cases isDefault
    rw [Table.get?_set_of_ne _ _ apart] at onShelf
    have opening := opens.found e first passes onShelf
    rw [keeps, keptOpening, if_neg fun gone => apart (gone.2.2.symm.trans opening), opening]

/-- **The flow that an edited bot opens with.** -/
theorem World.Edited.opens (edited : w.Edited shelf looked) : w.Opens shelf looked := by
  induction edited with
  | start blank ran =>
    obtain ⟨v, started, serves, config, opening⟩ := blank.runFrom_loadFlows
    rw [ran] at started
    cases started
    refine serves.opens ?_
    rw [opening, config]
    rfl
  | pass _ passes ih =>
    exact {
      flagged := by
        rw [passes.opening, passes.config]
        exact ih.flagged
      found := by
        rw [passes.opening]
        exact ih.found }
  | save edited ran saved ih =>
    obtain ⟨-, saves⟩ := Admin.saves_of_saved? edited.lives.serves ran saved
    have opening := saves.opening
    unfold openingAfter at opening
    split
    · next looks =>
      rw [if_pos looks, ← saves.config] at opening
      exact saves.serves.opens opening
    · next stays =>
      rw [if_neg stays] at opening
      rw [not_or, Bool.not_eq_true] at stays
      exact ih.save saves.config stays.1 stays.2 opening

/-- A bot that starts on the database of another one. -/
structure World.Reopens (w u : World) : Prop where
  registry : u.registry = []
  backend : w.backend.Agrees u.backend
  config : u.config = w.config
  civil : u.clock.IsCivil

theorem World.Reopens.stocks (reopens : w.Reopens u) (serves : w.Serves shelf) :
    u.Stocks shelf where
  holds := serves.holds.of_agrees reopens.backend
  civil := reopens.civil
  accepted := serves.accepted

/-- **A start restores an edited bot** as far as the saved definitions pass the check next to one
another. A definition that is not active, or is read at once and passes the check next to the
built-in flows and the active definitions, has the same flow as before; an active one that does not
pass it next to any of these has none but the built-in one. The bots open with the same flow if none
is flagged, and if the first flagged definition was found and passed the check when the old bot last
looked for one, and passes it at the start. -/
theorem restores_of_edited (edited : w.Edited shelf looked) (reopens : w.Reopens u) :
    ∃ v, runFrom u (Startup.loadFlows true) = (.ok (), v) ∧
      (∀ code, (∀ d, shelf.get? code = some d → d.isActive = true → d ∈ atOnce shelf ∧
          d.check (some (within Catalogue.codes (atOnce shelf))) = .ok none) →
        Table.get? v.registry code = Table.get? w.registry code) ∧
      (∀ code d, shelf.get? code = some d →
        d.check (some (servedCodes shelf)) ≠ .ok none →
        Table.get? v.registry code = Table.get? (Catalogue.builtins Store.directory) code) ∧
      (flagged? shelf = none → v.opening = w.opening) ∧
      (∀ d, flagged? shelf = some d → flagged? looked = some d →
        d.check (some (servedCodes looked)) = .ok none →
        d.check (some (Table.keys v.registry)) = .ok none → v.opening = w.opening) := by
  have serves := edited.lives.serves
  have opens := edited.opens
  have stocks := reopens.stocks serves
  obtain ⟨b, agrees, ran⟩ := stocks.runFrom_loadFlows reopens.registry
  refine ⟨_, ran, fun code passes => ?_, fun code d found refused => ?_, fun none_ => ?_,
    fun d first before then_ now => ?_⟩
  · rw [serves.serves]
    exact stocks.get?_restored passes
  · exact stocks.get?_restored_of_refused found refused
  · have usual : w.opening = w.config.fallbackOpening := by
      refine opens.flagged.resolve_right fun ⟨d, found, isDefault, isActive, _⟩ => ?_
      rw [not_flagged_of_none none_ (Table.mem_of_get? found) isDefault] at isActive
      cases isActive
    rw [usual, ← reopens.config, restoredOpener?, opener?_of_none none_]
    rfl
  · obtain ⟨_, mem, -⟩ := flagged?_mem first
    obtain ⟨flow, opened⟩ := World.Stocks.restoredOpener?_of_passes first now
    rw [opened]
    exact (opens.found d before then_ (serves.get?_of_mem mem)).symm

/-! ## Two starts -/

theorem World.Edited.put (edited : w.Edited shelf looked) (d : Definition)
    (bare : d.authored = d)
    (path : Admin.resource? (Admin.pathParts (Admin.Request.put d).path) = some (.flow d.code))
    (passes : d.check (some (servedCodes shelf)) = .ok none) :
    ∃ v, World.Edited (shelf.set d.code d)
        (if d.isDefault = true ∨ d.code = keptOpening d w.opening w.config.fallbackOpening then
          shelf.set d.code d else looked) v ∧ v.config = w.config ∧
      v.opening = openingAfter shelf d w.opening w.config.fallbackOpening := by
  obtain ⟨a, v, ran, saved, saves⟩ := Admin.runFrom_handle_put edited.lives.serves path passes
  rw [bare] at saved saves
  exact ⟨v, edited.save ran saved, saves.config, saves.opening⟩

theorem World.Lives.reopens (lives : w.Lives shelf) : w.Reopens { w with registry := [] } :=
  ⟨rfl, Lasting.refl _, rfl, lives.serves.civil⟩

/-- A bot whose shelf holds a definition to open with and the one it leads to. -/
theorem exists_edited_hub :
    ∃ w : World, w.Edited [("offers", offers), ("hub", hub)] [("offers", offers), ("hub", hub)] ∧
      w.config = newborn.config := by
  obtain ⟨w, ran, -, config, -⟩ := isBlank_newborn.runFrom_loadFlows
  obtain ⟨w, edited, config', -⟩ :=
    (World.Edited.start isBlank_newborn ran).put offers rfl (by cbv) (by cbv)
  obtain ⟨w, edited, config'', -⟩ := edited.put hub rfl (by cbv) (by cbv)
  rw [if_pos (.inl rfl)] at edited
  exact ⟨w, edited, config''.trans (config'.trans config)⟩

theorem restores_of_edited_hub :
    ∃ w v : World, w.Edited [("offers", offers), ("hub", hub)] [("offers", offers), ("hub", hub)] ∧
      w.Reopens { w with registry := [] } ∧
      runFrom { w with registry := [] } (Startup.loadFlows true) = (.ok (), v) ∧
      Table.get? v.registry "hub" = Table.get? w.registry "hub" ∧ v.opening = w.opening := by
  obtain ⟨w, edited, -⟩ := exists_edited_hub
  obtain ⟨v, ran, same, -, -, opens⟩ := restores_of_edited edited edited.lives.reopens
  have offered : Table.get? v.registry "offers" = Table.get? w.registry "offers" :=
    same "offers" fun d found _ => by
      cases found
      exact ⟨by simp [atOnce, Database.readLimit], by cbv⟩
  have led : Table.get? v.registry "hub" = Table.get? w.registry "hub" :=
    same "hub" fun d found _ => by
      cases found
      exact ⟨by simp [atOnce, Database.readLimit], by cbv⟩
  refine ⟨w, v, edited, edited.lives.reopens, ran, led,
    opens hub rfl rfl (by cbv) (check_hub.2 ?_)⟩
  rw [Table.mem_keys_iff, offered, edited.lives.serves.serves]
  exact exists_flow?_of_accepted Store.options (by cbv : offers.check none = .ok none)

/-- A definition that leads to a flow which was taken out of service has no flow after a start. -/
theorem start_forgets_hub :
    ∃ w v : World, ∃ looked, w.Edited [("offers", retired), ("hub", hub)] looked ∧
      runFrom { w with registry := [] } (Startup.loadFlows true) = (.ok (), v) ∧
      (∃ flow, Table.get? w.registry "hub" = some flow) ∧ Table.get? v.registry "hub" = none := by
  obtain ⟨w, edited, -⟩ := exists_edited_hub
  obtain ⟨w, edited, -⟩ := edited.put retired rfl (by cbv) (by cbv)
  have serves : w.Serves [("offers", retired), ("hub", hub)] := edited.lives.serves
  have stocks := edited.lives.reopens.stocks serves
  obtain ⟨b, -, ran⟩ := stocks.runFrom_loadFlows rfl
  refine ⟨w, _, _, edited, ran, ?_, ?_⟩
  · rw [serves.serves]
    exact exists_flow?_of_accepted Store.options (by cbv : hub.check none = .ok none)
  · exact stocks.get?_restored_of_refused (show Table.get? _ "hub" = some hub from rfl)
      (mt check_hub.1 (by decide))

/-- Another definition to open with. -/
def desk : Definition := { plain "desk" [Step.plain "hello" "Hello"] with isDefault := true }

/-- A start looks for the flow to open with again, when the flow that it leads to is back. -/
theorem start_reopens_hub :
    ∃ w v : World, ∃ looked,
      w.Edited [("offers", offers), ("hub", hub), ("desk", desk)] looked ∧
      runFrom { w with registry := [] } (Startup.loadFlows true) = (.ok (), v) ∧
      w.opening = "main_menu" ∧ v.opening = "hub" := by
  obtain ⟨w, edited, config⟩ := exists_edited_hub
  obtain ⟨w, edited, retiredConfig, -⟩ := edited.put retired rfl (by cbv) (by cbv)
  obtain ⟨w, edited, deskConfig, looks⟩ := edited.put desk rfl (by cbv) (by cbv)
  have fallback : w.config.fallbackOpening = "main_menu" := by
    rw [deskConfig, retiredConfig, config]
    rfl
  have usual : w.opening = "main_menu" := by
    rw [looks, openingAfter, if_pos (.inl rfl),
      openingOf_of_refused (show flagged? _ = some hub from rfl) _ (mt check_hub.1 (by decide)),
      ← deskConfig, fallback]
  obtain ⟨w, edited, -, keeps⟩ := edited.put offers rfl (by cbv) (by cbv)
  have kept : keptOpening offers "main_menu" "main_menu" = "main_menu" :=
    if_neg fun gone => Bool.noConfusion gone.1
  rw [usual, fallback, openingAfter, if_neg (by rw [kept]; decide), kept] at keeps
  have serves : w.Serves [("offers", offers), ("hub", hub), ("desk", desk)] := edited.lives.serves
  have stocks := edited.lives.reopens.stocks serves
  obtain ⟨b, -, ran⟩ := stocks.runFrom_loadFlows rfl
  have offered : "offers" ∈
      Table.keys (restored [("offers", offers), ("hub", hub), ("desk", desk)]) := by
    rw [Table.mem_keys_iff, stocks.get?_restored fun d found _ => by
      cases found
      exact ⟨by simp [atOnce, Database.readLimit], by cbv⟩]
    exact exists_flow?_of_accepted Store.options (by cbv : offers.check none = .ok none)
  obtain ⟨flow, opened⟩ := World.Stocks.restoredOpener?_of_passes
    (show flagged? _ = some hub from rfl) (check_hub.2 offered)
  refine ⟨w, _, _, edited, ran, keeps, ?_⟩
  rw [opened]
  rfl

/-- A start need not restore a bot that was edited: neither its flows nor the flow to open with. -/
theorem restart_differs_hub :
    (∃ w v : World, ∃ shelf looked, w.Edited shelf looked ∧
      runFrom { w with registry := [] } (Startup.loadFlows true) = (.ok (), v) ∧
      Table.get? v.registry "hub" ≠ Table.get? w.registry "hub") ∧
    ∃ w v : World, ∃ shelf looked, w.Edited shelf looked ∧
      runFrom { w with registry := [] } (Startup.loadFlows true) = (.ok (), v) ∧
      v.opening ≠ w.opening := by
  constructor
  · obtain ⟨w, v, looked, edited, ran, ⟨flow, before⟩, after⟩ := start_forgets_hub
    exact ⟨w, v, _, looked, edited, ran, by rw [before, after]; exact nofun⟩
  · obtain ⟨w, v, looked, edited, ran, before, after⟩ := start_reopens_hub
    exact ⟨w, v, _, looked, edited, ran, by rw [before, after]; decide⟩

end Dialogue
