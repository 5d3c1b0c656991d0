import Dialogue.Admin.Routes
import Dialogue.Proofs.Service.Serving

/-!
# Saving definitions

A saved definition is put on the shelf, and its flow is put in service or taken out at once. The
definition was checked against the registered flows, so the flow of an active one is always built. A
bot that serves a shelf serves the shelf with the definition on it afterwards, and the flow that it
opens with is known.

Main statements: `runFrom_storeFlow`, what saving does; `runFrom_saveFlow_of_accepted` and
`runFrom_saveFlow_of_refused`, when it is done.
-/

namespace Dialogue

open Effect Definition

variable {shelf : Table Definition} {w v : World} {d : Definition}

/-! ## The shelf with one more definition -/

theorem inService?_set (shelf : Table Definition) (d : Definition) (code : String) :
    inService? (shelf.set d.code d) code =
      if d.code = code then
        (if d.isActive then d.flow? Store.options none else Registry.builtins.get? code)
      else inService? shelf code := by
  unfold inService?
  rw [Table.get?_set]
  by_cases same : d.code = code
  · rw [if_pos same, if_pos same]
  · rw [if_neg same, if_neg same]

theorem World.Stocks.save (stocks : w.Stocks shelf) {c : Backend}
    (holds : c.Holds (shelf.set d.code d)) (accepted : d.Accepted none) :
    World.Stocks (shelf.set d.code d) { w with backend := c } where
  holds := holds
  civil := stocks.civil
  accepted entry mem := by
    rcases Table.mem_of_mem_set mem with rfl | mem
    · exact accepted
    · exact stocks.accepted entry mem

/-- Registering the flow of a saved definition serves the shelf with the definition on it. -/
theorem World.Serves.putIn (serves : w.Serves shelf) (stocks : v.Stocks (shelf.set d.code d))
    (isActive : d.isActive = true) {flow : Flow} (made : d.flow? Store.options none = some flow)
    (registry : v.registry = Table.set w.registry d.code flow) :
    v.Serves (shelf.set d.code d) where
  toStocks := stocks
  serves code := by
    rw [registry, Table.get?_set, inService?_set, if_pos isActive, made, serves.serves]

/-- Taking the flow of a saved definition out serves the shelf with the definition on it. -/
theorem World.Serves.takeOut (serves : w.Serves shelf) {c : Backend}
    (stocks : World.Stocks (shelf.set d.code d) { w with backend := c })
    (inactive : d.isActive = false) :
    (Registry.without { w with backend := c } d.code).Serves (shelf.set d.code d) where
  toStocks := stocks.of_agrees (Registry.without_backend _ d.code ▸ Lasting.refl _)
    (Registry.without_clock _ d.code)
  serves code := by
    rw [Registry.get?_without, inService?_set, inactive, serves.serves]
    rfl

/-! ## The flow to open with -/

/-- The code to open with once a definition was put in service or taken out: an opening flow that
is gone gives way to the usual one. -/
def keptOpening (d : Definition) (opening fallback : String) : String :=
  if d.isActive = false ∧ Registry.builtins.get? d.code = none ∧ opening = d.code then fallback
  else opening

/-- The code that a bot opens with when it has looked for the flagged definition. -/
def openingOf (shelf : Table Definition) (fallback : String) : String :=
  ((opener? shelf (servedCodes shelf)).map (·.1)).getD fallback

/-- The code to open with after a save: it is looked for again when the definition is flagged or is
the one to open with. -/
def openingAfter (shelf : Table Definition) (d : Definition) (opening fallback : String) : String :=
  if d.isDefault = true ∨ d.code = keptOpening d opening fallback then
    openingOf (shelf.set d.code d) fallback
  else keptOpening d opening fallback

/-! ## Saving -/

/-- What saving a definition does: it was accepted, and a bot serves the shelf with the definition
on it. -/
structure World.Saves (shelf : Table Definition) (w : World) (d : Definition) (v : World) :
    Prop where
  accepted : d.Accepted (some (Table.keys w.registry))
  serves : v.Serves (shelf.set d.code d)
  config : v.config = w.config
  opening : v.opening = openingAfter shelf d w.opening w.config.fallbackOpening

namespace Admin

theorem switches_of_authored {e : Definition} (same : e.authored = d.authored) :
    e.isActive = d.isActive ∧ e.isDefault = d.isDefault := by
  have active_ : e.authored.isActive = d.authored.isActive := congrArg _ same
  have default_ : e.authored.isDefault = d.authored.isDefault := congrArg _ same
  exact ⟨active_, default_⟩

/-- **A definition on the shelf that is active is put in service**, next to any registered flows that
it may switch to. -/
theorem runFrom_putInService_of_active (stocks : w.Stocks shelf)
    (onShelf : shelf.get? d.code = some d) (isActive : d.isActive = true)
    (accepted : d.Accepted (some (Table.keys w.registry))) {e : Definition}
    (same : e.authored = d.authored) :
    ∃ b flow, w.backend.Agrees b ∧ d.flow? Store.options none = some flow ∧
      runFrom w (putInService e d.code) =
        (.ok (true, false),
          { w with backend := b, registry := Table.set w.registry d.code flow }) := by
  obtain ⟨flow, made⟩ := exists_flow?_of_accepted Store.options (check_eq_none_iff.2 accepted)
  have loaded : (shelf.get? d.code).bind
      (fun d => d.activeFlow? Store.options (Table.keys w.registry)) = some (d.code, flow) := by
    rw [onShelf]
    show d.activeFlow? Store.options (Table.keys w.registry) = _
    unfold activeFlow?
    rw [isActive, made]
    rfl
  obtain ⟨b, agrees, ran⟩ := stocks.runFrom_reload d.code
  rw [loaded] at ran
  refine ⟨b, flow, agrees, flow?_unknown made, ?_⟩
  unfold putInService
  rw [(switches_of_authored same).1, isActive, if_pos rfl, runFrom_bind_of_ok ran]
  rfl

/-- **A definition that is not active** is taken out. -/
theorem runFrom_putInService_of_inactive {e : Definition} (inactive : e.isActive = false)
    (code : String) (w : World) :
    runFrom w (putInService e code) =
      (.ok (false, Table.has w.registry code), Registry.without w code) := by
  unfold putInService
  rw [inactive, if_neg (by simp), runFrom_bind_of_ok (Registry.runFrom_deactivate code w)]
  rfl

/-- **Putting a saved definition in service** or taking it out keeps a bot serving. -/
theorem runFrom_putInService (serves : w.Serves shelf) {c : Backend}
    (holds : c.Holds (shelf.set d.code d)) (accepted : d.Accepted (some (Table.keys w.registry)))
    {e : Definition} (same : e.authored = d.authored) :
    ∃ done v, runFrom { w with backend := c } (putInService e d.code) = (.ok done, v) ∧
      v.Serves (shelf.set d.code d) ∧ v.config = w.config ∧
      v.opening = keptOpening d w.opening w.config.fallbackOpening := by
  have stocks := serves.toStocks.save holds accepted.unknown
  cases isActive : d.isActive with
  | true =>
    obtain ⟨b, flow, agrees, made, ran⟩ := runFrom_putInService_of_active stocks
      (Table.get?_set_self ..) isActive accepted same
    refine ⟨_, _, ran, serves.putIn (stocks.of_agrees agrees rfl) isActive made rfl, rfl, ?_⟩
    unfold keptOpening
    rw [isActive]
    rfl
  | false =>
    have inactive : e.isActive = false := (switches_of_authored same).1.trans isActive
    refine ⟨_, _, runFrom_putInService_of_inactive inactive d.code _,
      serves.takeOut stocks isActive, Registry.without_config _ d.code, ?_⟩
    unfold keptOpening Registry.without
    rw [isActive]
    split
    · next builtin => rw [builtin, if_neg (by simp)]
    · next builtin =>
      rw [builtin]
      simp

/-- The answer to a save that was done. -/
def confirmation (stored : Definition) (code : String) (reloaded deactivated : Bool) : Answer :=
  success ("Flow '" ++ code ++ "' saved")
    [("flow", stored.toJson), ("reloaded", .bool reloaded), ("deactivated", .bool deactivated)]

/-- Once a saved definition was put in service or taken out, the flow to open with may be looked for
again, and the save is confirmed. -/
theorem runFrom_storeFlow_of_put {u : World} {code : String} {e : Definition} {c : Backend}
    {done : Bool × Bool} (ran : runFrom w.backend (d.save w.clock) = (.ok e, c))
    (put : runFrom { w with backend := c } (putInService e code) = (.ok done, u)) :
    runFrom w (storeFlow d code) =
      if e.isDefault = true ∨ code = u.opening then
        runFrom u (Registry.loadOpening >>= fun _ => pure (confirmation e code done.1 done.2))
      else (.ok (confirmation e code done.1 done.2), u) := by
  have looked : runFrom w (Act.lookup (d.save w.clock)) = (.ok e, { w with backend := c }) := by
    rw [runFrom_lookup, ran]
  unfold storeFlow
  rw [runFrom_bind_of_ok (runFrom_get w), runFrom_bind_of_ok looked, runFrom_bind_of_ok put]
  dsimp only
  rw [runFrom_bind_of_ok (runFrom_get u)]
  by_cases again : e.isDefault = true ∨ code = u.opening
  · rw [if_pos again, if_pos (by simpa using again)]
    rfl
  · rw [if_neg again, if_neg (by simpa using again)]
    rfl

/-- **Saving** serves the shelf with the definition on it. -/
theorem runFrom_storeFlow (serves : w.Serves shelf)
    (accepted : d.Accepted (some (Table.keys w.registry))) :
    ∃ a v, runFrom w (storeFlow d d.code) = (.ok a, v) ∧ a.status = 200 ∧
      w.Saves shelf d v := by
  obtain ⟨e, c, ran, same, holds⟩ := runFrom_save serves.holds d serves.civil
  obtain ⟨done, v, put, servesAfter, config, opening⟩ :=
    runFrom_putInService serves holds accepted same
  rw [runFrom_storeFlow_of_put ran put, (switches_of_authored same).2, opening]
  split
  · next again =>
    obtain ⟨code, u, ran, servesLast, opens, config'⟩ := servesAfter.runFrom_loadOpening
    rw [runFrom_bind_of_ok ran]
    refine ⟨_, u, rfl, rfl, accepted, servesLast, config'.trans config, ?_⟩
    rw [opens, config, openingAfter, if_pos again]
    rfl
  · next again =>
    refine ⟨_, v, rfl, rfl, accepted, servesAfter, config, ?_⟩
    rw [opening, openingAfter, if_neg again]

/-- A definition without problems next to the registered flows is saved. -/
theorem runFrom_saveFlow_of_accepted (accepted : d.Accepted (some (Table.keys w.registry))) :
    runFrom w (saveFlow d.code d) = runFrom w (storeFlow d d.code) := by
  have checked : d.check (some (Table.keys w.registry ++ [d.code])) = .ok none :=
    check_eq_none_iff.2 (accepted.of_subset fun code mem => .inl (List.mem_append_left _ mem))
  unfold saveFlow
  rw [if_neg (by simp), runFrom_bind_of_ok (Registry.runFrom_codes w)]
  dsimp only
  rw [checked, runFrom_bind_of_ok (show runFrom w (Act.lookup (Lookup.ofExcept (.ok none))) =
    (.ok none, w) from rfl)]

/-- Any other definition is refused, and nothing is changed. -/
theorem runFrom_saveFlow_of_refused {code : String}
    (refused : ¬(d.code = code ∧ d.Accepted (some (Table.keys w.registry)))) :
    ∃ result, runFrom w (saveFlow code d) = (result, w) ∧
      ∀ a, result = .ok a → a.status ≠ 200 := by
  unfold saveFlow
  by_cases same : d.code = code
  · subst same
    rw [if_neg (by simp), runFrom_bind_of_ok (Registry.runFrom_codes w)]
    dsimp only
    cases checked : d.check (some (Table.keys w.registry ++ [d.code])) with
    | error fault =>
      refine ⟨.error fault, runFrom_bind_of_error ?_, nofun⟩
      rw [runFrom_lookup]
      rfl
    | ok found =>
      rw [runFrom_bind_of_ok (show runFrom w (Act.lookup (Lookup.ofExcept (.ok found))) =
        (.ok found, w) from rfl)]
      cases found with
      | some problem =>
        refine ⟨_, rfl, fun a answered => ?_⟩
        cases answered
        exact show (422 : Nat) ≠ 200 by decide
      | none =>
        refine absurd ⟨rfl, ?_⟩ refused
        exact (check_eq_none_iff.1 checked).of_subset fun code mem =>
          (List.mem_append.1 mem).imp_right List.mem_singleton.1
  · rw [if_pos same]
    refine ⟨_, rfl, fun a answered => ?_⟩
    cases answered
    exact show (400 : Nat) ≠ 200 by decide

end Admin

end Dialogue
