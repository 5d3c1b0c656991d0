import Dialogue.Proofs.Service.Messages
import Dialogue.Proofs.Service.Starting

/-!
# A running bot

A bot *lives* from a start with nothing stored: it is asked to save, show, list and load
definitions, it answers messages, and between that time passes. Nobody else changes the stored
definitions, and the database never fails. At every moment of such a life the bot serves the shelf
of the definitions that were last saved.

Main statements: `World.Lives.serves`, and `registered_of_lives`, which flow is registered under a
code.
-/

namespace Dialogue

open Effect Definition

/-- What passes between two events leaves the stored definitions and the flows in service. The cache
and the stores may change. -/
structure World.Passes (w v : World) : Prop where
  backend : w.backend.Agrees v.backend
  registry : v.registry = w.registry
  opening : v.opening = w.opening
  config : v.config = w.config
  civil : v.clock.IsCivil

/-- The moments of a bot's life, with the shelf of the definitions that were last saved. -/
inductive World.Lives : Table Definition → World → Prop where
  | start {w v : World} {result : Except Fault Unit} (blank : w.IsBlank)
      (ran : runFrom w (Startup.loadFlows true) = (result, v)) : World.Lives [] v
  | pass {shelf : Table Definition} {w v : World} (lives : World.Lives shelf w)
      (passes : w.Passes v) : World.Lives shelf v
  | request {shelf : Table Definition} {w v : World} {r : Admin.Request}
      {answer : Except Fault Admin.Answer} (lives : World.Lives shelf w)
      (ran : runFrom w (Admin.handle r) = (answer, v)) : World.Lives (r.shelve answer shelf) v
  | message {shelf : Table Definition} {w v : World} {m : Incoming}
      {result : Except Fault Response} (lives : World.Lives shelf w)
      (ran : runFrom w (Conversation.process m) = (result, v)) : World.Lives shelf v

variable {shelf : Table Definition} {w v : World}

theorem World.Serves.pass (serves : w.Serves shelf) (passes : w.Passes v) : v.Serves shelf where
  holds := serves.holds.of_agrees passes.backend
  civil := passes.civil
  accepted := serves.accepted
  serves := by
    rw [passes.registry]
    exact serves.serves

/-- **A bot that lives serves** the definitions that were last saved. -/
theorem World.Lives.serves (lives : w.Lives shelf) : w.Serves shelf := by
  induction lives with
  | start blank ran =>
    obtain ⟨v, started, serves, -⟩ := blank.runFrom_loadFlows
    rw [ran] at started
    cases started
    exact serves
  | pass _ passes ih => exact ih.pass passes
  | request _ ran ih => exact Admin.serves_handle ih ran
  | message _ ran ih => exact Conversation.maintains_process _ ran ih

/-- **The registered flows mirror the saved definitions.** At every moment of a bot's life, the flow
under a code is the one that is built from the definition that was last saved under it, if that is
active; and otherwise it is the built-in flow of the code, or there is none. -/
theorem registered_of_lives (lives : w.Lives shelf) (code : String) :
    (∀ d, shelf.get? code = some d → d.isActive = true →
      ∃ flow, d.toFlow? Store.options none = .ok (some flow) ∧
        Table.get? w.registry code = some flow) ∧
    ((∀ d, shelf.get? code = some d → d.isActive = false) →
      Table.get? w.registry code =
        Table.get? (Catalogue.builtins Store.directory) code) := by
  have serves := lives.serves
  constructor
  · intro d found isActive
    obtain ⟨flow, made⟩ := exists_flow?_of_accepted Store.options
      (check_eq_none_iff.2 (serves.accepted_of_get? found).1)
    refine ⟨flow, toFlow?_of_flow? made, ?_⟩
    rw [serves.serves, inService?, found]
    exact (if_pos isActive).trans made
  · intro inactive
    rw [serves.serves, inService?]
    split
    · next d found =>
      rw [inactive d found]
      rfl
    · rfl

/-! ## A life -/

/-- A definition of one step that says something. -/
def offers : Definition := plain "offers" [Step.plain "hello" "Our offers"]

/-- A step that leads to the flow of another definition. -/
def question : Definition.Step :=
  { Step.plain "ask" "What is it?" with defaultNext := some "FLOW:offers" }

/-- A definition to open with, which leads to the flow of another one. -/
def hub : Definition := { plain "hub" [question] with isDefault := true }

/-- The definition passes the check exactly next to the one it leads to. -/
theorem check_hub {codes : List String} :
    hub.check (some codes) = .ok none ↔ "offers" ∈ codes := by
  constructor
  · intro passes
    have leads := ((check_eq_none_iff.1 passes).fit _ (List.mem_singleton_self _)).fallback
    have own : "offers" ≠ hub.code := show "offers" ≠ "hub" by decide
    exact (leads.2 codes rfl).resolve_right own
  · intro known
    have alone : hub.check (some ["offers"]) = .ok none := by cbv
    refine check_eq_none_iff.2 ((check_eq_none_iff.1 alone).of_subset fun code mem => .inl ?_)
    rw [List.mem_singleton.1 mem]
    exact known

/-- A definition that is no longer in use. -/
def retired : Definition := { offers with isActive := false }

theorem World.Lives.put (lives : w.Lives shelf) (d : Definition)
    (path : Admin.resource? (Admin.pathParts (Admin.Request.put d).path) = some (.flow d.code))
    (passes : d.check (some (servedCodes shelf)) = .ok none) :
    ∃ v, World.Lives (shelf.set d.code d.authored) v := by
  obtain ⟨a, v, ran, saved, -⟩ := Admin.runFrom_handle_put lives.serves path passes
  have lives' := lives.request ran
  unfold Admin.Request.shelve at lives'
  rw [saved] at lives'
  exact ⟨v, lives'⟩

/-- A bot on which nothing is stored. -/
def newborn : World where
  config := { cancelCommands := [] }
  clock := ⟨0, none⟩
  opening := "main_menu"

theorem isBlank_newborn : newborn.IsBlank :=
  ⟨rfl, rfl, fun _ => rfl, ⟨by decide, fun _ given => (Option.not_mem_none _ given).elim⟩⟩

set_option maxRecDepth 20000 in
theorem registered_of_lives_hub :
    ∃ w : World, w.Lives [("offers", retired), ("hub", hub)] ∧
      (∃ flow, hub.toFlow? Store.options none = .ok (some flow) ∧
        Table.get? w.registry "hub" = some flow) ∧
      Table.get? w.registry "offers" = none := by
  obtain ⟨u, v, ran⟩ : ∃ u, ∃ v, runFrom newborn (Startup.loadFlows true) = (u, v) := ⟨_, _, rfl⟩
  obtain ⟨v, lives⟩ := (World.Lives.start isBlank_newborn ran).put offers (by cbv) (by cbv)
  obtain ⟨v, lives⟩ := lives.put hub (by cbv) (by cbv)
  obtain ⟨v, lives⟩ := lives.put retired (by cbv) (by cbv)
  exact ⟨v, lives, (registered_of_lives lives "hub").1 hub rfl rfl,
    (registered_of_lives lives "offers").2 fun d found => by
      cases found
      rfl⟩

end Dialogue
