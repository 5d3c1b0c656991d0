import Dialogue.Proofs.Conversation.Alike
import Dialogue.Proofs.Conversation.Routing
import Dialogue.Proofs.Conversation.Telling

/-!
# Stale positions

A position that is past its deadline counts as absent for every message but one: a command to
cancel is looked for before the deadline is, so it cancels a flow that is over already. Where
nothing is stored, the same command opens the menu.

Main statement: `answers_of_stale`, which compares the two runs.
-/

namespace Dialogue

open Effect

/-- A world in which nothing is stored for a customer. -/
def World.cleared (w : World) (customer : String) : World :=
  { w with cache := w.cache.remove (Position.cacheKey customer) }

namespace Conversation

variable {m : Incoming} {w : World}

theorem unset_of_cleared (w : World) (customer : String) (now : Instant) :
    ((w.cleared customer).position customer now).isSet = false := by
  have gone : (w.cleared customer).cache.entries.get? (Position.cacheKey customer) = none :=
    (Table.get?_erase ..).trans (if_pos rfl)
  unfold World.position Cache.text? Cache.read?
  rw [gone]
  rfl

/-- **A stale position counts as absent** for a message that is no command to cancel. -/
theorem agree_respond_of_stale (works : w.cache.Works)
    (blind : w.registry.EveryPrompt Prompt.Blind)
    (set : (w.position m.customer w.now).isSet = true)
    (stale : verdict w (w.position m.customer w.now) = .ok false)
    (answers : m.cancels w.config.cancelCommands = false) :
    Agree World.Alike (respond m) (respond m) w (w.cleared m.customer) := by
  have cleared : (w.cleared m.customer).cache.Works := ⟨works.connected, works.up⟩
  have unset := unset_of_cleared w m.customer (w.cleared m.customer).now
  obtain ⟨b, same, routed⟩ := runFrom_respond works m
  obtain ⟨c, same', routed'⟩ := runFrom_respond cleared m
  obtain ⟨e, removes, removed⟩ := runFrom_current_of_stale (m := m)
    (w := { w with backend := b, cache := w.cache.used }) ⟨works.connected, works.up⟩ set stale
  refine agree_of_runs routed routed' ?_
  unfold proceed
  rw [answers, show m.cancels (w.cleared m.customer).config.cancelCommands = false from answers]
  refine agree_bind_of_ok removed (runFrom_current_of_unset unset _) ?_
  rw [unset]
  refine agree_answerFresh ?_ blind (opensAlike_of_registry rfl)
  exact {
    config := rfl
    clock := rfl
    opening := rfl
    backend := (Backend.alike_refl w.backend).of_database (removes.trans same) same'
    works := ⟨works.connected, works.up⟩
    works' := ⟨works.connected, works.up⟩
    forgets := rfl
    entries := rfl }

/-! ## Commands to cancel -/

/-- **A command to cancel ends a flow**, whether the position still counts or not. -/
theorem runFrom_respond_of_cancel (works : w.cache.Works) (named : m.customer ≠ "")
    (set : (w.position m.customer w.now).isSet = true)
    (cancels : m.cancels w.config.cancelCommands = true) :
    ∃ r w', runFrom w (respond m) = (.ok r, w') ∧ r.status = "cancelled" := by
  obtain ⟨b, -, routed⟩ := runFrom_respond works m
  have works' : Cache.Works { w with backend := b, cache := w.cache.used }.cache :=
    ⟨works.connected, works.up⟩
  obtain ⟨c, removed⟩ := Act.runFrom_forget works' (Position.cacheKey m.customer)
  obtain ⟨message, made⟩ : ∃ message, Turn.cancelled m.address = .ok message := by
    unfold Turn.cancelled Message.ofText Message.make
    rw [if_neg (show m.address.recipient ≠ "" from named)]
    exact ⟨_, rfl⟩
  rw [routed]
  unfold proceed
  rw [cancels]
  show ∃ r w', runFrom _ (cancel m _) = (.ok r, w') ∧ _
  unfold cancel
  rw [set]
  show ∃ r w', runFrom _ (Act.forget _ >>= _) = (.ok r, w') ∧ _
  rw [runFrom_bind_of_ok removed, made]
  exact ⟨_, _, rfl, rfl⟩

/-- Where nothing is stored, a command to cancel opens the menu. -/
theorem status_of_cancel_cleared {r : Response} (works : w.cache.Works)
    (cancels : m.cancels w.config.cancelCommands = true) {v' : World}
    (ran : runFrom (w.cleared m.customer) (respond m) = (.ok r, v')) :
    r.status ∈ ["started", "flow_error"] := by
  have cleared : (w.cleared m.customer).cache.Works := ⟨works.connected, works.up⟩
  obtain ⟨c, -, routed⟩ := runFrom_respond cleared m
  rw [routed] at ran
  unfold proceed cancel at ran
  rw [show m.cancels (w.cleared m.customer).config.cancelCommands = true from cancels, if_pos rfl,
    unset_of_cleared, Bool.not_false, if_pos rfl] at ran
  unfold openMenu at ran
  rw [runFrom_bind_of_ok (runFrom_get _)] at ran
  rcases start_cases ran with started | failed
  · simp [started]
  · simp [failed.1]

/-! ## Messages -/

/-- **A stale position counts as absent, except for commands to cancel.** Whatever flows are
registered, as long as their prompts do not look at what was counted, and whatever the database and
the clock say: when a position is stored that no longer counts, a message that is no command to
cancel is answered as if nothing were stored for its sender, and leaves the same positions. A
command to cancel is acknowledged, though there is nothing left to cancel; where nothing is stored,
it opens the menu. -/
theorem answers_of_stale (works : w.cache.Works) (blind : w.registry.EveryPrompt Prompt.Blind)
    (set : (w.position m.customer w.now).isSet = true)
    (stale : verdict w (w.position m.customer w.now) = .ok false) :
    (m.cancels w.config.cancelCommands = false →
      (runFrom w (process m)).1 = (runFrom (w.cleared m.customer) (process m)).1 ∧
        ∀ customer now, (runFrom w (process m)).2.position customer now =
          (runFrom (w.cleared m.customer) (process m)).2.position customer now) ∧
    (m.cancels w.config.cancelCommands = true → m.customer ≠ "" →
      ∃ r w', runFrom w (process m) = (.ok r, w') ∧ r.status = "cancelled" ∧
        ∀ r' v', runFrom (w.cleared m.customer) (process m) = (.ok r', v') →
          r'.status ∈ ["started", "flow_error"]) := by
  constructor
  · intro answers
    obtain ⟨given, left⟩ :=
      agree_process (agree_respond_of_stale works blind set stale answers)
    exact ⟨given, fun customer now => (left.position customer now).symm⟩
  · intro cancels named
    obtain ⟨r, u, responded, status⟩ := runFrom_respond_of_cancel works named set cancels
    obtain ⟨w', ran⟩ : ∃ w', runFrom w (process m) = (.ok r, w') := by
      unfold process
      rw [runFrom_bind_of_ok responded]
      exact ⟨_, rfl⟩
    refine ⟨r, w', ran, status, fun r' v' ran' => ?_⟩
    obtain ⟨response, v, responded', ran'⟩ := runFrom_bind_eq_ok_iff.1 ran'
    cases ran'
    exact status_of_cancel_cleared works cancels responded'

/-- A position in a flow of half an hour, which began at the first moment of the calendar. -/
def nap : Position := ⟨some "lobby", some "hello", [], some ⟨0, none⟩⟩

/-- A bot that has kept the position for an hour. -/
def dozing : World where
  config := { cancelCommands := ["cancelar"] }
  clock := ⟨60 * Time.minute, none⟩
  opening := "lobby"
  cache := Cache.write {} (Position.cacheKey "549") ⟨.text nap.text, none, 0⟩
  registry := [("lobby", lobby)]

theorem position_dozing (now : Instant) : dozing.position "549" now = nap := by
  have held : dozing.cache =
      Cache.write {} (Position.cacheKey "549") ⟨.text nap.text, none, 0⟩ := rfl
  have civil : ∀ stamp ∈ nap.startedAt, stamp.IsCivil := by
    rintro _ ⟨⟩
    exact ⟨by decide, nofun⟩
  exact Position.position_of_write held rfl civil now

/-- The customer writes the command to cancel. -/
def quit : Incoming := ⟨"549", none, none, "text", some "cancelar", none, []⟩

theorem works_dozing : dozing.cache.Works := ⟨rfl, fun _ => rfl⟩

theorem blind_dozing : dozing.registry.EveryPrompt Prompt.Blind := by
  refine Registry.everyPrompt_of_mem fun entry mem step listed => ?_
  rw [List.mem_singleton.1 mem] at listed
  rw [List.mem_singleton.1 listed]
  trivial

theorem set_dozing : (dozing.position "549" dozing.now).isSet = true := by
  rw [position_dozing]
  rfl

theorem stale_dozing : verdict dozing (dozing.position "549" dozing.now) = .ok false := by
  rw [position_dozing]
  rfl

theorem cancels_quit : quit.cancels dozing.config.cancelCommands = true := by decide +kernel

theorem answers_of_stale_quit :
    dozing.cache.Works ∧ dozing.registry.EveryPrompt Prompt.Blind ∧
      (dozing.position "549" dozing.now).isSet = true ∧
      verdict dozing (dozing.position "549" dozing.now) = .ok false ∧
      (runFrom dozing (process tap)).1 = (runFrom (dozing.cleared "549") (process tap)).1 ∧
      ∃ r w', runFrom dozing (process quit) = (.ok r, w') ∧ r.status = "cancelled" := by
  have answers : tap.cancels dozing.config.cancelCommands = false := rfl
  have named : quit.customer ≠ "" := by decide
  obtain ⟨same, -⟩ := answers_of_stale (m := tap) works_dozing blind_dozing set_dozing stale_dozing
  obtain ⟨-, cancelled⟩ :=
    answers_of_stale (m := quit) works_dozing blind_dozing set_dozing stale_dozing
  obtain ⟨r, w', ran, status, -⟩ := cancelled cancels_quit named
  exact ⟨works_dozing, blind_dozing, set_dozing, stale_dozing, (same answers).1, r, w', ran, status⟩

/-- A command to cancel tells a stale position from none. -/
theorem stale_not_absent_quit :
    dozing.cache.Works ∧ dozing.registry.EveryPrompt Prompt.Blind ∧
      (dozing.position "549" dozing.now).isSet = true ∧
      verdict dozing (dozing.position "549" dozing.now) = .ok false ∧
      ∃ r r' w' v', runFrom dozing (process quit) = (.ok r, w') ∧
        runFrom (dozing.cleared "549") (process quit) = (.ok r', v') ∧ r ≠ r' := by
  have cleared : (dozing.cleared "549").cache.Works := ⟨rfl, fun _ => rfl⟩
  obtain ⟨r, u, responded, status⟩ := runFrom_respond_of_cancel (m := quit) works_dozing
    (show quit.customer ≠ "" by decide) set_dozing cancels_quit
  obtain ⟨r', v, responded'⟩ :
      ∃ r' v, runFrom (dozing.cleared "549") (respond quit) = (.ok r', v) := by
    obtain ⟨b, -, routed⟩ := runFrom_respond cleared quit
    rw [routed]
    unfold proceed cancel
    rw [show quit.cancels (dozing.cleared "549").config.cancelCommands = true from cancels_quit,
      if_pos rfl, show quit.customer = "549" from rfl, unset_of_cleared, Bool.not_false, if_pos rfl]
    exact ⟨_, _, by cbv⟩
  refine ⟨works_dozing, blind_dozing, set_dozing, stale_dozing, r, r', _, _,
    runFrom_bind_of_ok responded, runFrom_bind_of_ok responded', ?_⟩
  rintro rfl
  have status' := status_of_cancel_cleared (m := quit) works_dozing cancels_quit responded'
  rw [status] at status'
  exact absurd status' (by decide)

end Conversation

end Dialogue
