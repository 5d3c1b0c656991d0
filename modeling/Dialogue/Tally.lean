import Dialogue.Json.Value

/-!
# The tally

What happened is kept as a list of events, the latest first. Events that are alike are counted
together under their name and their labels when the tally is read.

Main statement: `mem_report`, a report lists events that occurred, with their exact counts.
-/

namespace Dialogue

/-- Something that is worth counting. -/
inductive Event where
  /-- A turn of a flow ended in a status. -/
  | turn (flow status : String)
  /-- A flow or a step that was asked for does not exist. -/
  | misconfigured (reason : String)
  /-- A stored definition was turned into a flow, or not. -/
  | loaded (status : String)
  /-- An incoming message was answered. -/
  | answered (status kind : String)
  /-- A canned reply was sent. -/
  | replied (category : String)
  /-- The cache was used. -/
  | cacheUsed (operation status : String)
  /-- The database was used. -/
  | databaseUsed (operation status : String)
  deriving DecidableEq

namespace Event

/-- The name under which an event is counted. -/
def name : Event → String
  | .turn _ _ => "flow_turns_counter"
  | .misconfigured _ => "flow_config_errors_counter"
  | .loaded _ => "dynamic_flow_loads_counter"
  | .answered _ _ => "message_counter"
  | .replied _ => "auto_responses_counter"
  | .cacheUsed _ _ => "cache_operations"
  | .databaseUsed _ _ => "database_operations_counter"

/-- The labels of an event, by their names. -/
def labels : Event → Table String
  | .turn flow status => [("flow_type", flow), ("status", status)]
  | .misconfigured reason => [("reason", reason)]
  | .loaded status => [("status", status)]
  | .answered status kind => [("message_type", kind), ("status", status)]
  | .replied category => [("category", category)]
  | .cacheUsed operation status => [("operation", operation), ("status", status)]
  | .databaseUsed operation status => [("operation", operation), ("status", status)]

/-- Texts in the order of a dictionary: the first that differ decide. -/
def inOrder : List String → List String → Bool
  | [], _ => true
  | _ :: _, [] => false
  | s :: more, t :: others => s < t || (s = t && inOrder more others)

/-- The order of a report: by name, then by the values of the labels. -/
def comesBefore (a b : Event) : Bool :=
  inOrder (a.name :: a.labels.map (·.2)) (b.name :: b.labels.map (·.2))

end Event

/-- Events, the latest first. -/
abbrev Tally := List Event

namespace Tally

/-- Every kind of event that occurred, with the number of its occurrences, in order. -/
def report (tally : Tally) : List (Event × Nat) :=
  (tally.eraseDups.mergeSort fun a b => a.comesBefore b).map fun e => (e, tally.count e)

theorem mem_report {tally : Tally} {e : Event} {n : Nat} (h : (e, n) ∈ tally.report) :
    e ∈ tally ∧ n = tally.count e := by
  simp only [report, List.mem_map, List.mem_mergeSort, List.mem_eraseDups] at h
  obtain ⟨f, hf, heq⟩ := h
  cases heq
  exact ⟨hf, rfl⟩

end Tally

end Dialogue
