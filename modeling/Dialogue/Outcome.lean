/-!
# Outcomes

Where a conversation goes after an answer: on to a step, over to another flow, to a person, or to
its end. Stored definitions write outcomes as texts, in which the reserved words `END` and
`TRANSFER` and the texts that begin with `FLOW:` share one space with the ids of steps.

Main statements: `switchTarget?_mark` and `eq_of_switchTarget?`, a text begins with the mark of a
switch exactly when it is the mark and a target.
-/

namespace Dialogue

/-- Where a conversation goes after an answer. -/
inductive Outcome where
  | next (step : String)
  | switchTo (flow : String)
  | transfer
  | complete
  deriving DecidableEq

namespace Outcome

/-- What the text of a switch begins with. -/
def switchMark : String := "FLOW:"

/-- The text behind the mark of a switch. -/
def switchTarget? (s : String) : Option String :=
  if switchMark.toList.isPrefixOf s.toList then
    some (String.ofList (s.toList.drop switchMark.toList.length))
  else none

/-- The outcome that a text writes; nothing written is the end. -/
def ofText (s : String) : Outcome :=
  if s = "" ∨ s = "END" then .complete
  else if s = "TRANSFER" then .transfer
  else match switchTarget? s with
    | some flow => .switchTo flow
    | none => .next s

/-- The outcome of a text that may be missing. -/
def ofText? : Option String → Outcome
  | some s => ofText s
  | none => .complete

/-- The text of an outcome. -/
def text : Outcome → String
  | .next step => step
  | .switchTo flow => switchMark ++ flow
  | .transfer => "TRANSFER"
  | .complete => "END"

theorem switchTarget?_mark (flow : String) : switchTarget? (switchMark ++ flow) = some flow := by
  simp [switchTarget?]

theorem eq_of_switchTarget? {s flow : String} (h : switchTarget? s = some flow) :
    s = switchMark ++ flow := by
  unfold switchTarget? at h
  split at h
  · rename_i hp
    obtain ⟨rest, hrest⟩ := List.isPrefixOf_iff_prefix.1 hp
    simp only [Option.some.injEq] at h
    rw [← h, ← String.toList_inj, String.toList_append, ← hrest]
    simp
  · simp at h

@[simp] theorem ofText?_none : ofText? none = .complete := rfl

@[simp] theorem ofText_empty : ofText "" = .complete := rfl

end Outcome

end Dialogue
