/-!
# Checked readings

Reading a typed value out of loose data gives the value, or everything that is wrong with the data:
a reading of several parts goes on after a fault and lists the faults of all parts in order. A fault
is located by the path from the whole to the part.

Main statements: `seq_bad_bad`, faults add up; `good_of_seq`, a whole is good when its parts are.
-/

namespace Dialogue

/-- What is wrong with a part of loose data. -/
inductive Flaw where
  | missing
  | unexpected
  | notText
  | notInteger
  | unreadableInteger
  | fractionalInteger
  | hugeInteger
  | infiniteInteger
  | notSwitch
  | unreadableSwitch
  | notChoice
  | notList
  | notTable
  | notRecord
  | notVariant
  | unknownVariant
  | unnamedVariant
  | notStamp
  | unreadableStamp
  | stampOutOfRange
  | refused
  | unreadableJson
  deriving DecidableEq

/-- The name of a flaw in reports. -/
def Flaw.code : Flaw → String
  | .missing => "missing"
  | .unexpected => "extra_forbidden"
  | .notText => "string_type"
  | .notInteger => "int_type"
  | .unreadableInteger => "int_parsing"
  | .fractionalInteger => "int_from_float"
  | .hugeInteger => "int_parsing_size"
  | .infiniteInteger => "finite_number"
  | .notSwitch => "bool_type"
  | .unreadableSwitch => "bool_parsing"
  | .notChoice => "enum"
  | .notList => "list_type"
  | .notTable => "dict_type"
  | .notRecord => "model_type"
  | .notVariant => "model_attributes_type"
  | .unknownVariant => "union_tag_invalid"
  | .unnamedVariant => "union_tag_not_found"
  | .notStamp => "datetime_type"
  | .unreadableStamp => "datetime_from_date_parsing"
  | .stampOutOfRange => "datetime_parsing"
  | .refused => "value_error"
  | .unreadableJson => "json_invalid"

/-- A flaw and the path to it. -/
structure Failure where
  path : List String
  flaw : Flaw
  deriving DecidableEq

namespace Failure

/-- The path with dots, a colon, and the name of the flaw. -/
def text (f : Failure) : String := ".".intercalate f.path ++ ":" ++ f.flaw.code

/-- The same failure seen from one level further up. -/
def under (key : String) (f : Failure) : Failure := { f with path := key :: f.path }

/-- Failures in one line. -/
def summary (failures : List Failure) : String := "; ".intercalate (failures.map text)

end Failure

/-- A value, or what is wrong with the data it was to be read from. -/
inductive Checked (α : Type) where
  | good (value : α)
  | bad (failures : List Failure)

namespace Checked

variable {α β : Type}

/-- A failure at the top. -/
def flawed (flaw : Flaw) : Checked α := .bad [⟨[], flaw⟩]

instance : Functor Checked where
  map f
    | .good a => .good (f a)
    | .bad failures => .bad failures

/-- A function and an argument, each with its own failures. -/
def seqBoth : Checked (α → β) → Checked α → Checked β
  | .good f, .good a => .good (f a)
  | .good _, .bad failures => .bad failures
  | .bad failures, .good _ => .bad failures
  | .bad failures, .bad further => .bad (failures ++ further)

instance : Applicative Checked where
  pure := .good
  seq f x := seqBoth f (x ())

/-- Goes on with a value that was read. -/
def andThen (c : Checked α) (next : α → Checked β) : Checked β :=
  match c with
  | .good a => next a
  | .bad failures => .bad failures

/-- The same reading seen from one level further up. -/
def under (key : String) : Checked α → Checked α
  | .good a => .good a
  | .bad failures => .bad (failures.map (·.under key))

/-- The value, if all is well. -/
def toOption : Checked α → Option α
  | .good a => some a
  | .bad _ => none

/-- Reads the items of a list; `place` is the number of the first. -/
def items {γ : Type} (read : γ → Checked α) : Nat → List γ → Checked (List α)
  | _, [] => .good []
  | place, item :: rest =>
    seqBoth ((· :: ·) <$> (read item).under (toString place)) (items read (place + 1) rest)

theorem seq_bad_bad (failures further : List Failure) :
    (Checked.bad failures : Checked (α → β)) <*> Checked.bad further =
      .bad (failures ++ further) := rfl

theorem good_of_seq {f : Checked (α → β)} {x : Checked α} {b : β} (h : f <*> x = .good b) :
    ∃ g a, f = .good g ∧ x = .good a ∧ g a = b := by
  cases f <;> cases x <;> simp_all [Seq.seq, seqBoth]

theorem good_of_map {f : α → β} {c : Checked α} {b : β} (h : f <$> c = .good b) :
    ∃ a, c = .good a ∧ b = f a := by
  cases c with
  | good a =>
    cases h
    exact ⟨a, rfl, rfl⟩
  | bad failures => cases h

theorem good_of_toOption {c : Checked α} {a : α} (h : c.toOption = some a) : c = .good a := by
  cases c with
  | good b =>
    cases h
    rfl
  | bad failures => cases h

@[simp] theorem under_good (key : String) (a : α) : (Checked.good a).under key = .good a := rfl

end Checked

end Dialogue
