import Dialogue.Checked.Scalar

/-!
# Reading records

A record is read field by field. A field may be written under several names; the first of its names
that is present counts, and failures are located by the first name.
-/

namespace Dialogue.Checked

variable {α : Type}

/-- The value written under the first of several names that is present. -/
def find? (fields : Fields) (names : List String) : Option Json := names.findSome? fields.get?

/-- A field that must be there. -/
def required (fields : Fields) (names : List String) (read : Json → Checked α) : Checked α :=
  (match find? fields names with
    | some value => read value
    | none => flawed .missing).under (names.headD "")

/-- A field with a value for when it is left out. -/
def defaulted (fields : Fields) (names : List String) (fallback : α) (read : Json → Checked α) :
    Checked α :=
  match find? fields names with
  | some value => (read value).under (names.headD "")
  | none => .good fallback

/-- A value or null. -/
def orNull (read : Json → Checked α) : Json → Checked (Option α)
  | .null => .good none
  | value => some <$> read value

/-- A field that may be null or left out. -/
def maybe (fields : Fields) (names : List String) (read : Json → Checked α) :
    Checked (Option α) :=
  defaulted fields names none (orNull read)

/-- A list of values. -/
def asList (read : Json → Checked α) : Json → Checked (List α)
  | .arr values => items read 0 values
  | _ => flawed .notList

/-- The fields of a table with free keys. -/
def asTable : Json → Checked Fields
  | .obj fields => .good fields
  | _ => flawed .notTable

/-- A record, read from its fields. -/
def asRecord (read : Fields → Checked α) : Json → Checked α
  | .obj fields => read fields
  | _ => flawed .notRecord

end Dialogue.Checked
