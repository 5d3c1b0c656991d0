import Dialogue.Checked.Basic
import Dialogue.Json.Value
import Dialogue.Regex.Fault

/-!
# Faults

What can stop the work on a request: data of the wrong shape, a pattern that is no regular
expression, a flow that does not hang together, a database that is down, or a time beyond the
calendar. Each fault is a cause, and `Fault.message` words it.
-/

namespace Dialogue

/-- The name of a value's kind in reports. -/
def Json.kindName : Json → String
  | .null => "NoneType"
  | .bool _ => "bool"
  | .int _ => "int"
  | .float _ => "float"
  | .str _ => "str"
  | .arr _ => "list"
  | .obj _ => "dict"

/-- How a value was used that does not allow it. -/
inductive Misuse where
  | walked
  | cut
  | cutTable
  | looked

/-- Why a request could not be carried out. -/
inductive Fault where
  /-- Data of the wrong shape. -/
  | invalid (failures : List Failure)
  /-- A pattern that cannot be used. -/
  | badPattern (fault : Regex.Fault)
  /-- A kind of input that does not exist. -/
  | unknownKind (name : String)
  /-- Two steps of a flow under one id. -/
  | duplicateStep (id : String)
  /-- A flow that begins at a step it does not have. -/
  | noInitialStep (step flow : String)
  /-- A flow whose deadline is not in the future. -/
  | noTime (flow : String)
  /-- A source of options that does not exist. -/
  | unknownSource (name : String)
  /-- An option without a part that it needs. -/
  | optionLacks (part : String)
  /-- A value of a kind that does not allow its use. -/
  | misused (how : Misuse) (value : Json)
  /-- An item in place of a pair that cannot be walked through. -/
  | noSequence (place : Nat)
  /-- An item in place of a pair that has another number of parts. -/
  | noPair (place length : Nat)
  /-- A text in which lists or objects are nested too deep to follow. -/
  | nestedTooDeep (inList : Bool)
  /-- An integer of too many digits: of so many in a text, or one that was to be written. -/
  | longInteger (digits : Option Nat)
  /-- A value that is nested too deep to be written. -/
  | tooDeepToWrite
  /-- A value that is nested too deep to be stored. -/
  | tooDeepToStore
  /-- The database does not answer. -/
  | databaseDown
  /-- A time before year 1 or after year 9999. -/
  | beyondCalendar
  /-- A deadline of so many days, more than a billion. -/
  | tooManyDays (days : Int)
  /-- A deadline whose days are no machine integer. -/
  | countlessDays

/-- The wording of a misuse. -/
def Misuse.message (kind : String) : Misuse → String
  | .walked => "'" ++ kind ++ "' object is not iterable"
  | .cut => "'" ++ kind ++ "' object is not subscriptable"
  | .cutTable => "unhashable type: 'slice'"
  | .looked => "unhashable type: '" ++ kind ++ "'"

/-- The wording of a fault. -/
def Fault.message : Fault → String
  | .invalid failures => Failure.summary failures
  | .badPattern fault => fault.message
  | .unknownKind name => Text.quoted name ++ " is not a valid InputKind"
  | .duplicateStep id => "Duplicate step id '" ++ id ++ "'"
  | .noInitialStep step flow =>
    "Initial step '" ++ step ++ "' is not defined in flow '" ++ flow ++ "'"
  | .noTime flow => "Flow '" ++ flow ++ "' must have a positive timeout"
  | .unknownSource name => "Unknown dynamic data source '" ++ name ++ "'"
  | .optionLacks part => Text.quoted part
  | .misused how value => how.message value.kindName
  | .noSequence place =>
    "cannot convert dictionary update sequence element #" ++ toString place ++ " to a sequence"
  | .noPair place length =>
    "dictionary update sequence element #" ++ toString place ++ " has length " ++
      toString length ++ "; 2 is required"
  | .nestedTooDeep inList =>
    "maximum recursion depth exceeded while decoding a JSON " ++
      (if inList then "array" else "object") ++ " from a unicode string"
  | .longInteger digits =>
    "Exceeds the limit (4300 digits) for integer string conversion" ++
      (match digits with
        | some digits => ": value has " ++ toString digits ++ " digits"
        | none => "") ++
      "; use sys.set_int_max_str_digits() to increase the limit"
  | .tooDeepToWrite => "Maximum serialization depth exceeded"
  | .tooDeepToStore =>
    "Error serializing to JSON: ValueError: Maximum serialization depth exceeded"
  | .databaseDown => "db down"
  | .beyondCalendar => "date value out of range"
  | .tooManyDays days =>
    "days=" ++ toString days ++ "; must have magnitude <= 999999999"
  | .countlessDays => "Python int too large to convert to C int"

/-- The value of a checked reading, or its failures as a fault. -/
def Checked.orFault {α : Type} : Checked α → Except Fault α
  | .good a => .ok a
  | .bad failures => .error (.invalid failures)

theorem Checked.good_of_orFault {α : Type} {c : Checked α} {a : α} (h : c.orFault = .ok a) :
    c = .good a := by
  cases c with
  | good b =>
    cases h
    rfl
  | bad failures => cases h

end Dialogue
