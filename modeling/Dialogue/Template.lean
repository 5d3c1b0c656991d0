import Dialogue.Json.Display
import Dialogue.Text.Class

/-!
# Templates

A template is a text with places to fill in: a word between braces. A place whose word is a key of
the data is replaced by the value's text, and by nothing when the value is null; any other place
stays as it is written. What is filled in is never looked at again.

Main statements: the equations `fillChars_open`, `fillChars_brace` and `fillChars_of_ne`, for a
place, for a brace that begins none, and for every other character.
-/

namespace Dialogue.Template

open Text

/-- The place that an opening brace begins, from the characters behind it: its word, and what
follows the closing brace. -/
def place? (cs : List Char) : Option (List Char × List Char) :=
  match cs.takeWhile isWord, cs.dropWhile isWord with
  | c :: word, '}' :: rest => some (c :: word, rest)
  | _, _ => none

theorem length_place? {cs word rest : List Char} (h : place? cs = some (word, rest)) :
    rest.length < cs.length := by
  unfold place? at h
  split at h
  · rename_i c w r _ heq
    cases h
    have h1 := congrArg List.length heq
    have h2 := (List.dropWhile_suffix isWord (l := cs)).length_le
    simp at h1
    omega
  · simp at h

/-- The text of a filled place; `none` leaves it as it is. -/
def filling? (data : Fields) (word : List Char) : Option (List Char) :=
  (Table.get? data (String.ofList word)).map fun value =>
    match value with
    | .null => []
    | value => value.display.toList

/-- The characters of a template with its places filled. -/
def fillChars (data : Fields) (cs : List Char) : List Char :=
  match cs with
  | [] => []
  | c :: cs =>
    if c = '{' then
      match h : place? cs with
      | some (word, rest) =>
        have := length_place? h
        (filling? data word).getD ('{' :: word ++ ['}']) ++ fillChars data rest
      | none => c :: fillChars data cs
    else c :: fillChars data cs
termination_by cs.length

/-- A template with its places filled from the data. -/
def fill (data : Fields) (template : String) : String :=
  String.ofList (fillChars data template.toList)

@[simp] theorem fillChars_nil (data : Fields) : fillChars data [] = [] := by simp [fillChars]

theorem fillChars_of_ne (data : Fields) {c : Char} (h : c ≠ '{') (cs : List Char) :
    fillChars data (c :: cs) = c :: fillChars data cs := by
  rw [fillChars]; simp [h]

theorem fillChars_open (data : Fields) {cs word rest : List Char}
    (h : place? cs = some (word, rest)) :
    fillChars data ('{' :: cs) =
      (filling? data word).getD ('{' :: word ++ ['}']) ++ fillChars data rest := by
  rw [fillChars]
  simp only [if_true]
  split
  · rename_i w r heq
    rw [h] at heq; cases heq; rfl
  · rename_i heq
    rw [h] at heq; simp at heq

theorem fillChars_brace (data : Fields) {cs : List Char} (h : place? cs = none) :
    fillChars data ('{' :: cs) = '{' :: fillChars data cs := by
  rw [fillChars]
  simp only [if_true]
  split
  · rename_i w r heq
    rw [h] at heq; simp at heq
  · rfl

end Dialogue.Template
