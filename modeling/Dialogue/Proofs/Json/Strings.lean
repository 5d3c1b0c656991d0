import Dialogue.Json.Reader
import Dialogue.Json.Writer

/-!
# Reading written strings

A written string is read back as it was. Its characters are read one by one, whether they are
written as they are or as an escape, and no character is half a surrogate pair.

Main statements: `readText_writeString` and `readName_writeString`.
-/

namespace Dialogue.Json

/-! ## Single characters -/

theorem hexUnit?_control : ∀ n < 32,
    hexUnit? '0' '0' (Nat.digitChar (n / 16)) (Nat.digitChar (n % 16)) = some n := by decide

theorem readCodes_plain {c : Char} (plain : ¬ c.toNat < 32) (slash : c ≠ '\\') (quote : c ≠ '"')
    (rest : List Char) :
    readCodes (c :: rest) = (readCodes rest).map fun (codes, rest) => (c.toNat :: codes, rest) := by
  rw [readCodes.eq_def]
  split
  · next h => exact absurd (List.cons.inj h).1 quote
  · next h => exact absurd (List.cons.inj h).1 slash
  · next h => exact absurd (List.cons.inj h).1 slash
  · next h =>
    obtain ⟨rfl, rfl⟩ := List.cons.inj h
    rw [if_neg (by simp [plain, slash])]
    cases readCodes _ <;> rfl
  · next h => exact absurd h (List.cons_ne_nil _ _)

theorem readCodes_escape {c e : Char} (known : escaped? c = some e) (letter : c ≠ 'u')
    (rest : List Char) :
    readCodes ('\\' :: c :: rest) =
      (readCodes rest).map fun (codes, rest) => (e.toNat :: codes, rest) := by
  rw [readCodes.eq_def]
  split
  · next h => simp at h
  · next h =>
    simp only [List.cons.injEq, true_and] at h
    exact absurd h.1 letter
  · next h =>
    simp only [List.cons.injEq, true_and] at h
    obtain ⟨rfl, rfl⟩ := h
    simp only [known]
    cases readCodes rest <;> rfl
  · next other h =>
    simp only [List.cons.injEq] at h
    obtain ⟨rfl, rfl⟩ := h
    exact (other c rest rfl rfl).elim
  · next h => simp at h

theorem readCodes_unit {n : Nat} {a b c d : Char} (unit : hexUnit? a b c d = some n)
    (rest : List Char) :
    readCodes ('\\' :: 'u' :: a :: b :: c :: d :: rest) =
      (readCodes rest).map fun (codes, rest) => (n :: codes, rest) := by
  rw [readCodes]
  simp only [unit]
  cases readCodes rest <;> rfl

/-- A character is read back however it is written. -/
theorem readCodes_writeChar (c : Char) (rest : List Char) :
    readCodes (writeChar c ++ rest) =
      (readCodes rest).map fun (codes, rest) => (c.toNat :: codes, rest) := by
  by_cases quote : c = '"'
  · subst quote
    exact readCodes_escape rfl (by decide) rest
  by_cases slash : c = '\\'
  · subst slash
    exact readCodes_escape rfl (by decide) rest
  by_cases feed : c = '\n'
  · subst feed
    exact readCodes_escape rfl (by decide) rest
  by_cases back : c = '\r'
  · subst back
    exact readCodes_escape rfl (by decide) rest
  by_cases tab : c = '\t'
  · subst tab
    exact readCodes_escape rfl (by decide) rest
  by_cases backspace : c = '\x08'
  · subst backspace
    exact readCodes_escape rfl (by decide) rest
  by_cases page : c = '\x0c'
  · subst page
    exact readCodes_escape rfl (by decide) rest
  have special : ¬(c = '"' ∨ c = '\\') := fun h => h.elim quote slash
  rw [writeChar, if_neg special, if_neg feed, if_neg back, if_neg tab, if_neg backspace,
    if_neg page]
  by_cases control : c.toNat < 32
  · rw [if_pos control]
    exact readCodes_unit (hexUnit?_control _ control) rest
  · rw [if_neg control]
    exact readCodes_plain control slash quote rest

/-! ## Whole strings -/

theorem readCodes_flatMap (cs rest : List Char) :
    readCodes (cs.flatMap writeChar ++ '"' :: rest) = some (cs.map Char.toNat, rest) := by
  induction cs with
  | nil => rw [List.flatMap_nil, List.nil_append, readCodes, List.map_nil]
  | cons c cs ih =>
    rw [List.flatMap_cons, List.append_assoc, readCodes_writeChar, ih]
    rfl

/-- A character is no half of a surrogate pair. -/
theorem charOf?_toNat (c : Char) : charOf? c.toNat = some c := by
  unfold charOf?
  have valid : c.toNat < 0xd800 ∨ 0xdfff < c.toNat ∧ c.toNat < 0x110000 := c.valid
  rw [if_neg (by omega), Char.ofNat_toNat]

theorem joinPairs_map_toNat (cs : List Char) : joinPairs (cs.map Char.toNat) = cs.map some := by
  induction cs with
  | nil => rfl
  | cons c cs ih =>
    cases cs with
    | nil => rw [List.map_singleton, joinPairs, charOf?_toNat, List.map_singleton]
    | cons d cs =>
      have valid : c.toNat < 0xd800 ∨ 0xdfff < c.toNat ∧ c.toNat < 0x110000 := c.valid
      rw [List.map_cons] at ih
      rw [List.map_cons, List.map_cons, joinPairs, if_neg (by omega), ih, charOf?_toNat]
      rfl

theorem wholeText?_map_some (s : String) : wholeText? (s.toList.map some) = some s := by
  have all (cs : List Char) : (cs.map some).mapM id = some cs := by
    induction cs with
    | nil => rfl
    | cons c cs ih => simp [List.mapM_cons, ih]
  rw [wholeText?, all, Option.map_some, String.ofList_toList]

theorem readString_writeString (s : String) (rest : List Char) :
    readString (s.toList.flatMap writeChar ++ '"' :: rest) = .ok (s.toList.map some, rest) := by
  rw [readString, readCodes_flatMap, ← joinPairs_map_toNat]
  rfl

/-- **A written text** is read back. -/
theorem readText_writeString (limits : Limits) (s : String) (rest : List Char) :
    readText limits (s.toList.flatMap writeChar ++ '"' :: rest) = .ok (.str s, rest) := by
  unfold readText
  simp only [readString_writeString, bind, Except.bind, wholeText?_map_some]
  rfl

/-- **A written name** is read back. -/
theorem readName_writeString (limits : Limits) (s : String) (rest : List Char) :
    readName limits (s.toList.flatMap writeChar ++ '"' :: rest) = .ok (s, rest) := by
  unfold readName
  simp only [readString_writeString, bind, Except.bind, wholeText?_map_some]
  rfl

end Dialogue.Json
