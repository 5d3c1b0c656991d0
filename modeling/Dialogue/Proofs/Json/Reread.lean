import Dialogue.Proofs.Json.Numbers
import Dialogue.Proofs.Json.Strings

/-!
# Reading written values

A value that was written may be refused when it is read, because it is nested too deep or because a
number is too long. When it is accepted, the reader takes the whole value and leaves what stands
behind it, texts and nulls come out as they went in, and an object has the fields that were written.

The induction is on the fuel of the reader, for values, items and fields together. What stands
behind a value is a comma or closes a list or an object, so a number ends where it was written.

Main statements: `rereads` and `exists_entries_of_read`.
-/

namespace Dialogue.Json

open Effect

/-- A value that is written as an optional text is read back unchanged. -/
def KeepsText (written read : Json) : Prop := ∀ s, written = .ofText? s → read = written

/-- The fields that are read are those that were written, under the same names. -/
inductive SameFields : Fields → Fields → Prop
  | nil : SameFields [] []
  | cons {name : String} {w r : Json} {written read : Fields} (keeps : KeepsText w r)
      (rest : SameFields written read) : SameFields ((name, w) :: written) ((name, r) :: read)

/-- What becomes of a value when it is written and read. -/
structure Reread (written read : Json) : Prop where
  text : KeepsText written read
  fields : ∀ fields, written = .obj fields → ∃ entries, SameFields fields entries ∧
    read = .obj (Table.setAll [] entries)

/-! ## Beginnings -/

/-- A character with which a value may begin, and nothing else. -/
def Opens (c : Char) : Prop := isGap c = false ∧ c ≠ ']' ∧ c ≠ '\x7d'

theorem dropWhile_of_opens {c : Char} (opens : Opens c) (cs : List Char) :
    (c :: cs).dropWhile isGap = c :: cs := by
  rw [List.dropWhile_cons, if_neg (by simp [opens.1])]

theorem opens_of_isLead {c : Char} (lead : IsLead c) : Opens c ∧ c ≠ '[' ∧ c ≠ '\x7b' := by
  have gap : isGap c = false := by
    have space : c ≠ ' ' := ne_of_isLead lead (by decide)
    have tab : c ≠ '\t' := ne_of_isLead lead (by decide)
    have feed : c ≠ '\n' := ne_of_isLead lead (by decide)
    have back : c ≠ '\r' := ne_of_isLead lead (by decide)
    simp [isGap, space, tab, feed, back]
  exact ⟨⟨gap, ne_of_isLead lead (by decide), ne_of_isLead lead (by decide)⟩,
    ne_of_isLead lead (by decide), ne_of_isLead lead (by decide)⟩

theorem opens_of_isNumber {cs : List Char} (isNumber : IsNumber cs) :
    ∃ c rest, cs = c :: rest ∧ Opens c ∧ c ≠ '[' ∧ c ≠ '\x7b' := by
  cases isNumber with
  | plain isUnsigned filled =>
    obtain ⟨c, rest, shape, lead⟩ := exists_lead isUnsigned filled
    exact ⟨c, rest, shape, opens_of_isLead lead⟩
  | negative isUnsigned filled =>
    exact ⟨'-', _, rfl, ⟨rfl, by decide, by decide⟩, by decide, by decide⟩

/-! ## Single values -/

/-- A value that is neither a list nor an object. -/
def isScalar : Json → Bool
  | .arr _ | .obj _ => false
  | _ => true

theorem opens_scalar {v : Json} (scalar : v.isScalar = true) :
    ∃ c rest, write v = c :: rest ∧ Opens c ∧ c ≠ '[' ∧ c ≠ '\x7b' := by
  have letter {c : Char} (h : c = 'n' ∨ c = 't' ∨ c = 'f' ∨ c = '"') :
      Opens c ∧ c ≠ '[' ∧ c ≠ '\x7b' := by
    rcases h with rfl | rfl | rfl | rfl <;>
      exact ⟨⟨rfl, by decide, by decide⟩, by decide, by decide⟩
  cases v with
  | null => exact ⟨'n', _, rfl, letter (.inl rfl)⟩
  | bool b =>
    cases b with
    | true => exact ⟨'t', _, rfl, letter (.inr (.inl rfl))⟩
    | false => exact ⟨'f', _, rfl, letter (.inr (.inr (.inl rfl)))⟩
  | int i => exact opens_of_isNumber (isNumber_int i)
  | float x =>
    cases x with
    | finite negative mantissa exponent => exact opens_of_isNumber (isNumber_finite _ _ _)
    | nan => exact ⟨'n', _, rfl, letter (.inl rfl)⟩
    | infinite negative => exact ⟨'n', _, rfl, letter (.inl rfl)⟩
  | str s => exact ⟨'"', _, rfl, letter (.inr (.inr (.inr rfl)))⟩
  | arr items => simp [isScalar] at scalar
  | obj fields => simp [isScalar] at scalar

theorem readValue_scalar {limits : Limits} {fuel depth : Nat} {v : Json} {rest : List Char}
    (scalar : v.isScalar = true) :
    readValue limits (fuel + 1) depth (write v ++ rest) = readScalar limits (write v ++ rest) := by
  obtain ⟨c, tail, shape, opens, bracket, brace⟩ := opens_scalar scalar
  rw [shape, List.cons_append, readValue, dropWhile_of_opens opens]
  split
  · next h => exact absurd (List.cons.inj h).1 bracket
  · next h => exact absurd (List.cons.inj h).1 brace
  · rfl

theorem word_append (text : String) (value : Json) (rest : List Char) :
    word text value (text.toList ++ rest) = .ok (value, rest) := by
  unfold word
  rw [if_pos (List.isPrefixOf_iff_prefix.2 (List.prefix_append _ _)), ← String.length_toList,
    List.drop_left]

theorem readScalar_null (limits : Limits) (rest : List Char) :
    readScalar limits ("null".toList ++ rest) = .ok (.null, rest) :=
  word_append "ull" .null rest

theorem eq_of_reads {α : Type} {x : Except Trouble (α × List Char)} {a b : α} {r s : List Char}
    (reads : x = .ok (a, r)) (done : x = .ok (b, s)) : s = r ∧ b = a := by
  rw [reads] at done
  cases done
  exact ⟨rfl, rfl⟩

theorem keepsText_of_ne {v : Json} (other : ∀ s, v ≠ .ofText? s) (read : Json) :
    KeepsText v read := fun s h => absurd h (other s)

/-- A single value is read to its end. -/
theorem reread_of_readScalar {limits : Limits} {v read : Json} {rest rest' : List Char}
    (scalar : v.isScalar = true) (closes : Closes rest)
    (done : readScalar limits (write v ++ rest) = .ok (read, rest')) :
    rest' = rest ∧ KeepsText v read := by
  cases v with
  | null =>
    obtain ⟨left, rfl⟩ := eq_of_reads (readScalar_null limits rest) done
    exact ⟨left, fun s _ => rfl⟩
  | bool b =>
    have untexted : KeepsText (.bool b) read := keepsText_of_ne (fun s => by cases s <;> nofun) _
    cases b with
    | true => exact ⟨(eq_of_reads (word_append "rue" (.bool true) rest) done).1, untexted⟩
    | false => exact ⟨(eq_of_reads (word_append "alse" (.bool false) rest) done).1, untexted⟩
  | int i =>
    exact ⟨rest_of_readScalar_number (isNumber_int i) closes done,
      keepsText_of_ne (fun s => by cases s <;> nofun) _⟩
  | float x =>
    have untexted : KeepsText (.float x) read := keepsText_of_ne (fun s => by cases s <;> nofun) _
    cases x with
    | finite negative mantissa exponent =>
      exact ⟨rest_of_readScalar_number (isNumber_finite _ _ _) closes done, untexted⟩
    | nan => exact ⟨(eq_of_reads (readScalar_null limits rest) done).1, untexted⟩
    | infinite negative => exact ⟨(eq_of_reads (readScalar_null limits rest) done).1, untexted⟩
  | str s =>
    have whole : write (.str s) ++ rest = '"' :: (s.toList.flatMap writeChar ++ '"' :: rest) := by
      simp [write, writeString]
    rw [whole, readScalar] at done
    obtain ⟨left, rfl⟩ := eq_of_reads (readText_writeString limits s rest) done
    exact ⟨left, fun s _ => rfl⟩
  | arr items => simp [isScalar] at scalar
  | obj fields => simp [isScalar] at scalar

/-! ## Lists and objects -/

theorem closes_cons {c : Char} (h : c = ',' ∨ c = ']' ∨ c = '\x7d') (rest : List Char) :
    Closes (c :: rest) := by
  intro d hd
  cases hd
  exact h

theorem opens_write (v : Json) : ∃ c rest, write v = c :: rest ∧ Opens c := by
  cases scalar : v.isScalar with
  | true =>
    obtain ⟨c, rest, shape, opens, -⟩ := opens_scalar scalar
    exact ⟨c, rest, shape, opens⟩
  | false =>
    cases v with
    | arr items => exact ⟨'[', _, by rw [write, List.cons_append], rfl, by decide, by decide⟩
    | obj fields => exact ⟨'\x7b', _, by rw [write, List.cons_append], rfl, by decide, by decide⟩
    | _ => simp [isScalar] at scalar

theorem opens_writeItems (item : Json) (items : List Json) :
    ∃ c rest, writeItems (item :: items) = c :: rest ∧ Opens c := by
  obtain ⟨c, rest, shape, opens⟩ := opens_write item
  cases items with
  | nil => exact ⟨c, rest, by rw [writeItems, shape], opens⟩
  | cons next items =>
    exact ⟨c, rest ++ ',' :: writeItems (next :: items),
      by rw [writeItems, shape, List.cons_append]; simp, opens⟩

theorem writeItems_cons (item next : Json) (items : List Json) :
    writeItems (item :: next :: items) = write item ++ ',' :: writeItems (next :: items) := by
  rw [writeItems]
  simp

theorem writeFields_singleton (name : String) (value : Json) (rest : List Char) :
    writeFields [(name, value)] ++ rest =
      '"' :: (name.toList.flatMap writeChar ++ '"' :: ':' :: (write value ++ rest)) := by
  simp [writeFields, writeString]

theorem writeFields_cons_cons (name : String) (value : Json) (next : String × Json)
    (fields : Fields) (rest : List Char) :
    writeFields ((name, value) :: next :: fields) ++ rest =
      '"' :: (name.toList.flatMap writeChar ++ '"' :: ':' ::
        (write value ++ ',' :: (writeFields (next :: fields) ++ rest))) := by
  simp [writeFields, writeString]

/-- Fields begin with the quote of the first name. -/
theorem writeFields_cons (field : String × Json) (fields : Fields) :
    ∃ rest, writeFields (field :: fields) = '"' :: rest := by
  obtain ⟨name, value⟩ := field
  cases fields <;> simp [writeFields, writeString]

/-- What the three readers do with written text, for the fuel that they are given. -/
structure Rereads (limits : Limits) (fuel : Nat) : Prop where
  value : ∀ {depth : Nat} {v read : Json} {rest rest' : List Char}, Closes rest →
    readValue limits fuel depth (write v ++ rest) = .ok (read, rest') →
      rest' = rest ∧ Reread v read
  items : ∀ {depth : Nat} {item : Json} {items read : List Json} {rest rest' : List Char},
    readItems limits fuel depth (writeItems (item :: items) ++ ']' :: rest) = .ok (read, rest') →
      rest' = rest
  fields : ∀ {depth : Nat} {known read : Fields} {field : String × Json} {fields : Fields}
    {rest rest' : List Char},
    readFields limits fuel depth known (writeFields (field :: fields) ++ '\x7d' :: rest) =
        .ok (read, rest') →
      rest' = rest ∧ ∃ entries, SameFields (field :: fields) entries ∧
        read = Table.setAll known entries

theorem readValue_bracket {limits : Limits} {fuel depth : Nat} {c : Char} {cs : List Char}
    (opens : Opens c) :
    readValue limits (fuel + 1) depth ('[' :: c :: cs) =
      match depth with
      | 0 => .error (.tooDeep true)
      | depth + 1 => do
        let (items, rest) ← readItems limits fuel depth (c :: cs)
        return (.arr items, rest) := by
  have bracket : ('[' :: c :: cs).dropWhile isGap = '[' :: c :: cs := rfl
  simp only [readValue, bracket, dropWhile_of_opens opens]
  split
  · next h => exact absurd (List.cons.inj h).1 opens.2.1
  · rfl
  · rfl

theorem readValue_brace {limits : Limits} {fuel depth : Nat} {c : Char} {cs : List Char}
    (opens : Opens c) :
    readValue limits (fuel + 1) depth ('\x7b' :: c :: cs) =
      match depth with
      | 0 => .error (.tooDeep false)
      | depth + 1 => do
        let (fields, rest) ← readFields limits fuel depth [] (c :: cs)
        return (.obj fields, rest) := by
  have brace : ('\x7b' :: c :: cs).dropWhile isGap = '\x7b' :: c :: cs := rfl
  simp only [readValue, brace, dropWhile_of_opens opens]
  split
  · next h => exact absurd (List.cons.inj h).1 opens.2.2
  · rfl
  · rfl

theorem reread_list {items read : List Json} : Reread (.arr items) (.arr read) :=
  ⟨keepsText_of_ne (fun s => by cases s <;> nofun) _, nofun⟩

theorem reread_object {fields read entries : Fields} (same : SameFields fields entries)
    (eq : read = Table.setAll [] entries) : Reread (.obj fields) (.obj read) := by
  refine ⟨keepsText_of_ne (fun s => by cases s <;> nofun) _, ?_⟩
  intro written h
  cases h
  exact ⟨entries, same, by rw [eq]⟩

theorem rereads_value {limits : Limits} {fuel depth : Nat} (ih : Rereads limits fuel)
    {v read : Json} {rest rest' : List Char} (closes : Closes rest)
    (done : readValue limits (fuel + 1) depth (write v ++ rest) = .ok (read, rest')) :
    rest' = rest ∧ Reread v read := by
  cases scalar : v.isScalar with
  | true =>
    rw [readValue_scalar scalar] at done
    obtain ⟨left, keeps⟩ := reread_of_readScalar scalar closes done
    refine ⟨left, keeps, ?_⟩
    rintro fields rfl
    simp [isScalar] at scalar
  | false =>
    cases v with
    | arr items =>
      cases items with
      | nil =>
        have reads : readValue limits (fuel + 1) depth (write (.arr []) ++ rest) =
            .ok (.arr [], rest) := by
          simp [write, writeItems, readValue, isGap]
        obtain ⟨left, rfl⟩ := eq_of_reads reads done
        exact ⟨left, reread_list⟩
      | cons item items =>
        -- The first item opens, so the bracket is not taken for that of an empty list.
        obtain ⟨c, tail, shape, opens⟩ := opens_writeItems item items
        have whole : write (.arr (item :: items)) ++ rest =
            '[' :: c :: (tail ++ ']' :: rest) := by
          simp [write, shape]
        rw [whole, readValue_bracket opens] at done
        cases depth with
        | zero => simp at done
        | succ depth =>
          obtain ⟨⟨read, rest₁⟩, reads, done⟩ := bind_eq_ok_iff.1 done
          cases done
          rw [← List.cons_append, ← shape] at reads
          exact ⟨ih.items reads, reread_list⟩
    | obj fields =>
      cases fields with
      | nil =>
        have reads : readValue limits (fuel + 1) depth (write (.obj []) ++ rest) =
            .ok (.obj [], rest) := by
          simp [write, writeFields, readValue, isGap]
        obtain ⟨left, rfl⟩ := eq_of_reads reads done
        exact ⟨left, reread_object .nil rfl⟩
      | cons field fields =>
        obtain ⟨tail, shape⟩ := writeFields_cons field fields
        have whole : write (.obj (field :: fields)) ++ rest =
            '\x7b' :: '"' :: (tail ++ '\x7d' :: rest) := by
          simp [write, shape]
        rw [whole, readValue_brace ⟨rfl, by decide, by decide⟩] at done
        cases depth with
        | zero => simp at done
        | succ depth =>
          obtain ⟨⟨read, rest₁⟩, reads, done⟩ := bind_eq_ok_iff.1 done
          cases done
          rw [← List.cons_append, ← shape] at reads
          obtain ⟨left, entries, same, eq⟩ := ih.fields reads
          exact ⟨left, reread_object same eq⟩
    | _ => simp [isScalar] at scalar

theorem rereads_items {limits : Limits} {fuel depth : Nat} (ih : Rereads limits fuel) {item : Json}
    {items read : List Json} {rest rest' : List Char}
    (done : readItems limits (fuel + 1) depth (writeItems (item :: items) ++ ']' :: rest) =
      .ok (read, rest')) : rest' = rest := by
  rw [readItems] at done
  obtain ⟨⟨first, rest₁⟩, reads, done⟩ := bind_eq_ok_iff.1 done
  cases items with
  | nil =>
    rw [writeItems] at reads
    obtain ⟨rfl, -⟩ := ih.value (closes_cons (.inr (.inl rfl)) rest) reads
    cases done
    rfl
  | cons next items =>
    rw [writeItems_cons, List.append_assoc, List.cons_append] at reads
    obtain ⟨rfl, -⟩ := ih.value (closes_cons (.inl rfl) _) reads
    obtain ⟨⟨others, rest₂⟩, reads, done⟩ := bind_eq_ok_iff.1 done
    cases done
    exact ih.items reads

/-- Behind a written name and a colon the reader goes on with the value. -/
theorem readFields_name {limits : Limits} {fuel depth : Nat} {known : Fields} {name : String}
    {cs : List Char} :
    readFields limits (fuel + 1) depth known
        ('"' :: (name.toList.flatMap writeChar ++ '"' :: ':' :: cs)) =
      (do
        let (value, rest) ← readValue limits fuel depth cs
        let known := known.set name value
        match rest.dropWhile isGap with
        | ',' :: rest => readFields limits fuel depth known rest
        | '\x7d' :: rest => return (known, rest)
        | _ => malformed) := by
  have quote (tail : List Char) : ('"' :: tail).dropWhile isGap = '"' :: tail := rfl
  rw [readFields, quote]
  show (readName limits (name.toList.flatMap writeChar ++ '"' :: ':' :: cs) >>= _) = _
  rw [readName_writeString]
  rfl

theorem rereads_fields {limits : Limits} {fuel depth : Nat} (ih : Rereads limits fuel)
    {known read : Fields} {field : String × Json} {fields : Fields} {rest rest' : List Char}
    (done : readFields limits (fuel + 1) depth known
      (writeFields (field :: fields) ++ '\x7d' :: rest) = .ok (read, rest')) :
    rest' = rest ∧ ∃ entries, SameFields (field :: fields) entries ∧
      read = Table.setAll known entries := by
  obtain ⟨name, value⟩ := field
  cases fields with
  | nil =>
    rw [writeFields_singleton, readFields_name] at done
    obtain ⟨⟨value', rest₁⟩, reads, done⟩ := bind_eq_ok_iff.1 done
    obtain ⟨rfl, reread⟩ := ih.value (closes_cons (.inr (.inr rfl)) rest) reads
    cases done
    exact ⟨rfl, [(name, value')], .cons reread.text .nil, rfl⟩
  | cons next fields =>
    rw [writeFields_cons_cons, readFields_name] at done
    obtain ⟨⟨value', rest₁⟩, reads, done⟩ := bind_eq_ok_iff.1 done
    obtain ⟨rfl, reread⟩ := ih.value (closes_cons (.inl rfl) _) reads
    obtain ⟨left, entries, same, eq⟩ := ih.fields done
    exact ⟨left, (name, value') :: entries, .cons reread.text same, eq⟩

/-- **What is written is read**, with any fuel. -/
theorem rereads (limits : Limits) (fuel : Nat) : Rereads limits fuel := by
  induction fuel with
  | zero =>
    refine ⟨fun _ done => ?_, fun done => ?_, fun done => ?_⟩
    · simp [readValue, malformed] at done
    · simp [readItems, malformed] at done
    · simp [readFields, malformed] at done
  | succ fuel ih => exact ⟨rereads_value ih, rereads_items ih, rereads_fields ih⟩

/-! ## Whole texts -/

/-- **An object that was written** is read, if at all, as an object with the same fields. -/
theorem exists_entries_of_read {limits : Limits} {fields : Fields} {read : Json}
    (done : Json.read limits (render (.obj fields)) = .ok read) :
    ∃ entries, SameFields fields entries ∧ read = .obj (Table.setAll [] entries) := by
  obtain ⟨rest, reads, -⟩ := (read_eq_ok_iff _ _ _).1 done
  rw [render, String.toList_ofList, ← List.append_nil (write _)] at reads
  have closes : Closes [] := nofun
  obtain ⟨-, reread⟩ := (rereads limits _).value closes reads
  exact reread.fields fields rfl

end Dialogue.Json
