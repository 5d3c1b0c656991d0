import Dialogue.Proofs.Json.Decimals
import Dialogue.Proofs.Json.Reread

/-!
# Values that can be written and read

A reader refuses texts in which values are nested too deep or numbers are too long. A value is
*readable* when its lists and objects are nested no deeper than the reader allows and its integers
have no more digits. Whatever a reader has read is readable, and whatever is readable is read when
it is written: the reader that took a value takes it again.

Both inductions are on the fuel, for values, items and fields together. The reader needs no more
fuel than there are characters to read.

Main statements: `readable_of_read` and `exists_read`.
-/

namespace Dialogue.Json

open Effect

/-- A value nested at most so deep, with integers of at most so many digits. -/
inductive Readable (most : Nat) : Nat → Json → Prop
  | null (depth : Nat) : Readable most depth .null
  | bool (depth : Nat) (b : Bool) : Readable most depth (.bool b)
  | int (depth : Nat) {i : Int} (short : (Nat.toDigits 10 i.natAbs).length ≤ most) :
      Readable most depth (.int i)
  | float (depth : Nat) (x : Binary64) : Readable most depth (.float x)
  | str (depth : Nat) (s : String) : Readable most depth (.str s)
  | noItems (depth : Nat) : Readable most depth (.arr [])
  | arr {depth : Nat} {items : List Json} (each : ∀ item ∈ items, Readable most depth item) :
      Readable most (depth + 1) (.arr items)
  | noFields (depth : Nat) : Readable most depth (.obj [])
  | obj {depth : Nat} {fields : Fields} (each : ∀ entry ∈ fields, Readable most depth entry.2) :
      Readable most (depth + 1) (.obj fields)

/-- The values of all fields are readable. -/
def FieldsReadable (most depth : Nat) (fields : Fields) : Prop :=
  ∀ entry ∈ fields, Readable most depth entry.2

variable {limits : Limits} {most : Nat}

theorem FieldsReadable.nil {depth : Nat} : FieldsReadable most depth [] := by
  intro entry mem
  cases mem

theorem FieldsReadable.set {depth : Nat} {fields : Fields} (each : FieldsReadable most depth fields)
    {value : Json} (readable : Readable most depth value) (name : String) :
    FieldsReadable most depth (Table.set fields name value) := by
  intro entry mem
  rcases Table.mem_of_mem_set mem with rfl | mem
  · exact readable
  · exact each entry mem

/-! ## What is read -/

/-- The number that digits write has no more digits than they are. -/
theorem length_toDigits_ofDigits {digits : List Char} (all : AreDigits digits)
    (filled : digits ≠ []) : (Nat.toDigits 10 (ofDigits digits)).length ≤ digits.length :=
  (Nat.length_toDigits_le_iff (by decide) (List.length_pos_iff.2 filled)).2 (ofDigits_lt digits all)

theorem readable_of_readUnsigned {depth : Nat} (allows : limits.Allows most) {negative : Bool}
    {cs rest : List Char} {value : Json}
    (done : readUnsigned limits negative cs = .ok (value, rest)) : Readable most depth value := by
  unfold readUnsigned at done
  split at done
  next digits tail spanned =>
  have all : AreDigits digits := by
    rw [← (Prod.mk.inj spanned).1]
    exact fun c h => List.all_eq_true.1 List.all_takeWhile c h
  split at done
  · cases done
  · next grammar =>
    rw [not_or] at grammar
    obtain ⟨⟨fraction, rest₁⟩, -, done⟩ := bind_eq_ok_iff.1 done
    obtain ⟨⟨power, rest₂⟩, -, done⟩ := bind_eq_ok_iff.1 done
    dsimp only at done
    split at done
    · obtain ⟨_, stopped, -⟩ := bind_eq_ok_iff.1 done
      cases stopped
    · next short =>
      rw [allows.isTooLong, decide_eq_true_eq, Nat.not_lt] at short
      split at done
      · cases done
        exact .float depth _
      · have few := Nat.le_trans (length_toDigits_ofDigits all
          (fun empty => grammar.1 (List.isEmpty_iff.2 empty))) short
        cases done
        refine .int depth ?_
        split <;> simpa using few

theorem readable_of_word {depth : Nat} {text : String} {given value : Json} {cs rest : List Char}
    (readable : Readable most depth given) (done : word text given cs = .ok (value, rest)) :
    Readable most depth value := by
  unfold word at done
  split at done
  · cases done
    exact readable
  · cases done

theorem readable_of_readScalar {depth : Nat} (allows : limits.Allows most) {cs rest : List Char}
    {value : Json} (done : readScalar limits cs = .ok (value, rest)) :
    Readable most depth value := by
  unfold readScalar at done
  split at done
  · obtain ⟨⟨s, rest₁⟩, -, done⟩ := bind_eq_ok_iff.1 done
    dsimp only at done
    split at done
    · cases done
      exact .str depth _
    · rw [allows.whole] at done
      cases done
  · exact readable_of_word (.null depth) done
  · exact readable_of_word (.bool depth true) done
  · exact readable_of_word (.bool depth false) done
  · exact readable_of_word (.float depth _) done
  · exact readable_of_word (.float depth _) done
  · exact readable_of_word (.float depth _) done
  · exact readable_of_readUnsigned allows done
  · exact readable_of_readUnsigned allows done

/-- What the three readers give, for the fuel that they are given. -/
structure Yields (limits : Limits) (most fuel : Nat) : Prop where
  value : ∀ {depth : Nat} {cs rest : List Char} {value : Json},
    readValue limits fuel depth cs = .ok (value, rest) → Readable most depth value
  items : ∀ {depth : Nat} {cs rest : List Char} {items : List Json},
    readItems limits fuel depth cs = .ok (items, rest) →
      ∀ item ∈ items, Readable most depth item
  fields : ∀ {depth : Nat} {cs rest : List Char} {known fields : Fields},
    FieldsReadable most depth known →
      readFields limits fuel depth known cs = .ok (fields, rest) →
        FieldsReadable most depth fields

theorem yields_value {fuel : Nat} (allows : limits.Allows most) (ih : Yields limits most fuel)
    {depth : Nat} {cs rest : List Char} {value : Json}
    (done : readValue limits (fuel + 1) depth cs = .ok (value, rest)) :
    Readable most depth value := by
  rw [readValue] at done
  split at done
  · split at done
    · cases done
      exact .noItems _
    · cases done
    · obtain ⟨⟨items, rest₁⟩, read, done⟩ := bind_eq_ok_iff.1 done
      cases done
      exact .arr (ih.items read)
  · split at done
    · cases done
      exact .noFields _
    · cases done
    · obtain ⟨⟨fields, rest₁⟩, read, done⟩ := bind_eq_ok_iff.1 done
      cases done
      exact .obj (ih.fields .nil read)
  · exact readable_of_readScalar allows done

theorem yields_items {fuel : Nat} (ih : Yields limits most fuel) {depth : Nat}
    {cs rest : List Char} {items : List Json}
    (done : readItems limits (fuel + 1) depth cs = .ok (items, rest)) :
    ∀ item ∈ items, Readable most depth item := by
  rw [readItems] at done
  obtain ⟨⟨first, rest₁⟩, read, done⟩ := bind_eq_ok_iff.1 done
  dsimp only at done
  split at done
  · obtain ⟨⟨others, rest₂⟩, readOthers, done⟩ := bind_eq_ok_iff.1 done
    cases done
    exact List.forall_mem_cons.2 ⟨ih.value read, ih.items readOthers⟩
  · cases done
    exact List.forall_mem_singleton.2 (ih.value read)
  · cases done

theorem yields_fields {fuel : Nat} (ih : Yields limits most fuel) {depth : Nat}
    {cs rest : List Char} {known fields : Fields} (before : FieldsReadable most depth known)
    (done : readFields limits (fuel + 1) depth known cs = .ok (fields, rest)) :
    FieldsReadable most depth fields := by
  rw [readFields] at done
  split at done
  · obtain ⟨⟨name, rest₁⟩, -, done⟩ := bind_eq_ok_iff.1 done
    dsimp only at done
    split at done
    · obtain ⟨⟨value, rest₂⟩, read, done⟩ := bind_eq_ok_iff.1 done
      have after := before.set (ih.value read) name
      dsimp only at done
      split at done
      · exact ih.fields after done
      · cases done
        exact after
      · cases done
    · cases done
  · cases done

theorem yields (allows : limits.Allows most) (fuel : Nat) : Yields limits most fuel := by
  induction fuel with
  | zero =>
    refine ⟨fun done => ?_, fun done => ?_, fun _ done => ?_⟩
    · simp [readValue, malformed] at done
    · simp [readItems, malformed] at done
    · simp [readFields, malformed] at done
  | succ fuel ih => exact ⟨yields_value allows ih, yields_items ih, yields_fields ih⟩

/-- **Whatever is read is readable.** -/
theorem readable_of_read (allows : limits.Allows most) {s : String} {value : Json}
    (done : Json.read limits s = .ok value) : Readable most limits.depth value := by
  obtain ⟨rest, read, -⟩ := (read_eq_ok_iff _ _ _).1 done
  exact (yields allows _).value read

/-! ## What is written -/

theorem exists_readScalar_write (allows : limits.Allows most) (sixteen : 16 ≤ most) {depth : Nat}
    {v : Json} (readable : Readable most depth v) (scalar : v.isScalar = true) {rest : List Char}
    (closes : Closes rest) : ∃ read, readScalar limits (write v ++ rest) = .ok (read, rest) := by
  cases readable with
  | null => exact ⟨_, readScalar_null limits rest⟩
  | bool _ b =>
    cases b with
    | true => exact ⟨_, word_append "rue" (.bool true) rest⟩
    | false => exact ⟨_, word_append "alse" (.bool false) rest⟩
  | int _ short => exact exists_readScalar_int allows short closes
  | float _ x =>
    cases x with
    | finite negative mantissa exponent =>
      exact exists_readScalar_finite allows sixteen negative mantissa exponent closes
    | nan => exact ⟨_, readScalar_null limits rest⟩
    | infinite negative => exact ⟨_, readScalar_null limits rest⟩
  | str _ s =>
    have whole : write (.str s) ++ rest = '"' :: (s.toList.flatMap writeChar ++ '"' :: rest) := by
      simp [write, writeString]
    rw [whole, readScalar]
    exact ⟨_, readText_writeString limits s rest⟩
  | noItems => simp [isScalar] at scalar
  | arr => simp [isScalar] at scalar
  | noFields => simp [isScalar] at scalar
  | obj => simp [isScalar] at scalar

/-- The fields that are read are those that were written, each with its value read again. -/
inductive FieldsReread : Fields → Fields → Prop
  | nil : FieldsReread [] []
  | cons {name : String} {w r : Json} {written read : Fields} (reread : Reread w r)
      (rest : FieldsReread written read) : FieldsReread ((name, w) :: written) ((name, r) :: read)

theorem FieldsReread.same {written read : Fields} (reread : FieldsReread written read) :
    SameFields written read := by
  induction reread with
  | nil => exact .nil
  | cons reread _ ih => exact .cons reread.text ih

/-- The three readers take what is written, when they have fuel for all its characters. -/
structure Takes (limits : Limits) (most fuel : Nat) : Prop where
  value : ∀ {depth : Nat} {v : Json} {rest : List Char}, Readable most depth v →
    (write v).length ≤ fuel → Closes rest →
      ∃ read, readValue limits fuel depth (write v ++ rest) = .ok (read, rest)
  items : ∀ {depth : Nat} {item : Json} {items : List Json} (rest : List Char),
    (∀ v ∈ item :: items, Readable most depth v) →
      (writeItems (item :: items)).length < fuel →
        ∃ read, readItems limits fuel depth (writeItems (item :: items) ++ ']' :: rest) =
          .ok (read, rest)
  fields : ∀ {depth : Nat} {field : String × Json} {fields : Fields} (known : Fields)
    (rest : List Char), FieldsReadable most depth (field :: fields) →
      (writeFields (field :: fields)).length < fuel →
        ∃ entries, FieldsReread (field :: fields) entries ∧
          readFields limits fuel depth known (writeFields (field :: fields) ++ '\x7d' :: rest) =
            .ok (Table.setAll known entries, rest)

theorem write_ne_nil (v : Json) : 0 < (write v).length := by
  obtain ⟨c, rest, shape, -⟩ := opens_write v
  rw [shape]
  exact Nat.succ_pos _

/-- An object is taken with all its fields. -/
theorem takes_obj {fuel depth : Nat} (ih : Takes limits most fuel) {fields : Fields}
    (rest : List Char) (each : FieldsReadable most depth fields)
    (enough : (write (.obj fields)).length ≤ fuel + 1) :
    ∃ entries, FieldsReread fields entries ∧
      readValue limits (fuel + 1) (depth + 1) (write (.obj fields) ++ rest) =
        .ok (.obj (Table.setAll [] entries), rest) := by
  cases fields with
  | nil =>
    refine ⟨[], .nil, ?_⟩
    simp [write, writeFields, readValue, isGap, Table.setAll]
  | cons field fields =>
    obtain ⟨tail, shape⟩ := writeFields_cons field fields
    have whole : write (.obj (field :: fields)) ++ rest =
        '\x7b' :: '"' :: (tail ++ '\x7d' :: rest) := by
      simp [write, shape]
    have fewer : (writeFields (field :: fields)).length < fuel := by
      simp only [write, List.length_cons, List.length_append, List.length_nil] at enough
      omega
    obtain ⟨entries, reread, reads⟩ := ih.fields [] rest each fewer
    rw [shape, List.cons_append] at reads
    refine ⟨entries, reread, ?_⟩
    rw [whole, readValue_brace ⟨rfl, by decide, by decide⟩]
    simp only [reads, bind, Except.bind]
    rfl

theorem takes_value {fuel : Nat} (allows : limits.Allows most) (sixteen : 16 ≤ most)
    (ih : Takes limits most fuel) {depth : Nat} {v : Json} {rest : List Char}
    (readable : Readable most depth v) (enough : (write v).length ≤ fuel + 1)
    (closes : Closes rest) :
    ∃ read, readValue limits (fuel + 1) depth (write v ++ rest) = .ok (read, rest) := by
  cases scalar : v.isScalar with
  | true =>
    rw [readValue_scalar scalar]
    exact exists_readScalar_write allows sixteen readable scalar closes
  | false =>
    have noItems (depth : Nat) : readValue limits (fuel + 1) depth (write (.arr []) ++ rest) =
        .ok (.arr [], rest) := by
      simp [write, writeItems, readValue, isGap]
    have noFields (depth : Nat) : readValue limits (fuel + 1) depth (write (.obj []) ++ rest) =
        .ok (.obj [], rest) := by
      simp [write, writeFields, readValue, isGap]
    cases readable with
    | noItems depth => exact ⟨_, noItems depth⟩
    | noFields depth => exact ⟨_, noFields depth⟩
    | @arr depth items each =>
      cases items with
      | nil => exact ⟨_, noItems _⟩
      | cons item items =>
        -- The first item opens, so the bracket is not taken for that of an empty list.
        obtain ⟨c, tail, shape, opens⟩ := opens_writeItems item items
        have whole : write (.arr (item :: items)) ++ rest = '[' :: c :: (tail ++ ']' :: rest) := by
          simp [write, shape]
        have fewer : (writeItems (item :: items)).length < fuel := by
          simp only [write, List.length_cons, List.length_append, List.length_nil] at enough
          omega
        obtain ⟨read, reads⟩ := ih.items rest each fewer
        rw [shape, List.cons_append] at reads
        refine ⟨.arr read, ?_⟩
        rw [whole, readValue_bracket opens]
        simp only [reads, bind, Except.bind]
        rfl
    | obj each =>
      obtain ⟨entries, -, reads⟩ := takes_obj ih rest each enough
      exact ⟨_, reads⟩
    | _ => simp [isScalar] at scalar

theorem takes_items {fuel : Nat} (ih : Takes limits most fuel) {depth : Nat} {item : Json}
    {items : List Json} (rest : List Char) (each : ∀ v ∈ item :: items, Readable most depth v)
    (enough : (writeItems (item :: items)).length < fuel + 1) :
    ∃ read, readItems limits (fuel + 1) depth (writeItems (item :: items) ++ ']' :: rest) =
      .ok (read, rest) := by
  rw [readItems]
  have first := each item List.mem_cons_self
  cases items with
  | nil =>
    rw [writeItems] at enough ⊢
    obtain ⟨read, reads⟩ := ih.value first (Nat.le_of_lt_succ enough)
      (closes_cons (.inr (.inl rfl)) rest)
    refine ⟨[read], ?_⟩
    simp only [reads, bind, Except.bind, List.dropWhile_cons, isGap]
    rfl
  | cons next items =>
    rw [writeItems_cons] at enough ⊢
    rw [List.length_append, List.length_cons] at enough
    rw [List.append_assoc, List.cons_append]
    obtain ⟨read, reads⟩ := ih.value first (by omega)
      (closes_cons (.inl rfl) (writeItems (next :: items) ++ ']' :: rest))
    obtain ⟨others, readsOthers⟩ := ih.items rest
      (fun v h => each v (List.mem_cons_of_mem _ h)) (by omega)
    have comma (cs : List Char) : (',' :: cs).dropWhile isGap = ',' :: cs := rfl
    refine ⟨read :: others, ?_⟩
    simp only [reads, readsOthers, comma, bind, Except.bind]
    rfl

theorem takes_fields {fuel : Nat} (ih : Takes limits most fuel) {depth : Nat}
    {field : String × Json} {fields : Fields} (known : Fields) (rest : List Char)
    (each : FieldsReadable most depth (field :: fields))
    (enough : (writeFields (field :: fields)).length < fuel + 1) :
    ∃ entries, FieldsReread (field :: fields) entries ∧
      readFields limits (fuel + 1) depth known (writeFields (field :: fields) ++ '\x7d' :: rest) =
        .ok (Table.setAll known entries, rest) := by
  obtain ⟨name, value⟩ := field
  have first : Readable most depth value := each _ List.mem_cons_self
  cases fields with
  | nil =>
    have length := congrArg List.length (writeFields_singleton name value [])
    simp only [List.append_nil, List.length_cons, List.length_append] at length
    rw [writeFields_singleton, readFields_name]
    have closes := closes_cons (.inr (.inr rfl)) rest
    obtain ⟨read, reads⟩ := ih.value first (by omega) closes
    obtain ⟨-, reread⟩ := (rereads limits fuel).value closes reads
    refine ⟨[(name, read)], .cons reread .nil, ?_⟩
    simp only [reads, bind, Except.bind, List.dropWhile_cons, isGap]
    rfl
  | cons next fields =>
    have length := congrArg List.length (writeFields_cons_cons name value next fields [])
    simp only [List.append_nil, List.length_cons, List.length_append] at length
    rw [writeFields_cons_cons, readFields_name]
    have closes := closes_cons (.inl rfl) (writeFields (next :: fields) ++ '\x7d' :: rest)
    obtain ⟨read, reads⟩ := ih.value first (by omega) closes
    obtain ⟨-, reread⟩ := (rereads limits fuel).value closes reads
    obtain ⟨others, same, readsOthers⟩ := ih.fields (known.set name read) rest
      (fun entry h => each entry (List.mem_cons_of_mem _ h)) (by omega)
    refine ⟨(name, read) :: others, .cons reread same, ?_⟩
    simp only [reads, bind, Except.bind, List.dropWhile_cons, isGap]
    exact readsOthers

theorem takes (allows : limits.Allows most) (sixteen : 16 ≤ most) (fuel : Nat) :
    Takes limits most fuel := by
  induction fuel with
  | zero =>
    refine ⟨fun {_ v _} _ enough _ => ?_, fun _ _ enough => ?_, fun _ _ _ enough => ?_⟩
    · exact absurd (write_ne_nil v) (by omega)
    · exact absurd enough (Nat.not_lt_zero _)
    · exact absurd enough (Nat.not_lt_zero _)
  | succ fuel ih => exact ⟨takes_value allows sixteen ih, takes_items ih, takes_fields ih⟩

/-- **A readable object is read** when it is written, with the fields that were written. -/
theorem exists_read {depth : Nat} (allows : limits.Allows most) (sixteen : 16 ≤ most)
    (deep : limits.depth = depth + 1) {fields : Fields} (each : FieldsReadable most depth fields) :
    ∃ entries, FieldsReread fields entries ∧
      Json.read limits (render (.obj fields)) = .ok (.obj (Table.setAll [] entries)) := by
  have enough : (write (.obj fields)).length ≤ (render (.obj fields)).length + 1 := by
    rw [render, String.length_ofList]
    exact Nat.le_succ _
  obtain ⟨entries, reread, reads⟩ :=
    takes_obj (takes allows sixteen (render (.obj fields)).length) [] each enough
  rw [List.append_nil] at reads
  refine ⟨entries, reread, (read_eq_ok_iff _ _ _).2 ⟨[], ?_, rfl⟩⟩
  rw [deep, render, String.toList_ofList]
  exact reads

end Dialogue.Json
