import Dialogue.Proofs.Json.Readable
import Dialogue.Proofs.Table

/-!
# Values that are read back unchanged

A value without fractional numbers is *plain* for a reader when it is nested no deeper than the
reader allows, its integers are not too long, and no object has two fields of one name. A plain
value that is written is read back as it was, by any reader and whatever stands behind it.

The induction is on the fuel, for values, items and fields together, as for the values that are
only known to be readable; here the result is known as well.

Main statement: `read_render`.
-/

namespace Dialogue.Json

/-- A value that a reader takes without a loss, nested at most so deep. -/
inductive Plain (limits : Limits) : Nat → Json → Prop
  | null (depth : Nat) : Plain limits depth .null
  | bool (depth : Nat) (b : Bool) : Plain limits depth (.bool b)
  | int (depth : Nat) {i : Int}
      (short : limits.isTooLong false (Nat.toDigits 10 i.natAbs).length = false) :
      Plain limits depth (.int i)
  | str (depth : Nat) (s : String) : Plain limits depth (.str s)
  | noItems (depth : Nat) : Plain limits depth (.arr [])
  | arr {depth : Nat} {items : List Json} (each : ∀ item ∈ items, Plain limits depth item) :
      Plain limits (depth + 1) (.arr items)
  | noFields (depth : Nat) : Plain limits depth (.obj [])
  | obj {depth : Nat} {fields : Fields} (each : ∀ entry ∈ fields, Plain limits depth entry.2)
      (distinct : (Table.keys fields).Nodup) : Plain limits (depth + 1) (.obj fields)

variable {limits : Limits}

/-! ## Integers -/

theorem ofDigits_toDigits (n : Nat) : ofDigits (Nat.toDigits 10 n) = n := by
  have value : ∀ k < 10, (Nat.digitChar k).toNat - 48 = k := by decide
  induction n using Nat.strongRecOn with
  | _ n ih =>
    rw [Nat.toDigits_eq_if (by decide)]
    split
    · next small =>
      unfold ofDigits
      simp [value n small]
    · next large =>
      have front := ih (n / 10) (by omega)
      unfold ofDigits at front ⊢
      rw [List.foldl_append, front, List.foldl_cons, List.foldl_nil,
        value _ (Nat.mod_lt n (by decide))]
      exact Nat.div_add_mod n 10

/-- Where a value ends, neither a fraction nor an exponent follows. -/
theorem readFraction_of_closes {rest : List Char} (closes : Closes rest) :
    readFraction rest = some (none, rest) ∧ readExponent rest = some (none, rest) := by
  cases rest with
  | nil => exact ⟨rfl, rfl⟩
  | cons c rest => rcases closes c rfl with rfl | rfl | rfl <;> exact ⟨rfl, rfl⟩

theorem readUnsigned_toDigits {n : Nat} (negative : Bool)
    (short : limits.isTooLong false (Nat.toDigits 10 n).length = false) {rest : List Char}
    (closes : Closes rest) :
    readUnsigned limits negative (Nat.toDigits 10 n ++ rest) =
      .ok (.int (if negative then -n else n), rest) := by
  have front := isFront_toDigits n
  have grammar : ¬((Nat.toDigits 10 n).isEmpty = true ∨
      ((Nat.toDigits 10 n).head? = some '0' ∧ (Nat.toDigits 10 n).length ≠ 1)) := by
    rintro (empty | ⟨zero, more⟩)
    · exact front.filled (List.isEmpty_iff.1 empty)
    · exact more (front.lead zero)
  obtain ⟨noFraction, noExponent⟩ := readFraction_of_closes closes
  rw [readUnsigned, spanDigits_append front.all (isDigit_of_closes closes)]
  simp only [if_neg grammar, noFraction, noExponent, orMalformed, bind, Except.bind,
    Option.isSome_none, Bool.or_self, short, Bool.false_eq_true, if_false, ofDigits_toDigits]
  rfl

/-- **A written integer** is read back. -/
theorem readScalar_int {i : Int}
    (short : limits.isTooLong false (Nat.toDigits 10 i.natAbs).length = false)
    {rest : List Char} (closes : Closes rest) :
    readScalar limits ((toString i).toList ++ rest) = .ok (.int i, rest) := by
  have begins (n : Nat) : ∃ c tail, Nat.toDigits 10 n = c :: tail ∧ IsLead c := by
    obtain ⟨c, tail, shape⟩ := List.exists_cons_of_ne_nil (isFront_toDigits n).filled
    exact ⟨c, tail, shape, .inl ((isFront_toDigits n).all c (by simp [shape]))⟩
  cases i with
  | ofNat n =>
    have written : (toString (Int.ofNat n)).toList = Nat.toDigits 10 n := by
      show (toString n).toList = _
      simp
    have reads := readUnsigned_toDigits false short closes
    obtain ⟨c, tail, shape, lead⟩ := begins n
    rw [Int.natAbs_ofNat', shape] at reads
    rw [written, shape, List.cons_append, readScalar_lead limits lead]
    exact reads
  | negSucc n =>
    have written : (toString (Int.negSucc n)).toList = '-' :: Nat.toDigits 10 (n + 1) := by
      show ("-" ++ toString (n + 1)).toList = _
      simp
    have reads := readUnsigned_toDigits true short closes
    obtain ⟨c, tail, shape, lead⟩ := begins (n + 1)
    rw [Int.natAbs_negSucc, Nat.succ_eq_add_one, shape] at reads
    rw [written, shape, List.cons_append, List.cons_append, readScalar_minus limits lead]
    exact reads

/-! ## Values -/

theorem readScalar_of_plain {depth : Nat} {v : Json} (plain : Plain limits depth v)
    (scalar : v.isScalar = true) {rest : List Char} (closes : Closes rest) :
    readScalar limits (write v ++ rest) = .ok (v, rest) := by
  cases plain with
  | null => exact readScalar_null limits rest
  | bool _ b =>
    cases b with
    | true => exact word_append "rue" (.bool true) rest
    | false => exact word_append "alse" (.bool false) rest
  | int _ short => exact readScalar_int short closes
  | str _ s =>
    have whole : write (.str s) ++ rest = '"' :: (s.toList.flatMap writeChar ++ '"' :: rest) := by
      simp [write, writeString]
    rw [whole, readScalar]
    exact readText_writeString limits s rest
  | _ => simp [isScalar] at scalar

/-- The three readers give back what was written, when they have fuel for all its characters. -/
structure Restores (limits : Limits) (fuel : Nat) : Prop where
  value : ∀ {depth : Nat} {v : Json} {rest : List Char}, Plain limits depth v →
    (write v).length ≤ fuel → Closes rest →
      readValue limits fuel depth (write v ++ rest) = .ok (v, rest)
  items : ∀ {depth : Nat} {item : Json} {items : List Json} (rest : List Char),
    (∀ v ∈ item :: items, Plain limits depth v) →
      (writeItems (item :: items)).length < fuel →
        readItems limits fuel depth (writeItems (item :: items) ++ ']' :: rest) =
          .ok (item :: items, rest)
  fields : ∀ {depth : Nat} {field : String × Json} {fields : Fields} (known : Fields)
    (rest : List Char), (∀ entry ∈ field :: fields, Plain limits depth entry.2) →
      (writeFields (field :: fields)).length < fuel →
        readFields limits fuel depth known (writeFields (field :: fields) ++ '\x7d' :: rest) =
          .ok (Table.setAll known (field :: fields), rest)

variable {fuel depth : Nat}

theorem restores_arr (ih : Restores limits fuel) {items : List Json} (rest : List Char)
    (each : ∀ item ∈ items, Plain limits depth item)
    (enough : (write (.arr items)).length ≤ fuel + 1) :
    readValue limits (fuel + 1) (depth + 1) (write (.arr items) ++ rest) =
      .ok (.arr items, rest) := by
  cases items with
  | nil => simp [write, writeItems, readValue, isGap]
  | cons item items =>
    -- The first item opens, so the bracket is not taken for that of an empty list.
    obtain ⟨c, tail, shape, opens⟩ := opens_writeItems item items
    have whole : write (.arr (item :: items)) ++ rest = '[' :: c :: (tail ++ ']' :: rest) := by
      simp [write, shape]
    have fewer : (writeItems (item :: items)).length < fuel := by
      simp only [write, List.length_cons, List.length_append, List.length_nil] at enough
      omega
    have reads := ih.items rest each fewer
    rw [shape, List.cons_append] at reads
    rw [whole, readValue_bracket opens]
    simp only [reads, bind, Except.bind]
    rfl

theorem restores_obj (ih : Restores limits fuel) {fields : Fields} (rest : List Char)
    (each : ∀ entry ∈ fields, Plain limits depth entry.2) (distinct : (Table.keys fields).Nodup)
    (enough : (write (.obj fields)).length ≤ fuel + 1) :
    readValue limits (fuel + 1) (depth + 1) (write (.obj fields) ++ rest) =
      .ok (.obj fields, rest) := by
  cases fields with
  | nil => simp [write, writeFields, readValue, isGap]
  | cons field fields =>
    obtain ⟨tail, shape⟩ := writeFields_cons field fields
    have whole : write (.obj (field :: fields)) ++ rest =
        '\x7b' :: '"' :: (tail ++ '\x7d' :: rest) := by
      simp [write, shape]
    have fewer : (writeFields (field :: fields)).length < fuel := by
      simp only [write, List.length_cons, List.length_append, List.length_nil] at enough
      omega
    have reads := ih.fields [] rest each fewer
    rw [shape, List.cons_append, Table.setAll_of_nodup distinct, List.nil_append] at reads
    rw [whole, readValue_brace ⟨rfl, by decide, by decide⟩]
    simp only [reads, bind, Except.bind]
    rfl

theorem restores_value (ih : Restores limits fuel) {v : Json} {rest : List Char}
    (plain : Plain limits depth v) (enough : (write v).length ≤ fuel + 1)
    (closes : Closes rest) :
    readValue limits (fuel + 1) depth (write v ++ rest) = .ok (v, rest) := by
  cases scalar : v.isScalar with
  | true =>
    rw [readValue_scalar scalar]
    exact readScalar_of_plain plain scalar closes
  | false =>
    cases plain with
    | noItems => simp [write, writeItems, readValue, isGap]
    | noFields => simp [write, writeFields, readValue, isGap]
    | arr each => exact restores_arr ih rest each enough
    | obj each distinct => exact restores_obj ih rest each distinct enough
    | _ => simp [isScalar] at scalar

theorem restores_items (ih : Restores limits fuel) {item : Json} {items : List Json}
    (rest : List Char) (each : ∀ v ∈ item :: items, Plain limits depth v)
    (enough : (writeItems (item :: items)).length < fuel + 1) :
    readItems limits (fuel + 1) depth (writeItems (item :: items) ++ ']' :: rest) =
      .ok (item :: items, rest) := by
  rw [readItems]
  have first := each item List.mem_cons_self
  cases items with
  | nil =>
    rw [writeItems] at enough ⊢
    have reads := ih.value first (Nat.le_of_lt_succ enough) (closes_cons (.inr (.inl rfl)) rest)
    simp only [reads, bind, Except.bind, List.dropWhile_cons, isGap]
    rfl
  | cons next items =>
    rw [writeItems_cons] at enough ⊢
    rw [List.length_append, List.length_cons] at enough
    rw [List.append_assoc, List.cons_append]
    have reads := ih.value first (by omega)
      (closes_cons (.inl rfl) (writeItems (next :: items) ++ ']' :: rest))
    have readsOthers := ih.items rest (fun v h => each v (List.mem_cons_of_mem _ h)) (by omega)
    have comma (cs : List Char) : (',' :: cs).dropWhile isGap = ',' :: cs := rfl
    simp only [reads, readsOthers, comma, bind, Except.bind]
    rfl

theorem restores_fields (ih : Restores limits fuel) {field : String × Json} {fields : Fields}
    (known : Fields) (rest : List Char)
    (each : ∀ entry ∈ field :: fields, Plain limits depth entry.2)
    (enough : (writeFields (field :: fields)).length < fuel + 1) :
    readFields limits (fuel + 1) depth known (writeFields (field :: fields) ++ '\x7d' :: rest) =
      .ok (Table.setAll known (field :: fields), rest) := by
  obtain ⟨name, value⟩ := field
  have first : Plain limits depth value := each _ List.mem_cons_self
  cases fields with
  | nil =>
    have length := congrArg List.length (writeFields_singleton name value [])
    simp only [List.append_nil, List.length_cons, List.length_append] at length
    rw [writeFields_singleton, readFields_name]
    have reads := ih.value first (by omega) (closes_cons (.inr (.inr rfl)) rest)
    simp only [reads, bind, Except.bind, List.dropWhile_cons, isGap]
    rfl
  | cons next fields =>
    have length := congrArg List.length (writeFields_cons_cons name value next fields [])
    simp only [List.append_nil, List.length_cons, List.length_append] at length
    rw [writeFields_cons_cons, readFields_name]
    have reads := ih.value first (by omega)
      (closes_cons (.inl rfl) (writeFields (next :: fields) ++ '\x7d' :: rest))
    have readsOthers := ih.fields (known.set name value) rest
      (fun entry h => each entry (List.mem_cons_of_mem _ h)) (by omega)
    simp only [reads, bind, Except.bind, List.dropWhile_cons, isGap]
    exact readsOthers

theorem restores (limits : Limits) (fuel : Nat) : Restores limits fuel := by
  induction fuel with
  | zero =>
    refine ⟨fun {_ v _} _ enough _ => ?_, fun _ _ enough => ?_, fun _ _ _ enough => ?_⟩
    · exact absurd (write_ne_nil v) (by omega)
    · exact absurd enough (Nat.not_lt_zero _)
    · exact absurd enough (Nat.not_lt_zero _)
  | succ fuel ih => exact ⟨restores_value ih, restores_items ih, restores_fields ih⟩

/-- **A plain value is read back** from its text. -/
theorem read_render {v : Json} (plain : Plain limits limits.depth v) :
    Json.read limits v.render = .ok v := by
  have enough : (write v).length ≤ v.render.length + 1 := by
    rw [render, String.length_ofList]
    exact Nat.le_succ _
  have closes : Closes [] := by
    rintro _ ⟨⟩
  have reads := (restores limits (v.render.length + 1)).value plain enough closes
  rw [List.append_nil] at reads
  refine (read_eq_ok_iff _ _ _).2 ⟨[], ?_, rfl⟩
  rw [show v.render.toList = write v from String.toList_ofList]
  exact reads

end Dialogue.Json
