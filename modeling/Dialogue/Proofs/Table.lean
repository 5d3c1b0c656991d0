import Dialogue.Table

/-!
# Tables without repeated keys

Where no key is repeated, an entry is what its key stands for. Setting keeps it that way. Setting
all entries of such a table puts them in front of those that were there, and doing so again changes
nothing.

Main statements: `nodup_keys_set`, `get?_of_mem`, `get?_setAll` and `setAll_setAll`.
-/

namespace Dialogue.Table

variable {α : Type} {table : Table α} {key : String} {value : α}

theorem mem_keys_of_mem {entry : String × α} (mem : entry ∈ table) : entry.1 ∈ table.keys :=
  List.mem_map_of_mem mem

theorem mem_keys_iff : key ∈ table.keys ↔ ∃ value, table.get? key = some value := by
  induction table with
  | nil => simp [keys]
  | cons entry rest ih =>
    obtain ⟨k, v⟩ := entry
    rw [get?_cons, keys, List.map_cons, List.mem_cons, ← keys, ih]
    by_cases same : k = key
    · simp [same]
    · simp [same, Ne.symm same]

theorem get?_eq_none_iff : table.get? key = none ↔ key ∉ table.keys := by
  rw [mem_keys_iff, Option.eq_none_iff_forall_ne_some, not_exists]

theorem set_of_notMem (fresh : key ∉ table.keys) (value : α) :
    table.set key value = table ++ [(key, value)] := by
  induction table with
  | nil => rfl
  | cons entry rest ih =>
    rw [keys, List.map_cons, List.mem_cons, not_or] at fresh
    unfold set
    rw [if_neg (Ne.symm fresh.1), ih fresh.2, List.cons_append]

theorem nodup_keys_set (distinct : table.keys.Nodup) (key : String) (value : α) :
    (table.set key value).keys.Nodup := by
  rw [keys_set]
  split
  · exact distinct
  · next fresh =>
    refine List.nodup_append.2 ⟨distinct, List.pairwise_singleton _ key, ?_⟩
    intro k hk l hl same
    rw [List.mem_singleton.1 hl] at same
    exact fresh (same ▸ hk)

/-- **An entry is what its key stands for** where no key is repeated. -/
theorem get?_of_mem (distinct : table.keys.Nodup) (mem : (key, value) ∈ table) :
    table.get? key = some value := by
  induction table with
  | nil => simp at mem
  | cons entry rest ih =>
    obtain ⟨k, v⟩ := entry
    rw [keys, List.map_cons, List.nodup_cons] at distinct
    rw [get?_cons]
    rcases List.mem_cons.1 mem with same | mem
    · cases same
      rw [if_pos rfl]
    · have other : k ≠ key := by
        have present : key ∈ keys rest := mem_keys_of_mem mem
        rintro rfl
        exact distinct.1 present
      rw [if_neg other, ih distinct.2 mem]

/-- **Setting all entries** of a table puts them in front. -/
theorem get?_setAll (table : Table α) {entries : Table α} (distinct : entries.keys.Nodup)
    (key : String) : (table.setAll entries).get? key = (entries.get? key).or (table.get? key) := by
  induction entries generalizing table with
  | nil => rfl
  | cons entry rest ih =>
    obtain ⟨k, v⟩ := entry
    rw [keys, List.map_cons, List.nodup_cons] at distinct
    show ((table.set k v).setAll rest).get? key = _
    rw [ih _ distinct.2, get?_cons, get?_set]
    by_cases same : k = key
    · rw [if_pos same, if_pos same, get?_eq_none_iff.2 fun mem => distinct.1 (same ▸ mem)]
      rfl
    · rw [if_neg same, if_neg same]

theorem mem_keys_setAll_iff {entries : Table α} (distinct : entries.keys.Nodup) :
    key ∈ (table.setAll entries).keys ↔ key ∈ entries.keys ∨ key ∈ table.keys := by
  simp only [mem_keys_iff, get?_setAll table distinct]
  cases entries.get? key <;> simp

/-- Setting a key to what it stands for changes nothing. -/
theorem set_of_get? (found : table.get? key = some value) : table.set key value = table := by
  induction table with
  | nil => simp at found
  | cons entry rest ih =>
    obtain ⟨k, old⟩ := entry
    rw [get?_cons] at found
    by_cases same : k = key
    · rw [if_pos same, Option.some.injEq] at found
      simp [set, same, found]
    · rw [if_neg same] at found
      simp [set, same, ih found]

theorem setAll_of_get? {entries : Table α}
    (found : ∀ entry ∈ entries, table.get? entry.1 = some entry.2) :
    table.setAll entries = table := by
  induction entries with
  | nil => rfl
  | cons entry rest ih =>
    show (table.set entry.1 entry.2).setAll rest = table
    rw [set_of_get? (found entry List.mem_cons_self)]
    exact ih fun other mem => found other (List.mem_cons_of_mem _ mem)

/-- **Setting all entries twice** is setting them once. -/
theorem setAll_setAll (table : Table α) {entries : Table α} (distinct : entries.keys.Nodup) :
    (table.setAll entries).setAll entries = table.setAll entries := by
  refine setAll_of_get? fun entry mem => ?_
  rw [get?_setAll table distinct, get?_of_mem distinct mem]
  rfl

/-- Setting entries under keys of their own appends them. -/
theorem setAll_of_nodup {entries : Table α} (distinct : (keys (table ++ entries)).Nodup) :
    table.setAll entries = table ++ entries := by
  induction entries generalizing table with
  | nil => exact (List.append_nil table).symm
  | cons entry rest ih =>
    obtain ⟨k, v⟩ := entry
    have fresh : k ∉ table.keys := by
      intro mem
      rw [keys, List.map_append, List.nodup_append] at distinct
      exact distinct.2.2 k mem k List.mem_cons_self rfl
    rw [List.append_cons] at distinct ⊢
    rw [← set_of_notMem fresh v] at distinct ⊢
    exact ih distinct

end Dialogue.Table
