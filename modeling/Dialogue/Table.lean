/-!
# Ordered tables

A table lists entries under text keys in the order in which the keys were first set. Setting a key
again changes its value and keeps its place.

Main statements: `get?_set_self`, `get?_set_of_ne`, `keys_set` and `get?_erase`.
-/

namespace Dialogue

/-- Entries under text keys, in order. -/
abbrev Table (α : Type) := List (String × α)

namespace Table

variable {α β : Type}

/-- The value of the first entry of a key. -/
def get? (table : Table α) (key : String) : Option α := table.lookup key

/-- Whether a key is present. -/
def has (table : Table α) (key : String) : Bool := (table.get? key).isSome

/-- Sets a key: in its place when it is present, at the end otherwise. -/
def set : Table α → String → α → Table α
  | [], key, value => [(key, value)]
  | (k, old) :: rest, key, value =>
    if k = key then (key, value) :: rest else (k, old) :: set rest key value

/-- The table without the entries of a key. -/
def erase (table : Table α) (key : String) : Table α := table.filter (·.1 ≠ key)

/-- The keys, in order. -/
def keys (table : Table α) : List String := table.map (·.1)

/-- Sets all entries of a list, one after another. -/
def setAll (table : Table α) (entries : List (String × α)) : Table α :=
  entries.foldl (fun t entry => t.set entry.1 entry.2) table

@[simp] theorem get?_nil (key : String) : get? ([] : Table α) key = none := rfl

theorem get?_cons (k key : String) (value : α) (rest : Table α) :
    get? ((k, value) :: rest) key = if k = key then some value else get? rest key := by
  unfold get?
  rw [List.lookup_cons]
  by_cases h : k = key
  · simp [h]
  · have hne : (key == k) = false := by simp [Ne.symm h]
    simp [h, hne]

@[simp] theorem get?_set_self (table : Table α) (key : String) (value : α) :
    (table.set key value).get? key = some value := by
  induction table with
  | nil => simp [set, get?_cons]
  | cons entry rest ih =>
    obtain ⟨k, old⟩ := entry
    by_cases h : k = key <;> simp [set, h, get?_cons, ih]

theorem get?_set_of_ne (table : Table α) {key other : String} (value : α) (h : key ≠ other) :
    (table.set key value).get? other = table.get? other := by
  induction table with
  | nil => simp [set, get?_cons, h]
  | cons entry rest ih =>
    obtain ⟨k, old⟩ := entry
    by_cases hk : k = key
    · subst hk; simp [set, get?_cons, h]
    · simp [set, hk, get?_cons, ih]

theorem get?_set (table : Table α) (key other : String) (value : α) :
    (table.set key value).get? other = if key = other then some value else table.get? other := by
  by_cases h : key = other
  · subst h; simp
  · simp [get?_set_of_ne, h]

theorem mem_of_get? {table : Table α} {key : String} {value : α}
    (h : table.get? key = some value) : (key, value) ∈ table := by
  obtain ⟨before, after, rfl, -⟩ := List.lookup_eq_some_iff.1 h
  simp

theorem mem_of_mem_set {table : Table α} {key : String} {value : α} {entry : String × α}
    (h : entry ∈ table.set key value) : entry = (key, value) ∨ entry ∈ table := by
  induction table with
  | nil =>
    rw [set, List.mem_singleton] at h
    exact .inl h
  | cons first rest ih =>
    obtain ⟨k, old⟩ := first
    unfold set at h
    split at h
    · rcases List.mem_cons.1 h with rfl | h
      · exact .inl rfl
      · exact .inr (List.mem_cons_of_mem _ h)
    · rcases List.mem_cons.1 h with rfl | h
      · exact .inr List.mem_cons_self
      · exact (ih h).imp id (List.mem_cons_of_mem _)

theorem keys_set (table : Table α) (key : String) (value : α) :
    (table.set key value).keys = if key ∈ table.keys then table.keys else table.keys ++ [key] := by
  induction table with
  | nil => simp [set, keys]
  | cons entry rest ih =>
    obtain ⟨k, old⟩ := entry
    by_cases h : k = key
    · subst h; simp [set, keys]
    · simp only [keys] at ih ⊢
      simp only [set, h, if_false, List.map_cons, List.mem_cons, Ne.symm h, false_or, ih]
      by_cases hm : key ∈ List.map (fun x => x.fst) rest <;> simp [hm]

theorem get?_erase (table : Table α) (key other : String) :
    (table.erase key).get? other = if key = other then none else table.get? other := by
  induction table with
  | nil => simp [erase]
  | cons entry rest ih =>
    obtain ⟨k, old⟩ := entry
    simp only [erase] at ih ⊢
    by_cases hk : k = key
    · subst hk
      simp only [List.filter_cons, ne_eq, not_true_eq_false, decide_false, ih, get?_cons,
        Bool.false_eq_true, if_false]
      split <;> rfl
    · simp only [List.filter_cons, ne_eq, hk, not_false_eq_true, decide_true, if_true, get?_cons,
        ih]
      by_cases ho : k = other
      · subst ho; simp [Ne.symm hk]
      · simp [ho]

theorem has_iff (table : Table α) (key : String) :
    table.has key = true ↔ ∃ value, table.get? key = some value := by
  simp [has, Option.isSome_iff_exists]

end Table

end Dialogue
