import Dialogue.Database.Basic
import Mathlib.Algebra.Order.Ring.Unbundled.Rat
import Mathlib.Data.Prod.Lex
import Mathlib.Data.String.Basic

/-!
# Sorted documents

Values are compared by their rank, numbers then by their size and texts by their characters. These
three make a key, so documents that are selected in an order stand by their keys, and all of them
are selected unless there are too many.

Main statements: `sortsBefore_iff`, `Database.pairwise_select` and `Database.mem_select_iff`.
-/

namespace Dialogue

/-! ## Values -/

/-- A finite number has a denominator. -/
theorem Binary64.den_pos_of_toRatio? {x : Binary64} {q : Int × Nat} (ratio : x.toRatio? = some q) :
    0 < q.2 := by
  match x, ratio with
  | .finite _ _ (.ofNat _), ratio =>
    cases ratio
    exact Nat.one_pos
  | .finite _ _ (.negSucc _), ratio =>
    cases ratio
    exact Nat.pow_pos (by decide)

theorem den_pos_quotient (value : Json) : 0 < (quotient value).2 := by
  cases value with
  | float x =>
    show 0 < (x.toRatio?.getD _).2
    cases ratio : x.toRatio? with
    | none => cases x <;> exact Nat.one_pos
    | some q => exact Binary64.den_pos_of_toRatio? ratio
  | null | bool _ | int _ | str _ | arr _ | obj _ => exact Nat.one_pos

/-- The size of a value; what is no number has the size zero. -/
def Json.size (value : Json) : ℚ := Rat.divInt (quotient value).1 (quotient value).2

/-- Numbers are compared by their size. -/
theorem Json.size_le_size_iff (a b : Json) :
    a.size ≤ b.size ↔ (quotient a).1 * (quotient b).2 ≤ (quotient b).1 * (quotient a).2 :=
  Rat.divInt_le_divInt (Int.natCast_pos.2 (den_pos_quotient a))
    (Int.natCast_pos.2 (den_pos_quotient b))

theorem Json.size_str (s : String) : (Json.str s).size = 0 := Rat.zero_divInt 1

theorem Json.size_null : Json.null.size = 0 := Rat.zero_divInt 1

theorem Json.size_float {x : Binary64} {q : Int × Nat} (ratio : x.toRatio? = some q) :
    (Json.float x).size = Rat.divInt q.1 q.2 := by
  show Rat.divInt (x.toRatio?.getD _).1 (x.toRatio?.getD _).2 = _
  rw [ratio]
  rfl

/-- The characters of a value; what is no text has none. -/
def Json.characters : Json → String
  | .str s => s
  | .null | .bool _ | .int _ | .float _ | .arr _ | .obj _ => ""

/-- What a value is sorted by: its rank, its size, its characters. -/
def sortKey (value : Option Json) : ℕ ×ₗ ℚ ×ₗ String :=
  toLex (sortRank value, toLex (value.elim 0 Json.size, value.elim "" Json.characters))

/-- Only texts have the rank of a text. -/
theorem exists_str_of_sortRank {value : Json} (rank : sortRank (some value) = 2) :
    ∃ s, value = .str s := by
  cases value with
  | str s => exact ⟨s, rfl⟩
  | null | bool _ | int _ | float _ | arr _ | obj _ => cases rank

theorem characters_of_sortRank {value : Json} (rank : sortRank (some value) ≠ 2) :
    value.characters = "" := by
  cases value with
  | str s => exact absurd rfl rank
  | null | bool _ | int _ | float _ | arr _ | obj _ => rfl

/-- A missing value and null have neither size nor characters. -/
theorem unset_of_sortRank {value : Option Json} (rank : sortRank value = 0) :
    value.elim 0 Json.size = 0 ∧ value.elim "" Json.characters = "" := by
  match value, rank with
  | none, _ => exact ⟨rfl, rfl⟩
  | some .null, _ => exact ⟨Json.size_null, rfl⟩

/-- **Values are sorted by their keys.** -/
theorem sortsBefore_iff {a b : Option Json} :
    sortsBefore a b = true ↔ sortKey a ≤ sortKey b := by
  unfold sortsBefore sortKey
  rw [Prod.Lex.toLex_le_toLex, Prod.Lex.toLex_le_toLex, Bool.or_eq_true, Bool.and_eq_true,
    decide_eq_true_eq, decide_eq_true_eq]
  refine or_congr_right (and_congr_right fun level => ?_)
  split
  · next s t => simp [Json.size_str, Json.characters]
  · next x y apart =>
    -- Two values of one rank are both texts, and then they are compared as such, or none is.
    have unread : x.characters = "" ∧ y.characters = "" := by
      by_cases rank : sortRank (some y) = 2
      · obtain ⟨s, rfl⟩ := exists_str_of_sortRank (level.trans rank)
        obtain ⟨t, rfl⟩ := exists_str_of_sortRank rank
        exact (apart s t rfl rfl).elim
      · exact ⟨characters_of_sortRank (level ▸ rank), characters_of_sortRank rank⟩
    simp [unread, ← le_iff_lt_or_eq, Json.size_le_size_iff]
  · next apart unpaired =>
    have rank : sortRank a = 0 := by
      cases a with
      | none => rfl
      | some x =>
        cases b with
        | none => exact level
        | some y => exact (unpaired x y rfl rfl).elim
    obtain ⟨sizeA, charactersA⟩ := unset_of_sortRank rank
    obtain ⟨sizeB, charactersB⟩ := unset_of_sortRank (level ▸ rank)
    simp [sizeA, sizeB, charactersA, charactersB]

/-- What stands in front of another value has a lower rank, or the same rank and no greater
size. -/
theorem sortRank_lt_or_of_sortsBefore {a b : Option Json} (before : sortsBefore a b = true) :
    sortRank a < sortRank b ∨
      sortRank a = sortRank b ∧ a.elim 0 Json.size ≤ b.elim 0 Json.size := by
  have key := sortsBefore_iff.1 before
  unfold sortKey at key
  rw [Prod.Lex.toLex_le_toLex, Prod.Lex.toLex_le_toLex] at key
  refine key.imp_right fun ⟨level, sizes⟩ => ⟨level, ?_⟩
  rcases sizes with smaller | ⟨same, -⟩
  · exact le_of_lt smaller
  · exact le_of_eq same

theorem sortsBefore_trans {a b c : Option Json} (first : sortsBefore a b = true)
    (second : sortsBefore b c = true) : sortsBefore a c = true :=
  sortsBefore_iff.2 (le_trans (sortsBefore_iff.1 first) (sortsBefore_iff.1 second))

theorem sortsBefore_total (a b : Option Json) :
    sortsBefore a b = true ∨ sortsBefore b a = true :=
  (le_total (sortKey a) (sortKey b)).imp sortsBefore_iff.2 sortsBefore_iff.2

/-! ## Documents -/

theorem Order.allows_trans (order : Order) (a b c : Fields) (first : order.allows a b = true)
    (second : order.allows b c = true) : order.allows a c = true := by
  obtain ⟨field, descending⟩ := order
  cases descending with
  | true => exact sortsBefore_trans second first
  | false => exact sortsBefore_trans first second

theorem Order.allows_total (order : Order) (a b : Fields) :
    (order.allows a b || order.allows b a) = true := by
  unfold allows
  rw [Bool.or_eq_true]
  cases order.descending with
  | true => exact (sortsBefore_total _ _).symm
  | false => exact sortsBefore_total _ _

namespace Database

variable {db : Database} {collection : Collection} {query : Query} {order : Option Order}
  {doc : Fields}

/-- The query for the documents that are in use. -/
def activeOnly : Query := [("isActive", .value (.bool true))]

theorem holds_activeOnly_iff :
    activeOnly.holds doc = true ↔ Table.get? doc "isActive" = some (.bool true) := by
  simp [activeOnly, Query.holds, Wanted.holds]

/-- **Selected documents stand in their order.** -/
theorem pairwise_select (db : Database) (collection : Collection) (query : Query) (order : Order) :
    (db.select collection query (some order)).Pairwise fun a b => order.allows a b = true :=
  (List.pairwise_mergeSort order.allows_trans order.allows_total _).sublist
    (List.take_sublist _ _)

/-- **All documents that satisfy a query are selected**, unless there are too many. -/
theorem mem_select_iff
    (few : ((db.documents collection).filter query.holds).length ≤ readLimit) :
    doc ∈ db.select collection query order ↔
      doc ∈ db.documents collection ∧ query.holds doc = true := by
  have all : (sortBy order ((db.documents collection).filter query.holds)).length ≤ readLimit := by
    cases order with
    | none => exact few
    | some order => exact (List.length_mergeSort ..).trans_le few
  unfold select
  rw [List.take_of_length_le all, mem_sortBy, List.mem_filter]

end Database

end Dialogue
