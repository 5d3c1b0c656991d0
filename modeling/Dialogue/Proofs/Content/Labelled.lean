import Mathlib.Data.List.Induction
import Mathlib.Data.List.Perm.Basic
import Dialogue.Content.Grouping
import Dialogue.Proofs.Table

/-!
# Rows under their labels

Rows that carry labels are shown label by label: the labels in the order in which they first occur,
and under each label the rows that carry it, as they were. A title is cut to the limit of the
channel, but it is the label that tells sections apart, so labels that are cut to the same title
have sections of their own.

What puts items label by label is said for items of any kind: nothing is lost, and of two items the
one whose label opens first comes first, and under one label the one that came first.

Main statements: `perm_byLabel` and `pairwise_byLabel`; `groupRows_eq`, the sections of grouped
rows; and `sections_of_groupRows`.
-/

namespace Dialogue

/-! ## Items label by label -/

section ByLabel

variable {α β : Type} (label : α → String) (items : List α)

/-- The labels of some items, in the order in which they first occur. -/
def labels : List String := (items.map label).eraseDups

/-- The items label by label. -/
def byLabel : List α := (labels label items).flatMap fun name => items.filter (label · = name)

/-- The place of the first item with the label of this one. -/
def opening (x : α) : Nat := (items.map label).idxOf (label x)

variable {label items}

theorem mem_labels {name : String} : name ∈ labels label items ↔ ∃ x ∈ items, label x = name := by
  unfold labels
  rw [List.mem_eraseDups, List.mem_map]

theorem eraseDups_concat (names : List String) (last : String) :
    (names ++ [last]).eraseDups =
      if last ∈ names then names.eraseDups else names.eraseDups ++ [last] := by
  rw [List.eraseDups_append]
  by_cases known : last ∈ names
  · simp [List.removeAll, known]
  · simp [List.removeAll, known, List.eraseDups_cons]

/-- **First occurrences are in order**: of two of them the former is found first. -/
theorem pairwise_idxOf_eraseDups (names : List String) :
    names.eraseDups.Pairwise fun a b => names.idxOf a < names.idxOf b := by
  induction names using List.reverseRecOn with
  | nil => simp
  | append_singleton names last ih =>
    have among {a : String} (mem : a ∈ names.eraseDups) : a ∈ names := List.mem_eraseDups.1 mem
    have old : names.eraseDups.Pairwise fun a b =>
        (names ++ [last]).idxOf a < (names ++ [last]).idxOf b := by
      refine ih.imp_of_mem fun {a b} memA memB less => ?_
      rwa [List.idxOf_append_of_mem (among memA), List.idxOf_append_of_mem (among memB)]
    rw [eraseDups_concat]
    split
    · exact old
    · next fresh =>
      refine List.pairwise_append.2 ⟨old, List.pairwise_singleton _ _, fun a memA b memB => ?_⟩
      have before : names.idxOf a < names.length := List.idxOf_lt_length_of_mem (among memA)
      rw [List.mem_singleton.1 memB, List.idxOf_append_of_mem (among memA),
        List.idxOf_append_of_notMem fresh]
      omega

theorem pairwise_labels :
    (labels label items).Pairwise fun a b =>
      (items.map label).idxOf a < (items.map label).idxOf b :=
  pairwise_idxOf_eraseDups _

theorem nodup_labels : (labels label items).Nodup :=
  pairwise_labels.imp fun less same => absurd less (by rw [same]; exact Nat.lt_irrefl _)

theorem perm_flatMap_filter {names : List String} (distinct : names.Nodup) :
    (names.flatMap fun name => items.filter (label · = name)).Perm
      (items.filter (label · ∈ names)) := by
  induction names with
  | nil => simp
  | cons name names ih =>
    rw [List.nodup_cons] at distinct
    have here : (items.filter (label · ∈ name :: names)).filter (label · = name) =
        items.filter (label · = name) := by
      rw [List.filter_filter]
      exact List.filter_congr fun x _ => by grind
    have others : (items.filter (label · ∈ name :: names)).filter (fun x => !label x = name) =
        items.filter (label · ∈ names) := by
      rw [List.filter_filter]
      exact List.filter_congr fun x _ => by grind
    rw [List.flatMap_cons]
    refine (List.Perm.append_left _ (ih distinct.2)).trans ?_
    rw [← here, ← others]
    exact List.filter_append_perm _ _

/-- **Nothing is lost** when items are put label by label. -/
theorem perm_byLabel : (byLabel label items).Perm items := by
  have all : items.filter (label · ∈ labels label items) = items :=
    List.filter_eq_self.2 fun x mem => by
      simpa using mem_labels.2 ⟨x, mem, rfl⟩
  have gathered : (byLabel label items).Perm (items.filter (label · ∈ labels label items)) :=
    perm_flatMap_filter nodup_labels
  rwa [all] at gathered

/-- **The order label by label**: first by where the label opens, then as the items were. -/
theorem pairwise_byLabel {R : α → α → Prop} (ordered : items.Pairwise R) :
    (byLabel label items).Pairwise fun x y =>
      opening label items x < opening label items y ∨
        opening label items x = opening label items y ∧ R x y := by
  refine List.pairwise_flatMap.2 ⟨fun name _ => ?_, ?_⟩
  · refine (ordered.filter _).imp_of_mem fun {x y} memX memY related => .inr ⟨?_, related⟩
    have sameX : label x = name := by simpa using (List.mem_filter.1 memX).2
    have sameY : label y = name := by simpa using (List.mem_filter.1 memY).2
    rw [opening, opening, sameX, sameY]
  · refine pairwise_labels.imp fun {a b} less x memX y memY => .inl ?_
    have sameX : label x = a := by simpa using (List.mem_filter.1 memX).2
    have sameY : label y = b := by simpa using (List.mem_filter.1 memY).2
    rwa [opening, opening, sameX, sameY]

theorem byLabel_map (f : β → α) (items : List β) :
    byLabel label (items.map f) = (byLabel (label ∘ f) items).map f := by
  simp [byLabel, labels, List.map_flatMap, List.filter_map, Function.comp_def]

end ByLabel

/-! ## Sections -/

/-- The label that counts of a labelled row. -/
def labelOf (labelled : Option String × Row) : String := effectiveLabel labelled.1

theorem gather_concat (rows : List (Option String × Row)) (last : Option String × Row) :
    gather (rows ++ [last]) = addRow (gather rows) last := by
  rw [gather, List.foldl_append]
  rfl

/-- The labels under which rows are gathered. -/
theorem keys_gather (rows : List (Option String × Row)) :
    (gather rows).keys = labels labelOf rows := by
  induction rows using List.reverseRecOn with
  | nil => rfl
  | append_singleton rows last ih =>
    rw [gather_concat, addRow, Table.keys_set, ih, labels, labels, List.map_append,
      List.map_singleton, eraseDups_concat]
    simp only [List.mem_eraseDups]
    rfl

/-- The rows under a label. -/
def rowsUnder (rows : List (Option String × Row)) (label : String) : List Row :=
  (rows.filter fun labelled => labelOf labelled = label).map Prod.snd

theorem gather_eq (rows : List (Option String × Row)) :
    gather rows = (labels labelOf rows).map fun label => (label, rowsUnder rows label) := by
  have distinct : (gather rows).keys.Nodup := by
    rw [keys_gather]
    exact nodup_labels
  have own (entry : String × List Row) (mem : entry ∈ gather rows) :
      (entry.1, rowsUnder rows entry.1) = entry := by
    have under := get?_gather rows entry.1
    rw [Table.get?_of_mem distinct mem, Option.getD_some] at under
    rw [rowsUnder, Prod.ext_iff]
    exact ⟨rfl, under.symm⟩
  rw [← keys_gather, Table.keys, List.map_map]
  exact (List.map_id _).symm.trans (List.map_congr_left fun entry mem => (own entry mem).symm)

/-- **Grouped rows** are the sections of their labels, each with the rows under its label. -/
theorem groupRows_eq (rows : List (Option String × Row)) :
    groupRows rows =
      (labels labelOf rows).map fun label => Section.of (some label) (rowsUnder rows label) := by
  rw [groupRows, gather_eq, List.map_map]
  rfl

theorem allRows_groupRows (rows : List (Option String × Row)) :
    allRows (groupRows rows) = (byLabel labelOf rows).map Prod.snd := by
  rw [groupRows_eq, allRows, List.flatMap_map, byLabel, List.map_flatMap]
  rfl

/-- **Grouping rows loses nothing.** There is one section for each label that counts, in the order
in which the labels first occur, and it holds the rows that carry the label, as they were. Together
the sections hold all rows, and none of them is empty. -/
theorem sections_of_groupRows (rows : List (Option String × Row)) :
    ∃ labels : List String,
      (∀ label, label ∈ labels ↔ ∃ labelled ∈ rows, effectiveLabel labelled.1 = label) ∧
      labels.Nodup ∧
      labels.Pairwise (fun former latter =>
        (rows.map fun labelled => effectiveLabel labelled.1).idxOf former <
          (rows.map fun labelled => effectiveLabel labelled.1).idxOf latter) ∧
      groupRows rows = labels.map (fun label =>
        ⟨some (Text.clip 24 label),
          (rows.filter fun labelled => effectiveLabel labelled.1 = label).map Prod.snd⟩) ∧
      (allRows (groupRows rows)).Perm (rows.map Prod.snd) ∧
      ∀ s ∈ groupRows rows, s.rows ≠ [] := by
  refine ⟨labels labelOf rows, fun label => mem_labels, nodup_labels, pairwise_labels,
    groupRows_eq rows, ?_, fun s mem => ?_⟩
  · rw [allRows_groupRows]
    exact perm_byLabel.map _
  · rw [groupRows_eq] at mem
    obtain ⟨label, among, rfl⟩ := List.mem_map.1 mem
    obtain ⟨labelled, listed, carries⟩ := mem_labels.1 among
    exact List.ne_nil_of_mem (List.mem_map_of_mem
      (List.mem_filter.2 ⟨listed, decide_eq_true carries⟩))

/-- A row without a label joins those under the default title; titles that are cut alike do not join
their sections. -/
example (a b c d : Row) :
    groupRows [(none, a), (some "Pisos de gran formato: gris", b), (some "Opciones", c),
      (some "Pisos de gran formato: negro", d)] =
        [⟨some "Opciones", [a, c]⟩, ⟨some "Pisos de gran formato: g", [b]⟩,
          ⟨some "Pisos de gran formato: n", [d]⟩] := by
  simp [groupRows, gather, addRow, Table.set, effectiveLabel, Wording.sectionTitle, Section.of]
  cbv

end Dialogue
