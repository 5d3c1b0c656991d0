import Mathlib
import Dialogue.Definition.Build
import Dialogue.Flow.Turn
import Dialogue.Proofs.Content.Clipping
import Dialogue.Proofs.Content.Labelled
import Dialogue.Proofs.Definition.Accepted
import Dialogue.Proofs.Effect
import Dialogue.Store.Directory

/-!
# The options that a list displays

The options of a step are ranked by their order, and within one order by the place at which they are
written. A list displays them section by section: the sections in the order in which they open, that
is by the option of theirs that ranks first, and the options of a section as they rank. There is
room for ten, so what is shown are the ten that are displayed first.

These need not be the ten that rank first. An option that ranks behind them is displayed before one
of them when its section opens before the section of that one, and then it takes its room.

Main statements: `mem_take_iff_of_pairwise`, when the first of two orders are the same;
`allRows_written`, the rows of a list; and `displays_of_list`.
-/

namespace Dialogue

open Effect

/-- What comes first comes before all that is left. -/
theorem forall_take_drop_of_pairwise {α : Type} {R : α → α → Prop} {xs : List α}
    (ordered : xs.Pairwise R) (k : Nat) : ∀ x ∈ xs.take k, ∀ y ∈ xs.drop k, R x y := by
  rw [← List.take_append_drop k xs] at ordered
  exact (List.pairwise_append.1 ordered).2.2

/-- Of two orders of the same things the first `k` are the same when, of the first `k` by the one,
each comes before all that are left also by the other. -/
theorem mem_take_iff_of_pairwise {α : Type} {R : α → α → Prop} {xs ys : List α}
    (asymm : ∀ x y, R x y → ¬ R y x) (perm : xs.Perm ys) (distinct : ys.Nodup)
    (ordered : xs.Pairwise R) (k : Nat) :
    (∀ x, x ∈ xs.take k ↔ x ∈ ys.take k) ↔ ∀ x ∈ ys.take k, ∀ y ∈ ys.drop k, R x y := by
  have apart := forall_take_drop_of_pairwise ordered k
  have part {x : α} (mem : x ∈ ys) : x ∈ xs.take k ∨ x ∈ xs.drop k := by
    rw [← List.mem_append, List.take_append_drop]
    exact perm.mem_iff.2 mem
  have disjoint {x : α} (inside : x ∈ ys.take k) (outside : x ∈ ys.drop k) : False :=
    List.disjoint_take_drop distinct (Nat.le_refl k) inside outside
  constructor
  · intro same x first y other
    refine apart x ((same x).2 first) y ((part (List.mem_of_mem_drop other)).resolve_left ?_)
    intro mem
    exact disjoint ((same y).1 mem) other
  · intro before
    have length : (xs.take k).length = (ys.take k).length := by
      rw [List.length_take, List.length_take, perm.length_eq]
    have subset : xs.take k ⊆ ys.take k := by
      intro x shown
      by_contra missing
      have other : x ∈ ys.drop k := by
        have mem := perm.mem_iff.1 (List.mem_of_mem_take shown)
        rw [← List.take_append_drop k ys, List.mem_append] at mem
        exact mem.resolve_left missing
      -- All of the first by the one order are shown, and there is no room left for another.
      have all : x :: ys.take k ⊆ xs.take k := by
        refine List.cons_subset.2 ⟨shown, fun y first => ?_⟩
        refine (part (List.mem_of_mem_take first)).resolve_right fun late => ?_
        exact asymm x y (apart x shown y late) (before y first x other)
      have distinct' : (x :: ys.take k).Nodup :=
        List.nodup_cons.2 ⟨missing, distinct.sublist (List.take_sublist k ys)⟩
      have room := (distinct'.subperm all).length_le
      rw [List.length_cons] at room
      omega
    have shown : (xs.take k).Nodup := (perm.nodup_iff.2 distinct).sublist (List.take_sublist k xs)
    exact fun x => ((shown.subperm subset).perm_of_length_le (Nat.le_of_eq length.symm)).mem_iff

namespace Definition

/-! ## Ranking -/

/-- An option, with the place at which it is written, ranks before another. -/
def RanksBefore (a b : Choice × Nat) : Prop :=
  a.1.order < b.1.order ∨ a.1.order = b.1.order ∧ a.2 < b.2

instance (a b : Choice × Nat) : Decidable (RanksBefore a b) :=
  inferInstanceAs (Decidable (_ ∨ _))

/-- The row of an option. -/
def Choice.row (c : Choice) : Row := Row.of c.id c.title c.description

/-- The section of an option. -/
def section? (option : Choice × Nat) : String := effectiveLabel option.1.sectionTitle

namespace Step

/-- The options as they rank, each with the place at which it is written. -/
def ranked (s : Step) : List (Choice × Nat) :=
  s.choices.zipIdx.mergeSort fun a b => ¬ RanksBefore b a

/-- The rank at which the section of an option opens. -/
def opens (s : Step) (option : Choice × Nat) : Nat := opening section? s.ranked option

/-- An option is displayed before another: in a section that opens before, or before it in the same
section. -/
def DisplaysBefore (s : Step) (a b : Choice × Nat) : Prop :=
  s.opens a < s.opens b ∨ s.opens a = s.opens b ∧ RanksBefore a b

variable (s : Step)

/-- The ranked options are the sorted ones. -/
theorem map_fst_ranked : s.ranked.map Prod.fst = s.sortedChoices := by
  have same : (fun a b => Decidable.decide (¬ RanksBefore b a)) =
      List.zipIdxLE fun a b : Choice => Decidable.decide (a.order ≤ b.order) := by
    funext a b
    simp only [RanksBefore, List.zipIdxLE]
    grind
  rw [ranked, same]
  exact List.mergeSort_zipIdx

theorem perm_ranked : s.ranked.Perm s.choices.zipIdx := List.mergeSort_perm _ _

/-- No two options are written at one place. -/
theorem nodup_map_snd_ranked : (s.ranked.map Prod.snd).Nodup := by
  refine (s.perm_ranked.map Prod.snd).nodup_iff.2 ?_
  rw [List.zipIdx_map_snd]
  exact List.nodup_range'

theorem nodup_ranked : s.ranked.Nodup :=
  List.Nodup.of_map Prod.snd s.nodup_map_snd_ranked

theorem pairwise_ranked : s.ranked.Pairwise RanksBefore := by
  have sorted : s.ranked.Pairwise fun a b => Decidable.decide (¬ RanksBefore b a) = true := by
    refine List.pairwise_mergeSort (fun a b c => ?_) (fun a b => ?_) _
    · simp only [decide_eq_true_eq]
      unfold RanksBefore
      omega
    · simp only [Bool.or_eq_true, decide_eq_true_eq]
      unfold RanksBefore
      omega
  have apart : s.ranked.Pairwise fun a b => a.2 ≠ b.2 := List.pairwise_map.1 s.nodup_map_snd_ranked
  refine (sorted.and apart).imp fun {a b} both => ?_
  rw [decide_eq_true_eq] at both
  unfold RanksBefore at both ⊢
  omega

/-! ## Displaying -/

theorem not_displaysBefore {a b : Choice × Nat} (before : s.DisplaysBefore a b) :
    ¬ s.DisplaysBefore b a := by
  unfold DisplaysBefore RanksBefore at *
  omega

/-- Of options that rank one before the other, the first is displayed before the other unless the
section of the other opens before. -/
theorem displaysBefore_iff {a b : Choice × Nat} (ranks : RanksBefore a b) :
    s.DisplaysBefore a b ↔ s.opens a ≤ s.opens b := by
  unfold DisplaysBefore
  rw [Nat.le_iff_lt_or_eq]
  exact or_congr_right (and_iff_left ranks)

/-- The options as they are displayed. -/
def displayed : List (Choice × Nat) := byLabel section? s.ranked

theorem perm_displayed : s.displayed.Perm s.ranked := perm_byLabel

theorem pairwise_displayed : s.displayed.Pairwise s.DisplaysBefore :=
  pairwise_byLabel s.pairwise_ranked

variable {s}

/-- What a list step shows, as long as it has options. -/
theorem written_of_list (list : s.kind = .list) (filled : s.choices ≠ []) :
    s.written = .ofList (Frame.of s.body s.header s.footer) s.label
      (groupRows (s.sortedChoices.map fun c => (c.sectionTitle, c.row))) := by
  unfold written
  cases sorted : s.sortedChoices with
  | nil =>
    have none_ := s.sortedChoices_perm
    rw [sorted] at none_
    exact absurd none_.nil_eq.symm filled
  | cons c choices =>
    rw [list]
    rfl

/-- **The rows of a list** are those of the options that are displayed first. -/
theorem allRows_written (s : Step) :
    allRows (keepRows 10 10 (groupRows (s.sortedChoices.map fun c => (c.sectionTitle, c.row)))) =
      (s.displayed.take 10).map fun option => option.1.row := by
  rw [allRows_keepRows (Nat.le_refl 10), allRows_groupRows, ← s.map_fst_ranked, List.map_map,
    byLabel_map, List.map_map, ← List.map_take]
  rfl

/-- A list step with options shows its list to every recipient. -/
theorem runFrom_render_list (list : s.kind = .list) (unsourced : present? s.source = none)
    (filled : s.choices ≠ []) (source : OptionSource) {address : Address}
    (addressed : address.recipient ≠ "") (b : Backend) (data : Fields) :
    runFrom b (Turn.render address (s.toStep source) data) =
      (.ok ⟨address.recipient, s.written, address.via⟩, b) := by
  have prompt : (s.toStep source).prompt = .fixed s.written := by
    unfold toStep Step.prompt
    rw [unsourced]
  have tappable : allRows (keepRows 10 10 (groupRows (s.sortedChoices.map fun c =>
      (c.sectionTitle, c.row)))) ≠ [] := by
    rw [allRows_written, List.ne_nil_iff_length_pos, List.length_map, List.length_take,
      s.perm_displayed.length_eq, s.perm_ranked.length_eq, List.length_zipIdx]
    have some_ := List.length_pos_iff.2 filled
    omega
  have delivered : s.written.deliverable = s.written := by
    rw [written_of_list list filled]
    exact if_neg fun none_ => tappable (List.length_eq_zero_iff.1 none_)
  have made : Message.make address.recipient s.written address.via =
      .ok ⟨address.recipient, s.written, address.via⟩ := by
    unfold Message.make
    rw [if_neg addressed, delivered]
  unfold Turn.render Dialogue.Step.render Dialogue.Step.content
  rw [prompt]
  show runFrom b (Lookup.ofExcept (Message.make address.recipient s.written address.via)) = _
  rw [made]
  rfl

end Step

/-- **A list shows what it displays first.** The options are displayed section by section, the
sections as they open and the options of a section as they rank. A list step without a source of
options shows the ten that are displayed first, none of them after one that is dropped. These are
the ten that rank first if and only if no option that ranks behind them belongs to a section that
opens before the section of one of them. -/
theorem displays_of_list {s : Step} (list : s.kind = .list) (unsourced : present? s.source = none)
    (filled : s.choices ≠ []) (source : OptionSource) :
    (s.ranked.Perm s.choices.zipIdx ∧ s.ranked.Pairwise RanksBefore) ∧
    ∃ (displayed : List (Choice × Nat)) (sections : List Section),
      (displayed.Perm s.ranked ∧ displayed.Pairwise s.DisplaysBefore) ∧
      (∀ (b : Backend) (address : Address) (data : Fields), address.recipient ≠ "" →
        runFrom b (Turn.render address (s.toStep source) data) =
          (.ok ⟨address.recipient,
            .list (Frame.of s.body s.header s.footer) (Text.clip 20 s.label) sections,
            address.via⟩, b)) ∧
      allRows sections = (displayed.take 10).map (fun option => option.1.row) ∧
      (∀ shown ∈ displayed.take 10, ∀ dropped ∈ displayed.drop 10,
        s.DisplaysBefore shown dropped) ∧
      ((∀ option, option ∈ displayed.take 10 ↔ option ∈ s.ranked.take 10) ↔
        ∀ first ∈ s.ranked.take 10, ∀ other ∈ s.ranked.drop 10,
          s.opens first ≤ s.opens other) := by
  refine ⟨⟨s.perm_ranked, s.pairwise_ranked⟩, s.displayed, _,
    ⟨s.perm_displayed, s.pairwise_displayed⟩, fun b address data addressed => ?_,
    Step.allRows_written s, forall_take_drop_of_pairwise s.pairwise_displayed 10, ?_⟩
  · rw [Step.runFrom_render_list list unsourced filled source addressed,
      Step.written_of_list list filled]
    rfl
  · rw [mem_take_iff_of_pairwise (fun a b => s.not_displaysBefore) s.perm_displayed
      s.nodup_ranked s.pairwise_displayed]
    refine forall₂_congr fun first early => forall₂_congr fun other late => ?_
    exact s.displaysBefore_iff
      (forall_take_drop_of_pairwise s.pairwise_ranked 10 first early other late)

/-- A list step with eleven options: the first and the last are in one section, the others in
another. -/
def catalogue : Step :=
  { Step.plain "browse" "What is it about?" with
    kind := .list
    expects := .list
    choices := ["a", "b", "c", "d", "e", "f", "g", "h", "i", "j", "k"].map fun id =>
      ⟨id, id, none, some (if id = "a" ∨ id = "k" then "Tiles" else "Paint"), 0⟩ }

theorem ranked_catalogue :
    catalogue.ranked = (catalogue.choices.zipIdx : List (Choice × Nat)) := by cbv

set_option maxRecDepth 20000 in
theorem displays_of_list_catalogue :
    catalogue.kind = .list ∧ present? catalogue.source = none ∧ catalogue.choices ≠ [] ∧
      ∃ (displayed : List (Choice × Nat)) (sections : List Section),
        (∀ (b : Backend) (address : Address) (data : Fields), address.recipient ≠ "" →
          runFrom b (Turn.render address (catalogue.toStep Store.options) data) =
            (.ok ⟨address.recipient,
              .list (Frame.of "What is it about?" none none) "Ver opciones" sections,
              address.via⟩, b)) ∧
        allRows sections = (displayed.take 10).map (fun option => option.1.row) ∧
        ¬ ∀ option, option ∈ displayed.take 10 ↔ option ∈ catalogue.ranked.take 10 := by
  have filled : catalogue.choices ≠ [] := by decide
  obtain ⟨-, displayed, sections, -, renders, rows, -, same⟩ :=
    displays_of_list (s := catalogue) rfl rfl filled Store.options
  refine ⟨rfl, rfl, filled, displayed, sections, renders, rows, fun first => ?_⟩
  have before := same.1 first
    (⟨"j", "j", none, some "Paint", 0⟩, 9) (by rw [ranked_catalogue]; decide)
    (⟨"k", "k", none, some "Tiles", 0⟩, 10) (by rw [ranked_catalogue]; decide)
  exact absurd before (by cbv)

set_option maxRecDepth 20000 in
/-- The definition is accepted and its flow starts with the list, but of the ten options that rank
first the last is dropped: the one behind it is in a section that opens before. -/
theorem not_ranked_catalogue :
    (plain "shop" [catalogue]).check none = .ok none ∧
      ∃ flow frame label sections c,
        (plain "shop" [catalogue]).toFlow? Store.options none = .ok (some flow) ∧
        runFrom {} (Turn.start [("shop", flow)] ⟨"549", none⟩ (some "shop") []) =
          (.ok (some ⟨.started, ⟨"549", .list frame label sections, none⟩, "shop", some "browse",
            []⟩), c) ∧
        (allRows sections).map Row.id = ["a", "k", "b", "c", "d", "e", "f", "g", "h", "i"] ∧
        ¬ ∀ row, row ∈ allRows sections ↔
          ∃ option ∈ catalogue.ranked.take 10, option.1.row = row := by
  refine ⟨by cbv, _, _, _, _, _, by cbv, by cbv, by cbv, fun same => ?_⟩
  have ids : (catalogue.ranked.take 10).map (·.1.id) =
      ["a", "b", "c", "d", "e", "f", "g", "h", "i", "j"] := by cbv
  obtain ⟨option, mem, row⟩ := (same ⟨"k", "k", none⟩).1 (by decide)
  have among : option.1.id ∈ (catalogue.ranked.take 10).map (·.1.id) := List.mem_map_of_mem mem
  rw [ids, show option.1.id = "k" from congrArg Row.id row] at among
  exact absurd among (by decide)

end Definition

end Dialogue
