import Mathlib.Data.List.Forall2
import Dialogue.Proofs.Content.Channel

/-!
# What is left of a list

A list has room for ten rows, in whatever sections they come. Sections are taken one after another
while there is room: one without rows is skipped, and the one in which the room runs out is cut
short. So what is left is simply the first ten rows, each in its own section, and the cap on the
sections adds nothing to the cap on the rows.

Main statements: `titledRows_keepRows`, the rows that are left; `sublist_keepRows`, the sections;
`keepRows_of_fits`, what fits stays; and `firstRows_of_ofList`.
-/

namespace Dialogue

/-- The rows of some sections in order, each with the title of its section. -/
def titledRows (sections : List Section) : List (Option String × Row) :=
  sections.flatMap fun s => s.rows.map fun r => (s.title, r)

/-- The section with its title cut to the limit. -/
def Section.titled (s : Section) : Section := Section.of s.title s.rows

/-- A section shortens another: it has the same title, cut to the limit, and the first of the
other's rows. -/
structure Section.Shortens (kept whole : Section) : Prop where
  title : kept.title = whole.title.map (Text.clip 24)
  rows : kept.rows <+: whole.rows

/-- Nothing of the sections has to be cut or left out. -/
structure SectionsFit (room places : Nat) (sections : List Section) : Prop where
  titles : ∀ s ∈ sections, s.title.map (Text.clip 24) = s.title
  filled : ∀ s ∈ sections, s.rows ≠ []
  rows : (allRows sections).length ≤ room
  sections : sections.length ≤ places

variable {room places : Nat} {sections : List Section}

/-! ## Rows under titles -/

@[simp] theorem titledRows_nil : titledRows [] = [] := rfl

@[simp] theorem titledRows_cons (s : Section) (rest : List Section) :
    titledRows (s :: rest) = s.rows.map (fun r => (s.title, r)) ++ titledRows rest := rfl

@[simp] theorem allRows_cons (s : Section) (rest : List Section) :
    allRows (s :: rest) = s.rows ++ allRows rest := rfl

theorem map_snd_titledRows (sections : List Section) :
    (titledRows sections).map Prod.snd = allRows sections := by
  induction sections with
  | nil => rfl
  | cons s rest ih => simp [ih, Function.comp_def]

theorem map_clip_of_atMost {limit : Nat} {text? : Option String} (short : AtMost limit text?) :
    text?.map (Text.clip limit) = text? := by
  cases text? with
  | none => rfl
  | some text => simp [Text.clip_of_length_le (short text rfl)]

theorem map_titled_of_atMost (titles : ∀ s ∈ sections, AtMost 24 s.title) :
    sections.map Section.titled = sections := by
  induction sections with
  | nil => rfl
  | cons s rest ih =>
    have own : s.titled = s := by
      simp [Section.titled, Section.of, Limit.sectionTitle,
        map_clip_of_atMost (titles s List.mem_cons_self)]
    simp [own, ih fun t mem => titles t (List.mem_cons_of_mem _ mem)]

theorem allRows_map_titled (sections : List Section) :
    allRows (sections.map Section.titled) = allRows sections := by
  induction sections with
  | nil => rfl
  | cons s rest ih => simp [ih, Section.titled, Section.of]

/-! ## The steps of clipping -/

theorem keepRows_of_full (places : Nat) (sections : List Section) :
    keepRows 0 places sections = [] := by
  cases sections <;> simp [keepRows]

theorem keepRows_cons_of_empty (roomy : room ≠ 0) (enough : room ≤ places) {s : Section}
    (empty : s.rows = []) (rest : List Section) :
    keepRows room places (s :: rest) = keepRows room places rest := by
  have open_ : ¬ (room = 0 ∨ places = 0) := by omega
  simp [keepRows, open_, empty]

/-- A section with rows takes its part of the room, and one of the places. -/
theorem keepRows_cons_of_filled (roomy : room ≠ 0) (enough : room ≤ places) {s : Section}
    (filled : s.rows ≠ []) (rest : List Section) :
    keepRows room places (s :: rest) = Section.of s.title (s.rows.take room) ::
      keepRows (room - s.rows.length) (places - 1) rest := by
  have open_ : ¬ (room = 0 ∨ places = 0) := by omega
  have left : room - min room s.rows.length = room - s.rows.length := by omega
  simp [keepRows, open_, filled, left]

/-- Each section that takes a place takes room for a row at least, so that places are left as long
as there is room. -/
theorem room_le_places (enough : room ≤ places) {s : Section} (filled : s.rows ≠ []) :
    room - s.rows.length ≤ places - 1 := by
  have some_ := List.length_pos_iff.2 filled
  omega

/-! ## What is left -/

/-- **The rows that are left** are the first ones, each under the title of its own section. -/
theorem titledRows_keepRows (enough : room ≤ places) (sections : List Section) :
    titledRows (keepRows room places sections) =
      (titledRows (sections.map Section.titled)).take room := by
  induction sections generalizing room places with
  | nil => simp [keepRows]
  | cons s rest ih =>
    by_cases roomy : room = 0
    · subst roomy
      simp [keepRows_of_full]
    by_cases empty : s.rows = []
    · rw [keepRows_cons_of_empty roomy enough empty, ih enough]
      simp [Section.titled, Section.of, empty]
    · rw [keepRows_cons_of_filled roomy enough empty, titledRows_cons,
        ih (room_le_places enough empty)]
      simp [Section.titled, Section.of, List.take_append, List.map_take]

theorem allRows_keepRows (enough : room ≤ places) (sections : List Section) :
    allRows (keepRows room places sections) = (allRows sections).take room := by
  rw [← map_snd_titledRows, titledRows_keepRows enough, List.map_take, map_snd_titledRows,
    allRows_map_titled]

/-- **The sections that are left** shorten some of the given ones, in their order. -/
theorem sublist_keepRows (enough : room ≤ places) (sections : List Section) :
    List.SublistForall₂ Section.Shortens (keepRows room places sections) sections := by
  induction sections generalizing room places with
  | nil => exact .nil
  | cons s rest ih =>
    by_cases roomy : room = 0
    · subst roomy
      rw [keepRows_of_full]
      exact .nil
    by_cases empty : s.rows = []
    · rw [keepRows_cons_of_empty roomy enough empty]
      exact .cons_right (ih enough)
    · rw [keepRows_cons_of_filled roomy enough empty]
      exact .cons ⟨rfl, List.take_prefix _ _⟩ (ih (room_le_places enough empty))

/-- The cap on the sections drops nothing for which there is room. -/
theorem keepRows_eq_of_le {more : Nat} (enough : room ≤ places) (enough' : room ≤ more)
    (sections : List Section) : keepRows room more sections = keepRows room places sections := by
  induction sections generalizing room places more with
  | nil => rfl
  | cons s rest ih =>
    by_cases roomy : room = 0
    · subst roomy
      rw [keepRows_of_full, keepRows_of_full]
    by_cases empty : s.rows = []
    · rw [keepRows_cons_of_empty roomy enough empty, keepRows_cons_of_empty roomy enough' empty,
        ih enough enough']
    · rw [keepRows_cons_of_filled roomy enough empty, keepRows_cons_of_filled roomy enough' empty,
        ih (room_le_places enough empty) (room_le_places enough' empty)]

/-! ## Clipping again -/

/-- **What fits stays** as it is. -/
theorem keepRows_of_fits (fits : SectionsFit room places sections) :
    keepRows room places sections = sections := by
  induction sections generalizing room places with
  | nil => rfl
  | cons s rest ih =>
    have filled := fits.filled s List.mem_cons_self
    have some_ := List.length_pos_iff.2 filled
    have rows := fits.rows
    have few := fits.sections
    rw [allRows_cons, List.length_append] at rows
    rw [List.length_cons] at few
    have whole : s.rows.take room = s.rows := List.take_of_length_le (by omega)
    have own : Section.of s.title s.rows = s := by
      simp [Section.of, Limit.sectionTitle, fits.titles s List.mem_cons_self]
    have rest_ : SectionsFit (room - s.rows.length) (places - 1) rest := {
      titles := fun t mem => fits.titles t (List.mem_cons_of_mem _ mem)
      filled := fun t mem => fits.filled t (List.mem_cons_of_mem _ mem)
      rows := by omega
      sections := by omega }
    have open_ : ¬ (room = 0 ∨ places = 0) := by omega
    simp [keepRows, open_, filled, whole, own, ih rest_]

theorem sectionsFit_keepRows (room places : Nat) (sections : List Section) :
    SectionsFit room places (keepRows room places sections) where
  titles s mem := by
    obtain ⟨t, -, kept, rfl⟩ := exists_of_mem_keepRows mem
    exact map_clip_of_atMost (atMost_map_clip _ t.title)
  filled s mem := rows_ne_nil_of_mem_keepRows mem
  rows := length_allRows_keepRows_le room places sections
  sections := length_keepRows_le room places sections

/-- **A list keeps its first ten rows.** Of any sections, what is shown are the first ten rows of
all, each under the title of its own section, the title cut to its limit. The sections are some of
the given ones in their order, at most ten and none without rows, and more of them would not be
shown if there were places for more. Showing what is shown changes nothing. -/
theorem firstRows_of_ofList (frame : Frame) (label : String) (sections : List Section) :
    ∃ kept, Content.ofList frame label sections = .list frame (Text.clip 20 label) kept ∧
      allRows kept = (allRows sections).take 10 ∧
      titledRows kept = (titledRows (sections.map Section.titled)).take 10 ∧
      ((∀ s ∈ sections, AtMost 24 s.title) → titledRows kept = (titledRows sections).take 10) ∧
      List.SublistForall₂ Section.Shortens kept sections ∧
      (∀ s ∈ kept, s.rows ≠ []) ∧
      kept.length ≤ 10 ∧
      (∀ places, 10 ≤ places → keepRows 10 places sections = kept) ∧
      Content.ofList frame (Text.clip 20 label) kept = Content.ofList frame label sections := by
  have titled := titledRows_keepRows (Nat.le_refl 10) sections
  refine ⟨keepRows 10 10 sections, rfl, allRows_keepRows (Nat.le_refl 10) sections, titled, ?_,
    sublist_keepRows (Nat.le_refl 10) sections, ?_, length_keepRows_le 10 10 sections, ?_, ?_⟩
  · intro titles
    rw [titled, map_titled_of_atMost titles]
  · intro s mem
    exact rows_ne_nil_of_mem_keepRows mem
  · intro places enough
    exact keepRows_eq_of_le (Nat.le_refl 10) enough sections
  · have again := keepRows_of_fits (sectionsFit_keepRows 10 10 sections)
    simp [Content.ofList, Limit.rows, Limit.sections, Limit.listLabel, again, Text.clip_clip]

/-- Four sections of four rows: of the third two rows are left, and of the fourth none. -/
example :
    (keepRows 10 10 ((List.range 4).map fun i =>
      ⟨some (toString i), List.replicate 4 ⟨"r", "Row", none⟩⟩)).map (·.rows.length) =
        [4, 4, 2] := by
  rfl

end Dialogue
