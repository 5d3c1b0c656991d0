import Dialogue.Message

/-!
# Contents that the channel takes

The channel refuses a message when one of its texts is too long, when it has too many buttons or
rows, and when it has none to tap. Contents are *made* from texts that are cut to the limits. A made
content may still offer nothing; what is delivered then is its text. A notice above the text is cut
together with it, and leaves what can be tapped.

Main statements: `suits_deliverable` and `suits_withNotice`.
-/

namespace Dialogue

/-! ## Made contents -/

/-- The button was cut to the limits. -/
def Button.IsMade (b : Button) : Prop := ∃ id title, b = Button.of id title

/-- The row was cut to the limits. -/
def Row.IsMade (r : Row) : Prop := ∃ id title description, r = Row.of id title description

/-- The rows of all sections were cut to the limits. -/
def RowsMade (sections : List Section) : Prop := ∀ s ∈ sections, ∀ r ∈ s.rows, r.IsMade

/-- A content that was put together from parts, each cut to the limits. -/
inductive Content.IsMade : Content → Prop
  | text (body : String) : IsMade (.ofText body)
  | buttons (body : String) (header footer : Option String) {choices : List Button}
      (each : ∀ b ∈ choices, b.IsMade) : IsMade (.ofButtons (Frame.of body header footer) choices)
  | list (body : String) (header footer : Option String) (label : String) {sections : List Section}
      (each : RowsMade sections) : IsMade (.ofList (Frame.of body header footer) label sections)

/-! ## The limits of the channel -/

/-- An optional text of at most so many characters. -/
def AtMost (limit : Nat) (text? : Option String) : Prop := ∀ text ∈ text?, text.length ≤ limit

/-- The texts around buttons or a list suit the channel. -/
structure Frame.Suits (f : Frame) : Prop where
  body : f.body.length ≤ 1024
  header : AtMost 60 f.header
  footer : AtMost 60 f.footer

/-- The buttons of a message suit the channel. -/
structure ButtonsSuit (choices : List Button) : Prop where
  some : 1 ≤ choices.length
  few : choices.length ≤ 3
  each : ∀ b ∈ choices, b.id.length ≤ 256 ∧ b.title.length ≤ 20

/-- The sections of a list suit the channel. -/
structure SectionsSuit (sections : List Section) : Prop where
  some : 1 ≤ sections.length
  few : sections.length ≤ 10
  each : ∀ s ∈ sections, s.rows ≠ [] ∧ AtMost 24 s.title
  someRows : 1 ≤ (allRows sections).length
  fewRows : (allRows sections).length ≤ 10
  eachRow : ∀ r ∈ allRows sections, r.title.length ≤ 24 ∧ AtMost 72 r.description

/-- The channel takes a content. -/
def Content.Suits : Content → Prop
  | .text body => body.length ≤ 4096
  | .buttons frame choices => frame.Suits ∧ ButtonsSuit choices
  | .list frame label sections => frame.Suits ∧ label.length ≤ 20 ∧ SectionsSuit sections

/-! ## What is cut suits -/

theorem atMost_map_clip (limit : Nat) (text? : Option String) :
    AtMost limit (text?.map (Text.clip limit)) := by
  intro text mem
  obtain ⟨whole, -, rfl⟩ := Option.map_eq_some_iff.1 mem
  exact Text.length_clip_le limit whole

theorem Frame.suits_of (body : String) (header footer : Option String) :
    (Frame.of body header footer).Suits :=
  ⟨Text.length_clip_le _ body, atMost_map_clip _ header, atMost_map_clip _ footer⟩

theorem buttonsSuit_take {choices : List Button} (filled : choices ≠ [])
    (each : ∀ b ∈ choices, b.IsMade) : ButtonsSuit (choices.take Limit.buttons) where
  some := by
    have count := List.length_pos_iff.2 filled
    rw [List.length_take]
    exact Nat.le_min.2 ⟨by decide, count⟩
  few := List.length_take_le ..
  each b mem := by
    obtain ⟨id, title, rfl⟩ := each b (List.mem_of_mem_take mem)
    exact ⟨Text.length_clip_le _ id, Text.length_clip_le _ title⟩

/-- What is kept of sections comes from them. -/
theorem exists_of_mem_keepRows {room places : Nat} {sections : List Section} {s : Section}
    (mem : s ∈ keepRows room places sections) :
    ∃ t ∈ sections, ∃ kept, s = Section.of t.title (t.rows.take kept) := by
  induction sections generalizing room places with
  | nil => cases mem
  | cons t rest ih =>
    unfold keepRows at mem
    split at mem
    · cases mem
    · split at mem
      · obtain ⟨u, among, kept, rfl⟩ := ih mem
        exact ⟨u, List.mem_cons_of_mem _ among, kept, rfl⟩
      · rcases List.mem_cons.1 mem with rfl | mem
        · exact ⟨t, List.mem_cons_self, room, rfl⟩
        · obtain ⟨u, among, kept, rfl⟩ := ih mem
          exact ⟨u, List.mem_cons_of_mem _ among, kept, rfl⟩

theorem rowsMade_keepRows {sections : List Section} (each : RowsMade sections)
    (room places : Nat) : RowsMade (keepRows room places sections) := by
  intro s mem r row
  obtain ⟨t, among, kept, rfl⟩ := exists_of_mem_keepRows mem
  exact each t among r (List.mem_of_mem_take row)

/-- Where there is room, a row is kept if there is one. -/
theorem allRows_keepRows_ne_nil {room places : Nat} (roomPos : room ≠ 0) (placesPos : places ≠ 0)
    {sections : List Section} (filled : allRows sections ≠ []) :
    allRows (keepRows room places sections) ≠ [] := by
  induction sections with
  | nil => exact absurd rfl filled
  | cons s rest ih =>
    unfold keepRows
    rw [if_neg (not_or.2 ⟨roomPos, placesPos⟩)]
    split
    · next empty =>
      refine ih fun none_ => filled ?_
      unfold allRows at none_ ⊢
      rw [List.flatMap_cons, none_, List.isEmpty_iff.1 empty, List.append_nil]
    · next some_ =>
      unfold allRows
      rw [List.flatMap_cons]
      intro none_
      rcases List.take_eq_nil_iff.1 (List.append_eq_nil_iff.1 none_).1 with zero | empty
      · exact roomPos zero
      · exact some_ (List.isEmpty_iff.2 empty)

theorem sectionsSuit_keepRows {sections : List Section} (each : RowsMade sections)
    (filled : allRows (keepRows Limit.rows Limit.sections sections) ≠ []) :
    SectionsSuit (keepRows Limit.rows Limit.sections sections) where
  some := by
    refine List.length_pos_iff.2 fun none_ => filled ?_
    rw [none_]
    rfl
  few := length_keepRows_le ..
  each s mem := by
    refine ⟨rows_ne_nil_of_mem_keepRows mem, ?_⟩
    obtain ⟨t, -, kept, rfl⟩ := exists_of_mem_keepRows mem
    exact atMost_map_clip _ t.title
  someRows := List.length_pos_iff.2 filled
  fewRows := length_allRows_keepRows_le ..
  eachRow r mem := by
    obtain ⟨s, among, row⟩ := List.mem_flatMap.1 mem
    obtain ⟨id, title, description, rfl⟩ := rowsMade_keepRows each _ _ s among r row
    exact ⟨Text.length_clip_le _ title, atMost_map_clip _ description⟩

namespace Content

/-! ## What is delivered suits -/

theorem suits_ofText (body : String) : (ofText body).Suits := Text.length_clip_le _ body

/-- **A made content is delivered** as one that the channel takes, if only by its text. -/
theorem suits_deliverable {c : Content} (made : c.IsMade) : c.deliverable.Suits := by
  cases made with
  | text body =>
    rw [show (ofText body).deliverable = ofText body from rfl]
    exact suits_ofText body
  | @buttons body header footer choices each =>
    dsimp only [ofButtons, deliverable]
    split
    · exact suits_ofText _
    · next some_ =>
      have filled : choices ≠ [] := by
        rintro rfl
        exact some_ rfl
      exact ⟨Frame.suits_of body header footer, buttonsSuit_take filled each⟩
  | @list body header footer label sections each =>
    dsimp only [ofList, deliverable]
    split
    · exact suits_ofText _
    · next some_ =>
      have filled : allRows (keepRows Limit.rows Limit.sections sections) ≠ [] := by
        intro none_
        unfold rowCount at some_
        exact some_ (List.length_eq_zero_iff.2 none_)
      exact ⟨Frame.suits_of body header footer, Text.length_clip_le _ label,
        sectionsSuit_keepRows each filled⟩

/-- **A notice keeps a content deliverable**: its text is cut again, and what can be tapped stays.
-/
theorem suits_withNotice (notice : String) {c : Content} (suits : c.Suits) :
    (c.withNotice notice).Suits := by
  cases c with
  | text body => exact suits_ofText _
  | buttons frame choices =>
    refine ⟨Frame.suits_of _ _ _, buttonsSuit_take ?_ ?_⟩
    · exact mt List.map_eq_nil_iff.1 (List.length_pos_iff.1 suits.2.some)
    · intro b mem
      obtain ⟨b', -, rfl⟩ := List.mem_map.1 mem
      exact ⟨b'.id, b'.title, rfl⟩
  | list frame label sections =>
    have made : RowsMade (sections.map fun s =>
        Section.of s.title (s.rows.map fun r => Row.of r.id r.title r.description)) := by
      intro s mem r row
      obtain ⟨t, -, rfl⟩ := List.mem_map.1 mem
      obtain ⟨r', -, rfl⟩ := List.mem_map.1 row
      exact ⟨r'.id, r'.title, r'.description, rfl⟩
    have filled : allRows (sections.map fun s =>
        Section.of s.title (s.rows.map fun r => Row.of r.id r.title r.description)) ≠ [] := by
      obtain ⟨r, mem⟩ := List.exists_mem_of_length_pos suits.2.2.someRows
      obtain ⟨s, among, row⟩ := List.mem_flatMap.1 mem
      exact List.ne_nil_of_mem (List.mem_flatMap.2
        ⟨_, List.mem_map_of_mem among, List.mem_map_of_mem row⟩)
    exact ⟨Frame.suits_of _ _ _, Text.length_clip_le _ label,
      sectionsSuit_keepRows made (allRows_keepRows_ne_nil (by decide) (by decide) filled)⟩

end Content

end Dialogue
