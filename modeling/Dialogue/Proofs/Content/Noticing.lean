import Dialogue.Content.Json
import Dialogue.Proofs.Checked
import Dialogue.Proofs.Content.Clipping

/-!
# A notice above a content

A notice is put above the text of a content by writing the content down, replacing its text and
reading it again. Reading cuts everything to the limits once more. What was made is within them, so
nothing but the text changes: it is the notice, an empty line and the old text, as far as there is
room.

Main statements: `read_rewritten`, what is read; and `withNotice_of_isMade`, what has changed.
-/

namespace Dialogue

/-! ## Cutting again -/

theorem Button.of_of_isMade {b : Button} (made : b.IsMade) : Button.of b.id b.title = b := by
  obtain ⟨id, title, rfl⟩ := made
  simp [Button.of, Text.clip_clip]

theorem Row.of_of_isMade {r : Row} (made : r.IsMade) : Row.of r.id r.title r.description = r := by
  obtain ⟨id, title, description, rfl⟩ := made
  simp [Row.of, Text.clip_clip, map_clip_of_atMost (atMost_map_clip _ description)]

theorem Frame.of_of (text body : String) (header footer : Option String) :
    Frame.of text (Frame.of body header footer).header (Frame.of body header footer).footer =
      Frame.of text header footer := by
  simp [Frame.of, map_clip_of_atMost (atMost_map_clip _ header),
    map_clip_of_atMost (atMost_map_clip _ footer)]

/-- A section as it is read again. -/
def Section.again (s : Section) : Section :=
  Section.of s.title (s.rows.map fun r => Row.of r.id r.title r.description)

theorem map_button_of_isMade {buttons : List Button} (each : ∀ b ∈ buttons, b.IsMade) :
    buttons.map (fun b => Button.of b.id b.title) = buttons := by
  rw [List.map_congr_left fun b mem => Button.of_of_isMade (each b mem), List.map_id']

theorem map_again_of_made {sections : List Section} (titles : ∀ s ∈ sections, AtMost 24 s.title)
    (each : RowsMade sections) : sections.map Section.again = sections := by
  refine (List.map_congr_left fun s mem => ?_).trans (map_titled_of_atMost titles)
  rw [Section.again, Section.titled,
    List.map_congr_left fun r row => Row.of_of_isMade (each s mem r row), List.map_id']

namespace Content

open Checked

/-! ## The text alone -/

/-- The characters for which the text of a content has room. -/
def room : Content → Nat
  | .text _ => 4096
  | .buttons _ _ | .list _ _ _ => 1024

/-- The content with another text. -/
def withBody (body : String) : Content → Content
  | .text _ => .text body
  | .buttons frame choices => .buttons { frame with body } choices
  | .list frame label sections => .list { frame with body } label sections

/-- What can be tapped: the buttons, and the sections of a list. -/
def choices : Content → List Button × List Section
  | .text _ => ([], [])
  | .buttons _ choices => (choices, [])
  | .list _ _ sections => ([], sections)

variable (body : String) (c : Content)

@[simp] theorem body_withBody : (c.withBody body).body = body := by cases c <;> rfl

@[simp] theorem choices_withBody : (c.withBody body).choices = c.choices := by cases c <;> rfl

@[simp] theorem room_withBody : (c.withBody body).room = c.room := by cases c <;> rfl

/-- The sections that are left of made ones are within the limits, also when they are read
again. -/
theorem keepRows_again {sections : List Section} (each : RowsMade sections) :
    keepRows 10 10 ((keepRows 10 10 sections).map Section.again) = keepRows 10 10 sections := by
  have titles : ∀ s ∈ keepRows 10 10 sections, AtMost 24 s.title := by
    intro s mem
    obtain ⟨t, -, kept, rfl⟩ := exists_of_mem_keepRows mem
    exact atMost_map_clip _ t.title
  rw [map_again_of_made titles (rowsMade_keepRows each 10 10)]
  exact keepRows_of_fits (sectionsFit_keepRows 10 10 sections)

/-- **A notice changes the text alone** of what was made. -/
theorem withNotice_of_isMade {c : Content} (made : c.IsMade) (notice : String) :
    c.withNotice notice = c.withBody (Text.clip c.room (notice ++ "\n\n" ++ c.body)) := by
  cases made with
  | text body => rfl
  | @buttons body header footer buttons each =>
    have again := map_button_of_isMade fun b mem => each b (List.mem_of_mem_take (i := 3) mem)
    show Content.buttons (Frame.of _ (Frame.of body header footer).header
      (Frame.of body header footer).footer) (List.take 3 (List.map _ (buttons.take 3))) = _
    rw [again, List.take_take, Frame.of_of]
    rfl
  | @list body header footer label sections each =>
    show Content.list (Frame.of _ (Frame.of body header footer).header
      (Frame.of body header footer).footer) (Text.clip 20 (Text.clip 20 label))
        (keepRows 10 10 ((keepRows 10 10 sections).map Section.again)) = _
    rw [keepRows_again each, Text.clip_clip, Frame.of_of]
    rfl

/-! ## Writing and reading -/

theorem read_button (b : Button) : Button.read b.toJson = .good (Button.of b.id b.title) :=
  seq_good (map_good _ (required_of_get? rfl rfl)) (required_of_get? rfl rfl)

theorem read_row (r : Row) : Row.read r.toJson = .good (Row.of r.id r.title r.description) := by
  refine seq_good ?_ (maybe_text_of_get? rfl)
  exact seq_good (map_good _ (required_of_get? rfl rfl)) (required_of_get? rfl rfl)

theorem read_section (s : Section) : Section.read s.toJson = .good s.again :=
  seq_good (map_good _ (maybe_text_of_get? rfl))
    (defaulted_of_get? rfl (asList_written read_row s.rows))

theorem readFrame_of_get? {fields : Fields} {body : String} {header footer : Option String}
    (text : Table.get? fields "body" = some (.str body))
    (above : Table.get? fields "header" = some (.ofText? header))
    (below : Table.get? fields "footer" = some (.ofText? footer)) :
    readFrame fields = .good (Frame.of body header footer) := by
  refine seq_good ?_ (maybe_text_of_get? below)
  exact seq_good (map_good _ (required_of_get? text rfl)) (maybe_text_of_get? above)

theorem read_of_button {fields : Fields} {c : Content}
    (kind : Table.get? fields "type" = some (.str "button"))
    (good : readButtons fields = .good c) : read (.obj fields) = .good c := by
  unfold read
  simp only [kind, good, under_good]

theorem read_of_list {fields : Fields} {c : Content}
    (kind : Table.get? fields "type" = some (.str "list")) (good : readList fields = .good c) :
    read (.obj fields) = .good c := by
  unfold read
  simp only [kind, good, under_good]

/-- **What is read** when a content was written down and its text replaced by the notice and the
text. -/
theorem read_rewritten (c : Content) (notice : String) :
    ∃ fields, c.toJson = .obj fields ∧
      read (.obj (Table.set fields "body" (.str (notice ++ "\n\n" ++ c.body)))) =
        .good (c.withNotice notice) := by
  cases c with
  | text body => exact ⟨_, rfl, rfl⟩
  | buttons frame choices =>
    refine ⟨_, rfl, read_of_button rfl ?_⟩
    show _ = good (ofButtons (Frame.of (notice ++ "\n\n" ++ frame.body) frame.header frame.footer)
      (choices.map fun b => Button.of b.id b.title))
    exact seq_good (map_good ofButtons (readFrame_of_get? rfl rfl rfl))
      (defaulted_of_get? rfl (asList_written read_button choices))
  | list frame label sections =>
    refine ⟨_, rfl, read_of_list rfl ?_⟩
    show _ = good (ofList (Frame.of (notice ++ "\n\n" ++ frame.body) frame.header frame.footer)
      label (sections.map Section.again))
    refine seq_good ?_ (defaulted_of_get? rfl (asList_written read_section sections))
    exact seq_good (map_good ofList (readFrame_of_get? rfl rfl rfl)) (defaulted_of_get? rfl rfl)

end Content

end Dialogue
