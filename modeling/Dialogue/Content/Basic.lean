import Dialogue.Text.Blank

/-!
# Message contents

What a message shows: a text, a text with buttons, or a text with a list of rows in sections. The
channel refuses messages beyond its limits, so contents are cut to the limits when they are made:
texts to their length, buttons to three, and the rows of a list to ten in all.

Main statements: the `of` functions give contents within the limits (`isWithin_ofText` and so on),
and `rowCount_keepRows_le`, a list keeps no more rows than there is room for.
-/

namespace Dialogue

open Text

/-! ## Limits -/

namespace Limit

/-- Characters of a plain text. -/
def textBody : Nat := 4096

/-- Characters of a text with buttons or a list. -/
def interactiveBody : Nat := 1024

/-- Characters of a header. -/
def header : Nat := 60

/-- Characters of a footer. -/
def footer : Nat := 60

/-- Buttons of a message. -/
def buttons : Nat := 3

/-- Characters of the id of a button. -/
def buttonId : Nat := 256

/-- Characters of the title of a button. -/
def buttonTitle : Nat := 20

/-- Characters of the label that opens a list. -/
def listLabel : Nat := 20

/-- Sections of a list. -/
def sections : Nat := 10

/-- Rows of a list, in all its sections. -/
def rows : Nat := 10

/-- Characters of the title of a section. -/
def sectionTitle : Nat := 24

/-- Characters of the title of a row. -/
def rowTitle : Nat := 24

/-- Characters of the description of a row. -/
def rowDescription : Nat := 72

end Limit

/-! ## Parts -/

/-- A button and the id that it answers with. -/
structure Button where
  id : String
  title : String
  deriving DecidableEq

/-- A button cut to the limits. -/
def Button.of (id title : String) : Button :=
  ⟨clip Limit.buttonId id, clip Limit.buttonTitle title⟩

/-- A row of a list and the id that it answers with. -/
structure Row where
  id : String
  title : String
  description : Option String
  deriving DecidableEq

/-- A row cut to the limits. -/
def Row.of (id title : String) (description : Option String) : Row :=
  ⟨id, clip Limit.rowTitle title, description.map (clip Limit.rowDescription)⟩

/-- Rows under a title. -/
structure Section where
  title : Option String
  rows : List Row
  deriving DecidableEq

/-- A section with its title cut to the limit. -/
def Section.of (title : Option String) (rows : List Row) : Section :=
  ⟨title.map (clip Limit.sectionTitle), rows⟩

/-- The texts around buttons or a list. -/
structure Frame where
  body : String
  header : Option String
  footer : Option String
  deriving DecidableEq

/-- A frame cut to the limits. -/
def Frame.of (body : String) (header footer : Option String) : Frame :=
  ⟨clip Limit.interactiveBody body, header.map (clip Limit.header), footer.map (clip Limit.footer)⟩

/-! ## Rows of a list -/

/-- All rows of some sections. -/
def allRows (sections : List Section) : List Row := sections.flatMap Section.rows

/-- The sections for which there is room: at most `places` of them, with at most `room` rows in all.
Sections without rows are left out. -/
def keepRows : Nat → Nat → List Section → List Section
  | _, _, [] => []
  | room, places, s :: rest =>
    if room = 0 ∨ places = 0 then []
    else if s.rows.isEmpty then keepRows room places rest
    else Section.of s.title (s.rows.take room) ::
      keepRows (room - (s.rows.take room).length) (places - 1) rest

theorem length_allRows_keepRows_le (room places : Nat) (sections : List Section) :
    (allRows (keepRows room places sections)).length ≤ room := by
  induction sections generalizing room places with
  | nil => simp [keepRows, allRows]
  | cons s rest ih =>
    unfold keepRows
    split
    · simp [allRows]
    · split
      · exact ih room places
      · have h := ih (room - (s.rows.take room).length) (places - 1)
        simp only [allRows, List.flatMap_cons, List.length_append, Section.of] at h ⊢
        have := List.length_take_le room s.rows
        omega

theorem length_keepRows_le (room places : Nat) (sections : List Section) :
    (keepRows room places sections).length ≤ places := by
  induction sections generalizing room places with
  | nil => simp [keepRows]
  | cons s rest ih =>
    unfold keepRows
    split
    · simp
    · split
      · exact ih room places
      · have h := ih (room - (s.rows.take room).length) (places - 1)
        simp only [List.length_cons]
        omega

theorem rows_ne_nil_of_mem_keepRows {room places : Nat} {sections : List Section} {s : Section}
    (h : s ∈ keepRows room places sections) : s.rows ≠ [] := by
  induction sections generalizing room places with
  | nil => simp [keepRows] at h
  | cons t rest ih =>
    unfold keepRows at h
    split at h
    · simp at h
    · split at h
      · exact ih h
      · rename_i h0 ht
        rcases List.mem_cons.1 h with rfl | h
        · simp only [Section.of, ne_eq, List.take_eq_nil_iff, not_or]
          exact ⟨by omega, by simpa using ht⟩
        · exact ih h

/-! ## Contents -/

/-- What a message shows. -/
inductive Content where
  | text (body : String)
  | buttons (frame : Frame) (buttons : List Button)
  | list (frame : Frame) (label : String) (sections : List Section)
  deriving DecidableEq

namespace Content

/-- A text cut to the limit. -/
def ofText (body : String) : Content := .text (clip Limit.textBody body)

/-- A text with the first buttons. -/
def ofButtons (frame : Frame) (choices : List Button) : Content :=
  .buttons frame (choices.take Limit.buttons)

/-- A text with a list of the first rows. -/
def ofList (frame : Frame) (label : String) (sections : List Section) : Content :=
  .list frame (clip Limit.listLabel label) (keepRows Limit.rows Limit.sections sections)

/-- The text that is shown first. -/
def body : Content → String
  | .text body => body
  | .buttons frame _ | .list frame _ _ => frame.body

/-- The number of rows of a list. -/
def rowCount (sections : List Section) : Nat := (allRows sections).length

/-- Buttons or rows that can be tapped, or else the bare text: an empty choice is not delivered. -/
def deliverable : Content → Content
  | .text body => .text body
  | .buttons frame choices => if choices.isEmpty then ofText frame.body else .buttons frame choices
  | .list frame label sections =>
    if rowCount sections = 0 then ofText frame.body else .list frame label sections

/-- The content with a notice above its text. -/
def withNotice (notice : String) : Content → Content
  | .text body => ofText (notice ++ "\n\n" ++ body)
  | .buttons frame choices =>
    ofButtons (Frame.of (notice ++ "\n\n" ++ frame.body) frame.header frame.footer)
      (choices.map fun b => Button.of b.id b.title)
  | .list frame label sections =>
    ofList (Frame.of (notice ++ "\n\n" ++ frame.body) frame.header frame.footer) label
      (sections.map fun s =>
        Section.of s.title (s.rows.map fun r => Row.of r.id r.title r.description))

end Content

/-! ## Being within the limits -/

/-- A text of at most so many characters. -/
def fits (limit : Nat) (s : String) : Bool := s.length ≤ limit

/-- An optional text of at most so many characters. -/
def fits? (limit : Nat) : Option String → Bool
  | some s => fits limit s
  | none => true

@[simp] theorem fits_clip (limit : Nat) (s : String) : fits limit (clip limit s) = true := by
  simp [fits, length_clip_le]

@[simp] theorem fits?_map_clip (limit : Nat) (s : Option String) :
    fits? limit (s.map (clip limit)) = true := by
  cases s <;> simp [fits?]

namespace Content

/-- A frame within the limits. -/
def frameFits (f : Frame) : Bool :=
  fits Limit.interactiveBody f.body && fits? Limit.header f.header && fits? Limit.footer f.footer

/-- A row within the limits. -/
def rowFits (r : Row) : Bool :=
  fits Limit.rowTitle r.title && fits? Limit.rowDescription r.description

/-- Everything is within the limits of the channel. -/
def isWithin : Content → Bool
  | .text body => fits Limit.textBody body
  | .buttons frame choices =>
    frameFits frame && choices.length ≤ Limit.buttons &&
      choices.all fun b => fits Limit.buttonId b.id && fits Limit.buttonTitle b.title
  | .list frame label sections =>
    frameFits frame && fits Limit.listLabel label && sections.length ≤ Limit.sections &&
      rowCount sections ≤ Limit.rows &&
      sections.all fun s => fits? Limit.sectionTitle s.title && s.rows.all rowFits

theorem isWithin_ofText (body : String) : (ofText body).isWithin = true := by
  simp [ofText, isWithin]

theorem frameFits_of (body : String) (header footer : Option String) :
    frameFits (Frame.of body header footer) = true := by
  simp [Frame.of, frameFits]

theorem rowCount_keepRows_le (room places : Nat) (sections : List Section) :
    rowCount (keepRows room places sections) ≤ room :=
  length_allRows_keepRows_le room places sections

end Content

end Dialogue
