import Dialogue.Checked.Fields
import Dialogue.Content.Basic
import Dialogue.Wording

/-!
# Contents as JSON

The written form of contents, and their reading from loose data. The field `type` tells the three
kinds apart, and failures inside a content are located below the name of its kind.
-/

namespace Dialogue

open Checked

/-! ## Writing -/

/-- A button as JSON. -/
def Button.toJson (b : Button) : Json := .obj [("id", .str b.id), ("title", .str b.title)]

/-- A row as JSON. -/
def Row.toJson (r : Row) : Json :=
  .obj [("id", .str r.id), ("title", .str r.title), ("description", .ofText? r.description)]

/-- A section as JSON. -/
def Section.toJson (s : Section) : Json :=
  .obj [("title", .ofText? s.title), ("rows", .arr (s.rows.map Row.toJson))]

namespace Content

/-- The fields of a frame. -/
def frameFields (f : Frame) : Fields :=
  [("body", .str f.body), ("header", .ofText? f.header), ("footer", .ofText? f.footer)]

/-- The name of a content's kind. -/
def kindName : Content → String
  | .text _ => "text"
  | .buttons _ _ => "button"
  | .list _ _ _ => "list"

/-- A content as JSON. -/
def toJson : Content → Json
  | .text body => .obj [("type", .str "text"), ("body", .str body)]
  | .buttons frame choices =>
    .obj (frameFields frame ++
      [("type", .str "button"), ("buttons", .arr (choices.map Button.toJson))])
  | .list frame label sections =>
    .obj (frameFields frame ++
      [("type", .str "list"), ("button_text", .str label),
        ("sections", .arr (sections.map Section.toJson))])

end Content

/-! ## Reading -/

/-- Reads a button. -/
def Button.read : Json → Checked Button :=
  asRecord fun fields =>
    Button.of <$> required fields ["id"] asText <*> required fields ["title"] asText

/-- Reads a row. -/
def Row.read : Json → Checked Row :=
  asRecord fun fields =>
    Row.of <$> required fields ["id"] asText <*> required fields ["title"] asText
      <*> maybe fields ["description"] asText

/-- Reads a section. -/
def Section.read : Json → Checked Section :=
  asRecord fun fields =>
    Section.of <$> maybe fields ["title"] asText <*> defaulted fields ["rows"] [] (asList Row.read)

namespace Content

/-- Reads the texts around buttons or a list. -/
def readFrame (fields : Fields) : Checked Frame :=
  Frame.of <$> required fields ["body"] asText <*> maybe fields ["header"] asText
    <*> maybe fields ["footer"] asText

/-- Reads a text. -/
def readText (fields : Fields) : Checked Content := ofText <$> required fields ["body"] asText

/-- Reads a text with buttons. -/
def readButtons (fields : Fields) : Checked Content :=
  ofButtons <$> readFrame fields <*> defaulted fields ["buttons"] [] (asList Button.read)

/-- Reads a text with a list. -/
def readList (fields : Fields) : Checked Content :=
  ofList <$> readFrame fields <*> defaulted fields ["button_text"] Wording.listLabel asText
    <*> defaulted fields ["sections"] [] (asList Section.read)

/-- Reads a content of any kind. -/
def read : Json → Checked Content
  | .obj fields =>
    match Table.get? fields "type" with
    | none => flawed .unnamedVariant
    | some (.str "text") => (readText fields).under "text"
    | some (.str "button") => (readButtons fields).under "button"
    | some (.str "list") => (readList fields).under "list"
    | some _ => flawed .unknownVariant
  | _ => flawed .notVariant

end Content

end Dialogue
