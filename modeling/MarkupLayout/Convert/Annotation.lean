import MarkupLayout.Json.Reader
import MarkupLayout.Layout.Basic
import MarkupLayout.Markup.Basic

/-!
# Annotations

An element may carry properties for its layout node as a JSON object in an attribute. Apostrophes
may stand for quotes if the text is not JSON as it is; anything but an object counts as empty.
-/

namespace MarkupLayout.Convert

def annotationAttr : String := "data-pdfmake"

/-- Reads a JSON text, if need be with quotes in place of its apostrophes. -/
def readAnnotation? (text : String) : Option Json :=
  (Json.parse? text).orElse fun _ =>
    Json.parse? (text.map fun c => if c = '\x27' then '"' else c)

def annotations (tag : Tag) : SortedMap Json :=
  (((tag.present? annotationAttr).bind readAnnotation?).bind Json.members?).getD ∅

/-- The geometry of a dividing line; annotations of the right type replace its defaults. -/
structure Divider where
  width : Float := 514.0
  kind : String := "line"
  margin : Json := .arr [.int 0, .int 12, .int 0, .int 12]
  thickness : Float := 0.5
  color : String := "#000000"
  left : Float := 0.0

namespace Divider

def ofAnnotations (notes : SortedMap Json) : Divider :=
  let number (key : String) (otherwise : Float) : Float :=
    ((notes.get? key).bind Json.number?).getD otherwise
  let text (key : String) (otherwise : String) : String :=
    ((notes.get? key).bind Json.str?).getD otherwise
  let standard : Divider := {}
  { width := number "width" standard.width
    kind := text "type" standard.kind
    margin := (notes.get? "margin").getD standard.margin
    thickness := number "thickness" standard.thickness
    color := text "color" standard.color
    left := number "left" standard.left }

def line (divider : Divider) : Layout.Line :=
  { kind := divider.kind
    x1 := divider.left
    y1 := 0.0
    x2 := divider.width
    y2 := 0.0
    width := divider.thickness
    color := divider.color }

end Divider

end MarkupLayout.Convert
