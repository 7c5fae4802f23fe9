import MarkupLayout.Style.Value
import MarkupLayout.Text.Lowercase

/-!
# Default styles

Some tags have a style of their own before anything is declared. A caller may delete the style of
a tag, delete or replace single properties, and give a style to further tags.
-/

namespace MarkupLayout

abbrev DefaultStyles := SortedMap StyleMap

namespace DefaultStyles

open Style

private def bold : String × Value := ("bold", .flag true)

private def italics : String × Value := ("italics", .flag true)

private def decoration (name : String) : String × Value := ("decoration", .text name)

private def heading (size : Float) : StyleMap :=
  .ofList [("fontSize", .number size), bold, ("marginBottom", .number 5.0)]

def standard : DefaultStyles :=
  .ofList [
    ("b", .ofList [bold]),
    ("strong", .ofList [bold]),
    ("u", .ofList [decoration "underline"]),
    ("del", .ofList [decoration "lineThrough"]),
    ("s", .ofList [decoration "lineThrough"]),
    ("strike", .ofList [decoration "lineThrough"]),
    ("em", .ofList [italics]),
    ("i", .ofList [italics]),
    ("h1", heading 24.0),
    ("h2", heading 22.0),
    ("h3", heading 20.0),
    ("h4", heading 18.0),
    ("h5", heading 16.0),
    ("h6", heading 14.0),
    ("a", .ofList [("color", .text "blue"), decoration "underline"]),
    ("p", .ofList [("margin", .edges ⟨0.0, 5.0, 0.0, 10.0⟩)]),
    ("ul", .ofList [("marginBottom", .number 5.0), ("marginLeft", .number 5.0)]),
    ("table", .ofList [("marginBottom", .number 5.0)]),
    ("th", .ofList [bold, ("fillColor", .text "#EEEEEE")])]

def deletesTag : Json → Bool
  | .null => true
  | .bool value => !value
  | .int value => value == 0
  | .float value => value == 0.0
  | .str value => value == ""
  | _ => false

def deletesProperty : Json → Bool
  | .null => true
  | .str value => value == ""
  | _ => false

def overrideProperty (style : StyleMap) (entry : String × Json) : StyleMap :=
  if deletesProperty entry.2 then style.erase entry.1
  else style.insert entry.1 (Value.ofJson entry.1 entry.2)

def overrideTag (styles : DefaultStyles) (entry : String × Json) : DefaultStyles :=
  let tag := Text.asciiLower entry.1
  match entry.2 with
  | .obj properties =>
    styles.insert tag (properties.foldl overrideProperty ((styles.get? tag).getD ∅))
  | value => if deletesTag value then styles.erase tag else styles

def override (styles : DefaultStyles) (overrides : List (String × Json)) : DefaultStyles :=
  overrides.foldl overrideTag styles

end DefaultStyles

end MarkupLayout
