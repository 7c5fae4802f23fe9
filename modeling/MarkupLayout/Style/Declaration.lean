import MarkupLayout.Markup.Basic
import MarkupLayout.Style.Color
import MarkupLayout.Style.Length
import MarkupLayout.Style.Name
import MarkupLayout.Style.Value

/-!
# Declarations and the rules they make

An element declares its style inline, and its size also by attributes. Each declaration makes at
most one rule of the layout style, except that all declarations about borders act together; these
are treated in the module on borders. Seen from a descendant, margins, sizes and borders make no
rule.
-/

namespace MarkupLayout.Style

/-- A property with its value, both in lower case and without blanks around them. -/
structure Declaration where
  property : String
  value : String
deriving DecidableEq, Repr

/-- Whether an element is styled for itself or for what stands inside it. -/
inductive Scope where
  | own
  | inherited
deriving DecidableEq, Repr

/-- Reads one declaration; a property is required, and a second colon spoils it. -/
def Declaration.ofText? (text : List Char) : Option Declaration :=
  match Text.fields ':' (Text.lower text) with
  | [property, value] =>
    let property := Text.trim property
    if property.isEmpty then none
    else some ⟨String.ofList property, String.ofList (Text.trim value)⟩
  | _ => none

/-- A size attribute as a declared value: a bare number is in pixels. -/
def attrLength (text : String) : List Char :=
  let trimmed := Text.trim text.toList
  if (Number.literal? trimmed).isSome then trimmed ++ ['p', 'x'] else text.toList

def sizeDeclaration (tag : Tag) (property : String) : List (List Char) :=
  match tag.present? property with
  | some value => [property.toList ++ ':' :: attrLength value]
  | none => []

def styleDeclarations (tag : Tag) : List (List Char) :=
  match tag.attr? "style" with
  | some style => Text.fields ';' style.toList
  | none => []

def declarations (tag : Tag) : List Declaration :=
  (sizeDeclaration tag "height" ++ sizeDeclaration tag "width" ++ styleDeclarations tag).filterMap
    Declaration.ofText?

/-- The margins of a shorthand, which lists top, right, bottom and left. -/
def margin? (text : String) : Option (Sides Float) :=
  match (Text.words text.toList).mapM fun word => length? (String.ofList word) with
  | some [every] => some (.all every)
  | some [vertical, horizontal] => some ⟨horizontal, vertical, horizontal, vertical⟩
  | some [top, horizontal, bottom] => some ⟨horizontal, top, horizontal, bottom⟩
  | some [top, right, bottom, left] => some ⟨left, top, right, bottom⟩
  | _ => none

def isBorderProperty (property : String) : Bool :=
  property == "border" ||
    ["border-left", "border-top", "border-right", "border-bottom"].any (Text.startsWith property ·)

def isBoxProperty (property : String) : Bool :=
  property == "margin" || Text.startsWith property "margin-" || property == "width" ||
    property == "height"

def backgroundKey (tag : Tag) : String :=
  if ["td", "th", "tr"].any (tag.is ·) then "fillColor" else "background"

def plainRule? (d : Declaration) : Option Rule :=
  if Text.startsWith d.property "padding" || d.value == "" then none
  else some ⟨camelCase d.property, ((length? d.value).map Value.number).getD (.text d.value)⟩

def Declaration.rule? (tag : Tag) (d : Declaration) : Option Rule :=
  match d.property with
  | "margin" => (margin? d.value).map fun edges => ⟨"margin", .edges edges⟩
  | "text-align" => some ⟨"alignment", .text d.value⟩
  | "font-weight" => if d.value = "bold" then some ⟨"bold", .flag true⟩ else none
  | "text-decoration" => some ⟨"decoration", .text (camelCase d.value)⟩
  | "font-style" => if d.value = "italic" then some ⟨"italics", .flag true⟩ else none
  | "font-family" => some ⟨"font", .text (fontFamily d.value)⟩
  | "color" => some ⟨"color", .text (color d.value)⟩
  | "background-color" => some ⟨backgroundKey tag, .text (color d.value)⟩
  | "text-indent" => (length? d.value).map fun indent => ⟨"leadingIndent", .number indent⟩
  | "white-space" =>
    some ⟨"preserveLeadingSpaces",
      .flag (d.value == "break-spaces" || Text.startsWith d.value "pre")⟩
  | property => if isBorderProperty property then none else plainRule? d

def Declaration.ruleIn? (scope : Scope) (tag : Tag) (d : Declaration) : Option Rule :=
  if scope = .inherited ∧ isBoxProperty d.property then none else d.rule? tag

end MarkupLayout.Style
