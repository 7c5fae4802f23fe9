import MarkupLayout.Convert.Annotation
import MarkupLayout.Convert.FontLadder
import MarkupLayout.Layout.Grid
import MarkupLayout.Layout.Shape
import MarkupLayout.Markup.Xml
import MarkupLayout.Picture.Resolver
import MarkupLayout.Style.Cascade

/-!
# Drafting a layout

Markup is turned into a layout whose remote pictures are still requests, together with the steps
that have to be taken in order: the requests, and reports of children that were dropped. Nothing
that resolving a picture may give has an influence on the draft. Children come before their
element, and a child that cannot be converted is left out.
-/

namespace MarkupLayout.Convert

open Layout

/-- Rewrites a text; it is shown the elements around the text, outermost first. -/
abbrev TextHook := String → List Element → String

def tags (path : List Element) : List Tag :=
  path.map Element.tag

@[simp] theorem tags_concat (path : List Element) (e : Element) : tags (path ++ [e]) = tags path ++ [e.tag] :=
  List.map_append

structure Design where
  styles : DefaultStyles
  autoSize : Bool
  fonts : FontLadder
  hook : Option TextHook
  maxDepth : Nat
  maxDepth_pos : 0 < maxDepth
  maxDepth_le : maxDepth ≤ Markup.depthLimit

/-- Why a single child is left out. -/
inductive Fault where
  | nestingTooDeep (limit : Nat)
  | missingSource
deriving DecidableEq, Repr

def Fault.message : Fault → String
  | nestingTooDeep limit => "element nesting exceeds " ++ toString limit ++ " levels"
  | missingSource => "<img> element has no src attribute"

/-- A picture in a draft: an address to be handed on, or a request to be answered. -/
inductive Source where
  | given (address : String)
  | remote (request : Picture.Request)
deriving DecidableEq, Repr

inductive Step where
  | resolve (request : Picture.Request)
  | drop (parent child : String) (fault : Fault)
deriving DecidableEq, Repr

inductive Kind where
  | table
  | cell
  | list (ordered : Bool)
  | picture
  | link
  | divider
  | lineBreak
  | script (script : Script)
  | font
  | drawing
  | ignored
  | other
deriving DecidableEq, Repr

def Kind.of (tag : Tag) : Kind :=
  match tag.kind with
  | "table" => .table
  | "td" => .cell
  | "th" => .cell
  | "ul" => .list false
  | "ol" => .list true
  | "img" => .picture
  | "a" => .link
  | "hr" => .divider
  | "br" => .lineBreak
  | "sub" => .script .sub
  | "sup" => .script .sup
  | "font" => .font
  | "svg" => .drawing
  | "col" => .ignored
  | "colgroup" => .ignored
  | _ => .other

def spanAttr? (tag : Tag) (key : String) : Option Nat :=
  ((tag.present? key).bind fun text => Number.count32? (Text.trim text.toList)).filter (0 < ·)

/-- A style length as a number of pixels, if it is at least one. -/
def pixels? (size : Float) : Option Nat :=
  if size.isFinite && 1.0 ≤ size then
    (Number.integer? (Number.round size)).map fun n => min n.toNat 0xFFFFFFFF
  else none

def Source.of (address : String) (style : StyleMap) : Source :=
  if Text.startsWith address "http" then
    .remote (.of address ((style.number? "width").bind pixels?)
      ((style.number? "height").bind pixels?))
  else .given address

/-- The requests that a finished body makes by itself. -/
def requestSteps : Body Source → List Step
  | .picture (.remote request) => [.resolve request]
  | _ => []

def trimmingKinds : List String :=
  ["table", "thead", "tbody", "tfoot", "tr", "ul", "ol"]

def nonempty? {α : Type} (items : List α) : Option (List α) :=
  if items.isEmpty then none else some items

namespace Design

def normalized (path : List Tag) (raw : String) : String :=
  if Style.preservesSpaces path then raw else String.ofList (Text.dropNewlineRuns raw.toList)

def trimmed (path : List Tag) (text : String) : String :=
  if path.getLast?.any fun parent => trimmingKinds.contains parent.kind then
    String.ofList (Text.trimBy Text.isGap text.toList)
  else text

def finalText (d : Design) (path : List Element) (raw : String) : String :=
  if raw = "" then ""
  else
    let text := normalized (tags path) raw
    trimmed (tags path) (d.hook.elim text fun hook => hook text path)

def textLeaf? (d : Design) (path : List Element) (raw : String) : Option (Node Source) :=
  let text := d.finalText path raw
  if text = "" then none
  else some (.node
    { style := Style.cascade d.styles .inherited (tags path) ∅
      classes := nonempty? (Style.classesAlong (tags path)) }
    (.text text))

def styled (d : Design) (path : List Tag) (frame : Frame) : Frame :=
  { frame with
    style := Style.cascade d.styles .own path frame.style
    classes := nonempty? (Style.classesAlong path) }

def fontStyle (d : Design) (tag : Tag) : StyleMap :=
  let style : StyleMap := match tag.present? "color" with
    | some color => SortedMap.insert ∅ "color" (.text (Style.color color))
    | none => ∅
  match (tag.present? "size").bind FontLadder.attrSize? with
  | some n => style.insert "fontSize" (.number (d.fonts.size n))
  | none => style

def listMarker? (style : StyleMap) : Option String :=
  (style.text? "listStyle").orElse fun _ => style.text? "listStyleType"

def tableForm (d : Design) (grid : List (List (Node Source))) (notes : SortedMap Json) :
    TableForm :=
  { widths := if d.autoSize then nonempty? (columnTracks grid) else none
    heights := if d.autoSize then nonempty? (rowTracks grid) else none
    extra := notes.erase "layout" }

/-- The node of an element that has no frame of its own kind: a run of inline children gives it
its style, while a stack leaves the style to the blocks in it. -/
def plainFrame (d : Design) (path : List Tag) (frame : Frame) (children : List Markup)
    (nodes : List (Node Source)) : Frame :=
  if children.isEmpty || anyBlock nodes then frame else d.styled path frame

/-- The node of an element whose children are converted. The path ends with its tag. -/
def assemble (d : Design) (path : List Tag) (tag : Tag) (children : List Markup)
    (nodes : List (Node Source)) : Except Fault (Node Source) :=
  let base : Frame := { tag := some (Text.asciiUpper tag.name) }
  let notes := annotations tag
  let plain := d.plainFrame path base children nodes
  let body := (Body.ofChildren nodes).collapse
  match Kind.of tag with
  | .table =>
    let grid := expandSpans (rowsOf nodes)
    .ok (.node { d.styled path base with layout := notes.get? "layout" }
      (.table grid (d.tableForm grid notes)))
  | .cell =>
    let frame := d.styled path
      { base with rowSpan := spanAttr? tag "rowspan", colSpan := spanAttr? tag "colspan" }
    .ok (.node { frame with overrides := notes } body)
  | .list ordered =>
    let frame := d.styled path base
    .ok (.node { frame with overrides := notes } (.list ordered nodes (listMarker? frame.style)))
  | .picture =>
    match tag.present? "src" with
    | none => .error .missingSource
    | some address =>
      let frame := d.styled path base
      .ok (.node { frame with overrides := notes } (.picture (.of address frame.style)))
  | .link => .ok (.node { plain with link := tag.attr? "href", overrides := notes } body)
  | .divider =>
    let divider := Divider.ofAnnotations notes
    let margin := Style.Value.ofJson "margin" divider.margin
    .ok (.node { plain with style := plain.style.insert "margin" margin } (.line divider.line))
  | .lineBreak => .ok (.node { plain with overrides := notes } (.text "\n"))
  | .script script => .ok (.node { plain with script := some script, overrides := notes } body)
  | .font =>
    let frame := d.styled path { base with style := d.fontStyle tag }
    .ok (.node { frame with overrides := notes } body)
  | _ => .ok (.node { plain with overrides := notes } body)

def drawing (tag : Tag) (children : List Markup) : Node Source :=
  .node
    { tag := some (Text.asciiUpper tag.name)
      classes := some ["html-svg"]
      overrides := annotations tag }
    (.drawing (String.ofList (Text.dropNewlineRuns (Markup.xml 0 (.element tag children)))))

end Design

def childName : Markup → String
  | .text _ => "#text"
  | .element tag _ => tag.kind

mutual

def Design.draft (d : Design) (path : List Element) (depth : Nat) :
    Markup → Except Fault (Option (Node Source)) × List Step
  | .text raw => (.ok (d.textLeaf? path raw), [])
  | .element tag children =>
    if d.maxDepth < depth then (.error (.nestingTooDeep d.maxDepth), [])
    else match Kind.of tag with
      | .ignored => (.ok none, [])
      | .drawing => (.ok (some (Design.drawing tag children)), [])
      | _ =>
        let drafted := d.draftAll (path ++ [⟨tag, children⟩]) tag (depth + 1) children
        match d.assemble (tags path ++ [tag]) tag children drafted.1 with
        | .error fault => (.error fault, drafted.2)
        | .ok n => (.ok (some n), drafted.2 ++ requestSteps n.body)

def Design.draftAll (d : Design) (path : List Element) (parent : Tag) (depth : Nat) :
    List Markup → List (Node Source) × List Step
  | [] => ([], [])
  | child :: rest =>
    let first := d.draft path depth child
    let others := d.draftAll path parent depth rest
    match first.1 with
    | .ok (some n) => (n.settle :: others.1, first.2 ++ others.2)
    | .ok none => (others.1, first.2 ++ others.2)
    | .error fault =>
      (others.1, first.2 ++ .drop parent.kind (childName child) fault :: others.2)

end

/-- The content of a drafted root: its children or its text. A root that is no container, or that
could not be drafted, has none. -/
def rootContent : Except Fault (Option (Node Source)) → Content Source
  | .ok (some n) =>
    match n.body with
    | .stack members => .nodes members
    | .inline members => .nodes members
    | .text content => .text content
    | _ => .nodes []
  | _ => .nodes []

def Design.draftRoot (d : Design) (root : Element) : Content Source × List Step :=
  let drafted := d.draft [] 0 root.toMarkup
  (rootContent drafted.1, drafted.2)

end MarkupLayout.Convert
