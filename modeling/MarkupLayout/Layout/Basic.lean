import MarkupLayout.Style.Value
import MarkupLayout.Text.Lowercase

/-!
# Layout nodes

A layout is a tree of nodes, each a frame with style, classes and the like around a body. A body
is a text, a run of inline nodes, a stack of blocks, a table, a list, a picture, a line or a
drawing. Nodes are generic in what stands for a picture, so that a layout can be laid out before
its pictures are at hand.
-/

namespace MarkupLayout.Layout

/-- Text set below or above the line. -/
inductive Script where
  | sub
  | sup
deriving DecidableEq, Repr

inductive Track where
  | auto
  | fixed (size : Float)
deriving Repr

structure Line where
  kind : String
  x1 : Float
  y1 : Float
  x2 : Float
  y2 : Float
  width : Float
  color : String
deriving Repr

structure TableForm where
  widths : Option (List Track) := none
  heights : Option (List Track) := none
  extra : SortedMap Json := ∅

/-- What a node has besides its body. Nodes made from elements carry the tag in upper case. -/
structure Frame where
  tag : Option String := none
  style : StyleMap := ∅
  classes : Option (List String) := none
  link : Option String := none
  script : Option Script := none
  rowSpan : Option Nat := none
  colSpan : Option Nat := none
  layout : Option Json := none
  overrides : SortedMap Json := ∅

mutual

inductive Node (Picture : Type) where
  | node (frame : Frame) (body : Body Picture)

inductive Body (Picture : Type) where
  | text (content : String)
  | inline (nodes : List (Node Picture))
  | stack (nodes : List (Node Picture))
  | table (grid : List (List (Node Picture))) (form : TableForm)
  | list (ordered : Bool) (items : List (Node Picture)) (marker : Option String)
  | picture (source : Picture)
  | line (line : Line)
  | drawing (xml : String)

end

inductive Content (Picture : Type) where
  | text (content : String)
  | nodes (nodes : List (Node Picture))

variable {Picture Other : Type}

instance : Inhabited (Node Picture) :=
  ⟨.node {} (.text "")⟩

namespace Node

def frame : Node Picture → Frame
  | .node frame _ => frame

def body : Node Picture → Body Picture
  | .node _ body => body

def ofText (content : String) : Node Picture :=
  .node {} (.text content)

/-- Stands where a span covers the grid. -/
def filler : Node Picture :=
  ofText ""

def ofElement (name : String) (body : Body Picture) : Node Picture :=
  .node { tag := some (Text.asciiUpper name) } body

def isTag (n : Node Picture) (name : String) : Bool :=
  n.frame.tag.any (Text.sameIgnoringCase · name)

def isStack (n : Node Picture) : Bool :=
  match n.body with
  | .stack _ => true
  | _ => false

def children? (n : Node Picture) : Option (List (Node Picture)) :=
  match n.body with
  | .inline nodes => some nodes
  | .stack nodes => some nodes
  | _ => none

end Node

mutual

def Node.mapPicture (f : Picture → Other) : Node Picture → Node Other
  | .node frame body => .node frame (body.mapPicture f)

def Body.mapPicture (f : Picture → Other) : Body Picture → Body Other
  | .text content => .text content
  | .inline nodes => .inline (mapPictures f nodes)
  | .stack nodes => .stack (mapPictures f nodes)
  | .table grid form => .table (mapGrid f grid) form
  | .list ordered items marker => .list ordered (mapPictures f items) marker
  | .picture source => .picture (f source)
  | .line segment => .line segment
  | .drawing xml => .drawing xml

def mapPictures (f : Picture → Other) : List (Node Picture) → List (Node Other)
  | [] => []
  | n :: rest => n.mapPicture f :: mapPictures f rest

def mapGrid (f : Picture → Other) : List (List (Node Picture)) → List (List (Node Other))
  | [] => []
  | row :: rest => mapPictures f row :: mapGrid f rest

end

def Content.mapPicture (f : Picture → Other) : Content Picture → Content Other
  | .text content => .text content
  | .nodes members => .nodes (mapPictures f members)

end MarkupLayout.Layout
