import MarkupLayout.Layout.Basic

/-!
# Layouts as JSON

A node is an object whose keys are those of its style, one key for its body, and the keys of its
frame. Where two of them meet, the later of these counts, and overrides count last.
-/

namespace MarkupLayout.Layout

def Track.toJson : Track → Json
  | .auto => .str "auto"
  | .fixed size => .ofNumber size

def Line.toJson (line : Line) : Json :=
  .ofMap (.ofList [
    ("type", .str line.kind),
    ("x1", .ofFloat line.x1),
    ("y1", .ofFloat line.y1),
    ("x2", .ofFloat line.x2),
    ("y2", .ofFloat line.y2),
    ("lineWidth", .ofFloat line.width),
    ("lineColor", .str line.color)])

def entryOf {α : Type} (key : String) (part : Option α) (toJson : α → Json) :
    List (String × Json) :=
  match part with
  | some value => [(key, toJson value)]
  | none => []

def TableForm.entries (form : TableForm) : List (String × Json) :=
  entryOf "widths" form.widths (fun tracks => .arr (tracks.map Track.toJson)) ++
    entryOf "heights" form.heights (fun tracks => .arr (tracks.map Track.toJson)) ++
    form.extra.entries

def Script.key : Script → String
  | .sub => "sub"
  | .sup => "sup"

def scriptSetting : Json :=
  .ofMap (.ofList [("offset", .str "30%"), ("fontSize", .int 8)])

def Frame.entries (frame : Frame) : List (String × Json) :=
  entryOf "nodeName" frame.tag .str ++
    entryOf "style" frame.classes .ofStrings ++
    entryOf "link" frame.link .str ++
    frame.script.toList.map (fun script => (script.key, scriptSetting)) ++
    entryOf "rowSpan" frame.rowSpan (fun span => .int span) ++
    entryOf "colSpan" frame.colSpan (fun span => .int span) ++
    entryOf "layout" frame.layout id ++
    frame.overrides.entries

mutual

def Node.toJson : Node String → Json
  | .node frame body =>
    .ofMap (.ofList (frame.style.toJsonEntries ++ body.entries ++ frame.entries))

def Body.entries : Body String → List (String × Json)
  | .text content => [("text", .str content)]
  | .inline nodes => [("text", .arr (nodesToJson nodes))]
  | .stack nodes => [("stack", .arr (nodesToJson nodes))]
  | .table grid form =>
    [("table", .ofMap (.ofList (("body", .arr (gridToJson grid)) :: form.entries)))]
  | .list ordered items marker =>
    (if ordered then "ol" else "ul", .arr (nodesToJson items)) :: entryOf "type" marker .str
  | .picture source => [("image", .str source)]
  | .line segment => [("canvas", .arr [segment.toJson])]
  | .drawing xml => [("svg", .str xml)]

def nodesToJson : List (Node String) → List Json
  | [] => []
  | n :: rest => n.toJson :: nodesToJson rest

def gridToJson : List (List (Node String)) → List Json
  | [] => []
  | row :: rest => .arr (nodesToJson row) :: gridToJson rest

end

def Content.toJson : Content String → Json
  | .text content => .str content
  | .nodes members => .arr (nodesToJson members)

end MarkupLayout.Layout
