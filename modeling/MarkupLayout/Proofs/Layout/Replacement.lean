import MarkupLayout.Layout.Grid
import MarkupLayout.Layout.Shape

/-!
# Laying out with pictures replaced

No step of a layout looks at what stands for a picture: choosing a stack, shrinking and settling,
gathering rows, filling spans and sizing tracks all give the same before and after the pictures
are replaced.
-/

namespace MarkupLayout.Layout

variable {Picture Other : Type} (f : Picture → Other)

theorem mapPictures_eq_map (nodes : List (Node Picture)) :
    mapPictures f nodes = nodes.map (Node.mapPicture f) := by
  induction nodes with
  | nil => rfl
  | cons n nodes ih => rw [mapPictures, ih, List.map_cons]

theorem mapGrid_eq_map (grid : List (List (Node Picture))) :
    mapGrid f grid = grid.map (mapPictures f) := by
  induction grid with
  | nil => rfl
  | cons row grid ih => rw [mapGrid, ih, List.map_cons]

@[simp] theorem Node.frame_mapPicture (n : Node Picture) : (n.mapPicture f).frame = n.frame := by
  cases n
  rfl

@[simp] theorem Node.body_mapPicture (n : Node Picture) :
    (n.mapPicture f).body = n.body.mapPicture f := by
  cases n
  rfl

@[simp] theorem Node.isTag_mapPicture (n : Node Picture) (name : String) :
    (n.mapPicture f).isTag name = n.isTag name := by
  simp [isTag]

theorem Node.children?_mapPicture (n : Node Picture) :
    (n.mapPicture f).children? = n.children?.map (mapPictures f) := by
  cases n with
  | node frame body => cases body <;> rfl

section Twice

variable {Third : Type} (g : Other → Third)

mutual

theorem Node.mapPicture_mapPicture (n : Node Picture) :
    (n.mapPicture f).mapPicture g = n.mapPicture (g ∘ f) := by
  cases n with
  | node frame body =>
    rw [Node.mapPicture, Node.mapPicture, Node.mapPicture, Body.mapPicture_mapPicture]

theorem Body.mapPicture_mapPicture (body : Body Picture) :
    (body.mapPicture f).mapPicture g = body.mapPicture (g ∘ f) := by
  cases body with
  | inline nodes => exact congrArg Body.inline (mapPictures_mapPictures nodes)
  | stack nodes => exact congrArg Body.stack (mapPictures_mapPictures nodes)
  | table grid form => exact congrArg (Body.table · form) (mapGrid_mapGrid grid)
  | list ordered items marker =>
    exact congrArg (Body.list ordered · marker) (mapPictures_mapPictures items)
  | _ => rfl

theorem mapPictures_mapPictures (nodes : List (Node Picture)) :
    mapPictures g (mapPictures f nodes) = mapPictures (g ∘ f) nodes := by
  cases nodes with
  | nil => rfl
  | cons n rest =>
    rw [mapPictures, mapPictures, mapPictures, Node.mapPicture_mapPicture, mapPictures_mapPictures]

theorem mapGrid_mapGrid (grid : List (List (Node Picture))) :
    mapGrid g (mapGrid f grid) = mapGrid (g ∘ f) grid := by
  cases grid with
  | nil => rfl
  | cons row rest => rw [mapGrid, mapGrid, mapGrid, mapPictures_mapPictures, mapGrid_mapGrid]

end

theorem Content.mapPicture_mapPicture (content : Content Picture) :
    (content.mapPicture f).mapPicture g = content.mapPicture (g ∘ f) := by
  cases content with
  | text content => rfl
  | nodes members => exact congrArg Content.nodes (mapPictures_mapPictures f g members)

end Twice

mutual

theorem Node.isBlock_mapPicture (n : Node Picture) : (n.mapPicture f).isBlock = n.isBlock := by
  cases n with
  | node frame body => rw [Node.mapPicture, Node.isBlock, Node.isBlock, Body.isBlock_mapPicture]

theorem Body.isBlock_mapPicture (body : Body Picture) : (body.mapPicture f).isBlock = body.isBlock := by
  cases body with
  | inline nodes => exact anyBlock_mapPictures nodes
  | _ => rfl

theorem anyBlock_mapPictures (nodes : List (Node Picture)) :
    anyBlock (mapPictures f nodes) = anyBlock nodes := by
  cases nodes with
  | nil => rfl
  | cons n rest => rw [mapPictures, anyBlock, anyBlock, Node.isBlock_mapPicture, anyBlock_mapPictures]

end

theorem Body.ofChildren_mapPictures (nodes : List (Node Picture)) :
    Body.ofChildren (mapPictures f nodes) = (Body.ofChildren nodes).mapPicture f := by
  rw [ofChildren, ofChildren, anyBlock_mapPictures]
  split <;> rfl

theorem Body.collapse_mapPicture (body : Body Picture) :
    (body.mapPicture f).collapse = body.collapse.mapPicture f := by
  cases body with
  | inline nodes =>
    match nodes with
    | [] => rfl
    | [.node frame inner] =>
      cases inner with
      | text content =>
        simp only [Body.mapPicture, mapPictures, Node.mapPicture, collapse]
        split <;> rfl
      | _ => rfl
    | .node frame inner :: _ :: _ => cases inner <;> rfl
  | _ => rfl

theorem Node.settle_mapPicture (n : Node Picture) :
    (n.mapPicture f).settle = n.settle.mapPicture f := by
  cases n with
  | node frame body =>
    cases body with
    | inline nodes => cases nodes <;> rfl
    | _ => rfl

theorem rowCells_mapPicture (row : Node Picture) :
    rowCells (row.mapPicture f) = mapGrid f (rowCells row) := by
  rw [rowCells, rowCells, Node.children?_mapPicture, Node.isTag_mapPicture]
  cases row.children? with
  | none => rfl
  | some members =>
    cases members with
    | nil => rfl
    | cons cell cells =>
      simp only [Option.map_some, mapPictures]
      split <;> rfl

theorem mapGrid_append (above below : List (List (Node Picture))) :
    mapGrid f (above ++ below) = mapGrid f above ++ mapGrid f below := by
  rw [mapGrid_eq_map, mapGrid_eq_map, mapGrid_eq_map, List.map_append]

theorem flatMap_rowCells_mapPictures (rows : List (Node Picture)) :
    (mapPictures f rows).flatMap rowCells = mapGrid f (rows.flatMap rowCells) := by
  induction rows with
  | nil => rfl
  | cons row rows ih =>
    rw [mapPictures, List.flatMap_cons, List.flatMap_cons, mapGrid_append, ih, rowCells_mapPicture]

theorem rowsOf_mapPictures (nodes : List (Node Picture)) :
    rowsOf (mapPictures f nodes) = mapGrid f (rowsOf nodes) := by
  induction nodes with
  | nil => rfl
  | cons n nodes ih =>
    rw [rowsOf] at ih ⊢
    rw [rowsOf, mapPictures, List.flatMap_cons, List.flatMap_cons, mapGrid_append, ih]
    congr 1
    simp only [Node.isTag_mapPicture]
    split
    · exact rowCells_mapPicture f n
    · split
      · rw [Node.children?_mapPicture, ← flatMap_rowCells_mapPictures]
        cases n.children? <;> rfl
      · rfl

def Slot.mapPicture : Slot Picture → Slot Other
  | .cell source => .cell (source.mapPicture f)
  | .filler => .filler

@[simp] theorem Node.columns_mapPicture (cell : Node Picture) :
    (cell.mapPicture f).columns = cell.columns := by
  rw [columns, columns, frame_mapPicture]

@[simp] theorem Node.rows_mapPicture (cell : Node Picture) : (cell.mapPicture f).rows = cell.rows := by
  rw [rows, rows, frame_mapPicture]

theorem Slot.node_mapPicture (slot : Slot Picture) :
    (slot.mapPicture f).node = slot.node.mapPicture f := by
  cases slot <;> rfl

theorem map_fillers (count : Nat) : (fillers count).map (Slot.mapPicture f) = fillers count :=
  List.map_replicate

theorem map_insertFillers (column count : Nat) (row : List (Slot Picture)) :
    (insertFillers column count row).map (Slot.mapPicture f) =
      insertFillers column count (row.map (Slot.mapPicture f)) := by
  simp only [insertFillers, List.map_append, List.map_take, List.map_drop, map_fillers]

theorem map_fillBelow (column count covered : Nat) (below : List (List (Slot Picture))) :
    (fillBelow column count covered below).map (List.map (Slot.mapPicture f)) =
      fillBelow column count covered (below.map (List.map (Slot.mapPicture f))) := by
  induction below generalizing covered with
  | nil => cases covered <;> rfl
  | cons row below ih =>
    cases covered with
    | zero => rfl
    | succ covered => simp only [fillBelow, List.map_cons, ih, map_insertFillers]

theorem setCells_map (column : Nat) (below : List (List (Slot Picture))) (row : List (Slot Picture)) :
    setCells column (below.map (List.map (Slot.mapPicture f))) (row.map (Slot.mapPicture f)) =
      ((setCells column below row).1.map (Slot.mapPicture f),
        (setCells column below row).2.map (List.map (Slot.mapPicture f))) := by
  induction row generalizing column below with
  | nil => rfl
  | cons slot row ih =>
    cases slot with
    | filler => simp only [List.map_cons, Slot.mapPicture, setCells, ih]
    | cell source =>
      simp only [List.map_cons, Slot.mapPicture, setCells, Node.columns_mapPicture,
        Node.rows_mapPicture, ← map_fillBelow, ih, List.map_append, map_fillers]

theorem setRows_map (rows : List (List (Slot Picture))) :
    setRows (rows.map (List.map (Slot.mapPicture f))) =
      (setRows rows).map (List.map (Slot.mapPicture f)) := by
  induction rows using setRows.induct with
  | case1 => rw [List.map_nil, setRows, setRows, List.map_nil]
  | case2 row below placed ih =>
    rw [List.map_cons, setRows, setCells_map, setRows, List.map_cons, ih]

theorem expandSpans_mapGrid (rows : List (List (Node Picture))) :
    expandSpans (mapGrid f rows) = mapGrid f (expandSpans rows) := by
  have hCells : (mapGrid f rows).map (List.map Slot.cell) =
      (rows.map (List.map Slot.cell)).map (List.map (Slot.mapPicture f)) := by
    simp only [mapGrid_eq_map, mapPictures_eq_map, List.map_map, Function.comp_def]
    rfl
  rw [expandSpans, slotGrid, hCells, setRows_map, expandSpans, slotGrid, mapGrid_eq_map]
  simp only [List.map_map, Function.comp_def, mapPictures_eq_map, Slot.node_mapPicture]

@[simp] theorem Node.columnWidth?_mapPicture (cell : Node Picture) :
    (cell.mapPicture f).columnWidth? = cell.columnWidth? := by
  rw [columnWidth?, columnWidth?, frame_mapPicture, columns_mapPicture]

@[simp] theorem Node.rowHeight?_mapPicture (cell : Node Picture) :
    (cell.mapPicture f).rowHeight? = cell.rowHeight? := by
  rw [rowHeight?, rowHeight?, frame_mapPicture, rows_mapPicture]

theorem columnCount_mapGrid (grid : List (List (Node Picture))) :
    columnCount (mapGrid f grid) = columnCount grid := by
  rw [columnCount, columnCount, mapGrid_eq_map, List.foldl_map]
  simp only [mapPictures_eq_map, List.length_map]

theorem column_mapGrid (grid : List (List (Node Picture))) (index : Nat) :
    column (mapGrid f grid) index = (column grid index).map (Node.mapPicture f) := by
  rw [column, column, mapGrid_eq_map, List.filterMap_map, List.map_filterMap]
  simp only [Function.comp_def, mapPictures_eq_map, List.getElem?_map]

theorem columnTracks_mapGrid (grid : List (List (Node Picture))) :
    columnTracks (mapGrid f grid) = columnTracks grid := by
  simp only [columnTracks, columnCount_mapGrid, column_mapGrid, List.filterMap_map, Function.comp_def,
    Node.columnWidth?_mapPicture]

theorem rowTracks_mapGrid (grid : List (List (Node Picture))) :
    rowTracks (mapGrid f grid) = rowTracks grid := by
  simp only [rowTracks, mapGrid_eq_map, mapPictures_eq_map, List.map_map, List.filterMap_map,
    Function.comp_def, Node.rowHeight?_mapPicture]

end MarkupLayout.Layout
