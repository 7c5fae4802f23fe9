import MarkupLayout.Layout.Basic
import MarkupLayout.Number.Exact

/-!
# Table grids

The rows of a table are gathered from its sections, and the positions that a cell spans are filled
with empty texts: those to its right at once, those below in the rows still to come. A row that
ends before the column of a span takes the fillers at its end, and spans below the last row are
dropped. Tracks can be sized by the largest cell in them.
-/

namespace MarkupLayout.Layout

variable {Picture : Type}

def sectionTags : List String :=
  ["thead", "tbody", "tfoot"]

def rowCells (row : Node Picture) : List (List (Node Picture)) :=
  match row.children? with
  | some (cell :: cells) => if row.isTag "tr" then [cell :: cells] else []
  | _ => []

def rowsOf (children : List (Node Picture)) : List (List (Node Picture)) :=
  children.flatMap fun child =>
    if child.isTag "tr" then rowCells child
    else if sectionTags.any (child.isTag ·) then (child.children?.getD []).flatMap rowCells
    else []

def Node.columns (cell : Node Picture) : Nat :=
  max 1 (cell.frame.colSpan.getD 1)

def Node.rows (cell : Node Picture) : Nat :=
  max 1 (cell.frame.rowSpan.getD 1)

/-- A position of a grid: a cell of the table, or what fills a position that a cell spans. -/
inductive Slot (Picture : Type) where
  | cell (source : Node Picture)
  | filler

def Slot.node : Slot Picture → Node Picture
  | .cell source => source
  | .filler => .filler

def fillers (count : Nat) : List (Slot Picture) :=
  List.replicate count .filler

/-- Puts fillers into a row at a column, or at its end if it is shorter. -/
def insertFillers (column count : Nat) (row : List (Slot Picture)) : List (Slot Picture) :=
  row.take column ++ fillers count ++ row.drop column

def fillBelow (column count : Nat) : Nat → List (List (Slot Picture)) → List (List (Slot Picture))
  | 0, below => below
  | _, [] => []
  | covered + 1, row :: below =>
    insertFillers column count row :: fillBelow column count covered below

/-- Sets a row from a column on: puts fillers beside each cell, and into the rows below for what
it spans. -/
def setCells (column : Nat) (below : List (List (Slot Picture))) :
    List (Slot Picture) → List (Slot Picture) × List (List (Slot Picture))
  | [] => ([], below)
  | .filler :: slots =>
    let others := setCells (column + 1) below slots
    (.filler :: others.1, others.2)
  | .cell source :: slots =>
    let others := setCells (column + source.columns)
      (fillBelow column source.columns (source.rows - 1) below) slots
    (.cell source :: fillers (source.columns - 1) ++ others.1, others.2)

theorem length_fillBelow (column count covered : Nat) (below : List (List (Slot Picture))) :
    (fillBelow column count covered below).length = below.length := by
  induction below generalizing covered with
  | nil => cases covered <;> rfl
  | cons row below ih => cases covered <;> simp [fillBelow, ih]

theorem length_setCells_below (column : Nat) (below : List (List (Slot Picture)))
    (slots : List (Slot Picture)) : (setCells column below slots).2.length = below.length := by
  induction slots generalizing column below with
  | nil => rfl
  | cons slot slots ih => cases slot <;> simp [setCells, ih, length_fillBelow]

def setRows : List (List (Slot Picture)) → List (List (Slot Picture))
  | [] => []
  | row :: below =>
    let placed := setCells 0 below row
    placed.1 :: setRows placed.2
termination_by rows => rows.length
decreasing_by simp [length_setCells_below]

/-- The grid of a list of rows, which tells cells and fillers apart. -/
def slotGrid (rows : List (List (Node Picture))) : List (List (Slot Picture)) :=
  setRows (rows.map (·.map .cell))

def expandSpans (rows : List (List (Node Picture))) : List (List (Node Picture)) :=
  (slotGrid rows).map (·.map Slot.node)

def Node.columnWidth? (cell : Node Picture) : Option Float :=
  (cell.frame.style.number? "width").map (· / Float.ofNat cell.columns)

def Node.rowHeight? (cell : Node Picture) : Option Float :=
  (cell.frame.style.number? "height").map (· / Float.ofNat cell.rows)

def Track.ofSizes : List Float → Track
  | [] => .auto
  | size :: sizes => .fixed (sizes.foldl Number.larger size)

def columnCount (grid : List (List (Node Picture))) : Nat :=
  grid.foldl (fun count row => max count row.length) 0

def column (grid : List (List (Node Picture))) (index : Nat) : List (Node Picture) :=
  grid.filterMap (·[index]?)

def columnTracks (grid : List (List (Node Picture))) : List Track :=
  (List.range (columnCount grid)).map fun index =>
    .ofSizes ((column grid index).filterMap Node.columnWidth?)

def rowTracks (grid : List (List (Node Picture))) : List Track :=
  grid.map fun row => .ofSizes (row.filterMap Node.rowHeight?)

end MarkupLayout.Layout
