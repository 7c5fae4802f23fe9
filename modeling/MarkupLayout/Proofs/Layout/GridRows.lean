import Mathlib.Algebra.BigOperators.Group.List.Basic
import Mathlib.Algebra.GroupWithZero.Nat
import MarkupLayout.Proofs.Layout.Words

/-!
# The rows of a grid

A table has a row for each of its row nodes with anything in it. In the grid a row keeps its cells,
unchanged and in order, with fillers around them. How long it comes out can be told from the spans
alone: every cell that reaches a row, its own or one further down, adds its columns to it.
-/

namespace MarkupLayout.Layout

variable {Picture : Type}

/-- The nodes of a table that may be rows: its children, each followed by what is in it if it is a
section, in document order. -/
def rowCandidates (children : List (Node Picture)) : List (Node Picture) :=
  children.flatMap fun child =>
    child :: if sectionTags.any (child.isTag ·) then child.children?.getD [] else []

/-- The nodes in a run or a stack, unless there are none. -/
def Node.cells? (row : Node Picture) : Option (List (Node Picture)) :=
  row.children?.filter (!·.isEmpty)

/-- A row of a grid with these cells: right behind each cell stand the fillers for its further
columns, and other fillers may stand before, between and behind the cells. -/
inductive Spread : List (Node Picture) → List (Slot Picture) → Prop where
  | nil : Spread [] []
  | filler {cells : List (Node Picture)} {row : List (Slot Picture)} (rest : Spread cells row) :
      Spread cells (.filler :: row)
  | cell {cells : List (Node Picture)} {row : List (Slot Picture)} (source : Node Picture)
      (rest : Spread cells row) :
      Spread (source :: cells) (.cell source :: fillers (source.columns - 1) ++ row)

def columnsOf (cells : List (Node Picture)) : Nat :=
  (cells.map Node.columns).sum

/-- The cells of the rows above a row that reach down to it. -/
def reaching (rows : List (List (Node Picture))) (row : Nat) : List (Node Picture) :=
  (rows.take row).zipIdx.flatMap fun above => above.1.filter fun cell => row < above.2 + cell.rows

theorem not_section_of_row {n : Node Picture} (hRow : n.isTag "tr") :
    sectionTags.any (n.isTag ·) = false := by
  rw [Node.isTag, Option.any_eq_true] at hRow
  obtain ⟨tag, hTag, hSame⟩ := hRow
  rw [List.any_eq_false]
  rintro name hName
  rw [Node.isTag, hTag, Option.any_some, Text.sameIgnoringCase, beq_iff_eq.mp hSame]
  revert name
  decide

theorem rowCells_eq (n : Node Picture) :
    rowCells n = ([n].filter (·.isTag "tr")).filterMap Node.cells? := by
  rw [rowCells, List.filter_singleton]
  cases hRow : n.isTag "tr" with
  | false => split <;> rfl
  | true =>
    rw [cond_true, List.filterMap_cons, List.filterMap_nil, Node.cells?]
    rcases n.children? with _ | _ | ⟨cell, cells⟩ <;> rfl

theorem flatMap_rowCells (nodes : List (Node Picture)) :
    nodes.flatMap rowCells = (nodes.filter (·.isTag "tr")).filterMap Node.cells? := by
  induction nodes with
  | nil => rfl
  | cons n nodes ih =>
    rw [List.flatMap_cons, ih, rowCells_eq, ← List.filterMap_append, ← List.filter_append,
      List.singleton_append]

theorem rowsOf_eq (children : List (Node Picture)) :
    rowsOf children = ((rowCandidates children).filter (·.isTag "tr")).filterMap Node.cells? := by
  rw [← flatMap_rowCells, rowCandidates, List.flatMap_assoc, rowsOf]
  congr 1
  funext child
  rw [List.flatMap_cons]
  split
  · next hRow => rw [not_section_of_row hRow, if_neg Bool.false_ne_true, List.flatMap_nil, List.append_nil]
  · next hRow =>
    have hNone : rowCells child = [] := by
      rw [rowCells_eq, List.filter_singleton, Bool.eq_false_iff.mpr hRow]
      rfl
    rw [hNone, List.nil_append]
    split <;> rfl

theorem spread_widened (row : List (Slot Picture)) : Spread (sources row) (widened row) := by
  induction row with
  | nil => exact .nil
  | cons slot row ih =>
    cases slot with
    | filler => exact .filler ih
    | cell source => exact .cell source ih

theorem widened_append (left right : List (Slot Picture)) :
    widened (left ++ right) = widened left ++ widened right := by
  induction left with
  | nil => rfl
  | cons slot left ih =>
    cases slot with
    | filler => rw [List.cons_append, widened, widened, ih, List.cons_append]
    | cell source => rw [List.cons_append, widened, widened, ih, List.append_assoc]

theorem widened_fillers (count : Nat) : widened (fillers count : List (Slot Picture)) = fillers count := by
  induction count with
  | zero => rfl
  | succ count ih =>
    rw [fillers] at ih ⊢
    rw [List.replicate_succ, widened, ih]

theorem length_widened_insertFillers (column count : Nat) (row : List (Slot Picture)) :
    (widened (insertFillers column count row)).length = (widened row).length + count := by
  have hRow : (widened row).length =
      (widened (row.take column)).length + (widened (row.drop column)).length := by
    rw [← List.length_append, ← widened_append, List.take_append_drop]
  rw [insertFillers, widened_append, widened_append, widened_fillers, List.length_append,
    List.length_append, fillers, List.length_replicate, hRow]
  omega

theorem length_widened_map_cell (cells : List (Node Picture)) :
    (widened (cells.map .cell)).length = columnsOf cells := by
  induction cells with
  | nil => rfl
  | cons cell cells ih =>
    rw [List.map_cons, widened, List.length_append, length_widened_cell, ih, columnsOf, columnsOf,
      List.map_cons, List.sum_cons]

theorem columnsOf_append (left right : List (Node Picture)) :
    columnsOf (left ++ right) = columnsOf left + columnsOf right := by
  rw [columnsOf, List.map_append, List.sum_append]
  rfl

theorem getElem?_fillBelow (column count covered : Nat) (below : List (List (Slot Picture)))
    (index : Nat) : (fillBelow column count covered below)[index]? =
      below[index]?.map fun row => if index < covered then insertFillers column count row else row := by
  induction below generalizing covered index with
  | nil => cases covered <;> rfl
  | cons row below ih =>
    cases covered with
    | zero => cases h : (row :: below)[index]? <;> simp [fillBelow, h]
    | succ covered =>
      cases index with
      | zero => simp [fillBelow]
      | succ index => simp [fillBelow, ih]

theorem length_widened_setCells_snd {below : List (List (Slot Picture))} {index : Nat}
    {other : List (Slot Picture)} (hOther : below[index]? = some other) (column : Nat)
    (row : List (Slot Picture)) :
    ∃ after, (setCells column below row).2[index]? = some after ∧
      (widened after).length =
        (widened other).length + columnsOf ((sources row).filter (index + 1 < ·.rows)) := by
  induction row generalizing column below other with
  | nil => exact ⟨other, hOther, rfl⟩
  | cons slot row ih =>
    cases slot with
    | filler => exact ih hOther (column + 1)
    | cell source =>
      have hFilled := getElem?_fillBelow column source.columns (source.rows - 1) below index
      rw [hOther, Option.map_some] at hFilled
      obtain ⟨after, hAfter, hLength⟩ := ih hFilled (column + source.columns)
      refine ⟨after, hAfter, ?_⟩
      rw [hLength, sources, List.filter_cons]
      by_cases hReach : index + 1 < source.rows
      · rw [if_pos (by omega), length_widened_insertFillers, if_pos (decide_eq_true hReach), columnsOf,
          columnsOf, List.map_cons, List.sum_cons, Nat.add_assoc]
      · rw [if_neg (by omega), if_neg (by simpa using hReach)]

theorem reaching_cons (cells : List (Node Picture)) (rows : List (List (Node Picture))) (row : Nat) :
    reaching (cells :: rows) (row + 1) = cells.filter (row + 1 < ·.rows) ++ reaching rows row := by
  rw [reaching, List.take_succ_cons, List.zipIdx_cons', List.flatMap_cons, List.flatMap_map, reaching]
  simp only [Prod.map_fst, Prod.map_snd, id_eq, Nat.zero_add, Nat.add_right_comm _ 1,
    Nat.add_lt_add_iff_right]

theorem exists_getElem?_setRows (rows : List (List (Slot Picture))) (index : Nat)
    (row : List (Slot Picture)) (hRow : rows[index]? = some row) :
    ∃ slots, (setRows rows)[index]? = some slots ∧ Spread (sources row) slots ∧
      slots.length = (widened row).length + columnsOf (reaching (rows.map sources) index) := by
  induction rows using setRows.induct generalizing index row with
  | case1 => cases hRow
  | case2 first below placed ih =>
    cases index with
    | zero =>
      obtain rfl := Option.some.inj hRow
      refine ⟨widened first, ?_, spread_widened first, rfl⟩
      rw [setRows, setCells_fst]
      rfl
    | succ index =>
      have hBelow : below[index]? = some row := hRow
      obtain ⟨after, hAfter, hWidth⟩ := length_widened_setCells_snd hBelow 0 first
      obtain ⟨slots, hSlots, hSpread, hLength⟩ := ih index after hAfter
      have hSources := map_sources_setCells_snd 0 below first
      have hSame : sources after = sources row := by
        have hMapped := congrArg (·[index]?) hSources
        simp only [List.getElem?_map, hAfter, hBelow, Option.map_some] at hMapped
        exact Option.some.inj hMapped
      refine ⟨slots, ?_, hSame ▸ hSpread, ?_⟩
      · rw [setRows]
        exact hSlots
      · rw [hLength, hWidth, hSources, List.map_cons, reaching_cons, columnsOf_append]
        omega

theorem length_expandSpans (rows : List (List (Node Picture))) :
    (expandSpans rows).length = rows.length := by
  rw [expandSpans, List.length_map, ← List.length_map sources, map_sources_slotGrid]

/-- A table has the contents of its row nodes for rows, and the grid of some rows has each of them with
its cells spread out, as long as the columns of its own cells and of those that reach down to it. -/
theorem grid_keeps_rows (children : List (Node Picture)) (rows : List (List (Node Picture))) :
    rowsOf children = ((rowCandidates children).filter (·.isTag "tr")).filterMap Node.cells? ∧
      (expandSpans rows).length = rows.length ∧
      ∀ (r : Nat) (cells : List (Node Picture)), rows[r]? = some cells →
        ∃ slots, (expandSpans rows)[r]? = some (slots.map Slot.node) ∧ Spread cells slots ∧
          slots.length = columnsOf cells + columnsOf (reaching rows r) := by
  refine ⟨rowsOf_eq children, length_expandSpans rows, fun r cells hCells => ?_⟩
  have hRow : (rows.map (·.map Slot.cell))[r]? = some (cells.map Slot.cell) := by
    rw [List.getElem?_map, hCells, Option.map_some]
  obtain ⟨slots, hSlots, hSpread, hLength⟩ := exists_getElem?_setRows _ r _ hRow
  have hSources : (rows.map (·.map Slot.cell)).map sources = rows := by
    simp only [List.map_map, Function.comp_def, sources_map_cell, List.map_id']
  rw [sources_map_cell] at hSpread
  rw [length_widened_map_cell, hSources] at hLength
  refine ⟨slots, ?_, hSpread, hLength⟩
  rw [expandSpans, slotGrid, List.getElem?_map, hSlots, Option.map_some]

def tableCell (rows columns : Nat) (content : String) : Node String :=
  .node { tag := some "TD", rowSpan := some rows, colSpan := some columns } (.text content)

/-- A table with a caption and an empty row, and with spans that overlap and go beyond the last row. -/
def sectionedTable : List (Node String) :=
  [.ofElement "caption" (.inline [.ofElement "tr" (.inline [.ofText "t"])]),
    .ofElement "thead" (.inline [.ofElement "tr" (.inline [tableCell 9 2 "a", tableCell 1 1 "b"])]),
    .ofElement "tr" (.inline []),
    .ofElement "tbody" (.stack [.ofText " ", .ofElement "tr" (.stack [tableCell 2 3 "c"])]),
    .ofElement "tr" (.inline [tableCell 0 0 "d"])]

theorem sectionedTable_rows : (rowsOf sectionedTable)[2]? = some [tableCell 0 0 "d"] ∧
    columnsOf [tableCell 0 0 "d"] = 1 ∧ columnsOf (reaching (rowsOf sectionedTable) 2) = 5 ∧
    ∃ slots, (expandSpans (rowsOf sectionedTable))[2]? = some (slots.map Slot.node) ∧
      Spread [tableCell 0 0 "d"] slots ∧
      slots.length = columnsOf [tableCell 0 0 "d"] + columnsOf (reaching (rowsOf sectionedTable) 2) := by
  have hRow : (rowsOf sectionedTable)[2]? = some [tableCell 0 0 "d"] := by rfl
  refine ⟨hRow, by decide, by decide +kernel, ?_⟩
  exact (grid_keeps_rows sectionedTable (rowsOf sectionedTable)).2.2 2 [tableCell 0 0 "d"] hRow

end MarkupLayout.Layout
