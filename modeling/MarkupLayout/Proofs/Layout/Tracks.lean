import MarkupLayout.Layout.Grid
import MarkupLayout.Proofs.Number.Comparison

/-!
# Tracks that fit a grid

Every cell of a grid stands in a column and a row with a track, however long the rows are. A track is
automatic if none of its cells has a size, and has the largest of their sizes otherwise. One pass over
the cells gives the same, which notes each size at its track and would fail at a track that is not there.
-/

namespace MarkupLayout.Layout

open Number

variable {Picture : Type}

/-- A track for a list of sizes: their largest, compared from the first one on, if there is any. -/
def Track.Fits (sizes : List Float) : Track → Prop
  | .auto => sizes = []
  | .fixed size => Largest sizes size ∧
      ∃ first rest, sizes = first :: rest ∧ size = rest.foldl larger first

def raised (largest : Option Float) : Option Float → Option Float
  | none => largest
  | some size => some (largest.elim size (larger · size))

/-- Notes the width of a cell at its column. -/
def widen? (widths : List (Option Float)) (index : Nat) : Option Float → Option (List (Option Float))
  | none => some widths
  | some width => widths[index]?.map fun largest => widths.set index (raised largest width)

def measureCells? (index : Nat) (widths : List (Option Float)) (height : Option Float) :
    List (Node Picture) → Option (List (Option Float) × Option Float)
  | [] => some (widths, height)
  | cell :: cells => (widen? widths index cell.columnWidth?).bind fun widths =>
      measureCells? (index + 1) widths (raised height cell.rowHeight?) cells

def measureRows? (widths : List (Option Float)) :
    List (List (Node Picture)) → Option (List (Option Float) × List (Option Float))
  | [] => some (widths, [])
  | row :: rows => (measureCells? 0 widths none row).bind fun met =>
      (measureRows? met.1 rows).map fun others => (others.1, met.2 :: others.2)

def Track.ofSize : Option Float → Track
  | none => .auto
  | some size => .fixed size

def measured? (grid : List (List (Node Picture))) : Option (List Track × List Track) :=
  (measureRows? (List.replicate (columnCount grid) none) grid).map fun sizes =>
    (sizes.1.map .ofSize, sizes.2.map .ofSize)

theorem columnCount_eq (grid : List (List (Node Picture))) :
    columnCount grid = (grid.map List.length).max?.getD 0 := by
  cases grid with
  | nil => rfl
  | cons row rows =>
    rw [columnCount, List.foldl_cons, Nat.zero_max, List.map_cons, List.max?_cons', Option.getD_some,
      List.foldl_map]

theorem length_le_columnCount {grid : List (List (Node Picture))} {row : List (Node Picture)}
    (h : row ∈ grid) : row.length ≤ columnCount grid := by
  rw [columnCount_eq]
  exact List.le_max?_getD_of_mem (List.mem_map_of_mem h)

/-- The cell that stands at a column, where the cells begin at a column of their own. -/
def cellAt? (start : Nat) (cells : List (Node Picture)) (index : Nat) : Option (Node Picture) :=
  if start ≤ index then cells[index - start]? else none

theorem cellAt?_zero (cells : List (Node Picture)) (index : Nat) :
    cellAt? 0 cells index = cells[index]? :=
  if_pos (Nat.zero_le index)

theorem cellAt?_of_lt {start index : Nat} (h : index < start) (cells : List (Node Picture)) :
    cellAt? start cells index = none :=
  if_neg (Nat.not_le.mpr h)

theorem cellAt?_cons_self (start : Nat) (cell : Node Picture) (cells : List (Node Picture)) :
    cellAt? start (cell :: cells) start = some cell := by
  rw [cellAt?, if_pos (Nat.le_refl start), Nat.sub_self, List.getElem?_cons_zero]

theorem cellAt?_cons_of_ne {start index : Nat} (h : index ≠ start) (cell : Node Picture)
    (cells : List (Node Picture)) :
    cellAt? start (cell :: cells) index = cellAt? (start + 1) cells index := by
  rcases Nat.lt_or_gt_of_ne h with hBefore | hBehind
  · rw [cellAt?_of_lt hBefore, cellAt?_of_lt (Nat.lt_succ_of_lt hBefore)]
  · obtain ⟨others, rfl⟩ := Nat.exists_eq_add_of_lt hBehind
    rw [cellAt?, cellAt?, if_pos (by omega), if_pos (by omega),
      show start + others + 1 - start = others + 1 by omega,
      show start + others + 1 - (start + 1) = others by omega, List.getElem?_cons_succ]

theorem widen?_eq {count index : Nat} (h : index < count) (largest : Nat → Option Float)
    (width : Option Float) :
    widen? ((List.range count).map largest) index width = some ((List.range count).map fun other =>
      if other = index then raised (largest other) width else largest other) := by
  cases width with
  | none => simp only [widen?, raised, ite_self]
  | some width =>
    rw [widen?, List.getElem?_map, List.getElem?_range h, Option.map_some, Option.map_some]
    congr 1
    refine List.ext_getElem (by simp) fun other _ _ => ?_
    by_cases hOther : other = index
    · simp [hOther]
    · simp [hOther, List.getElem_set_ne (Ne.symm hOther)]

/-- A row as long as the columns at most is measured without fail; each of its cells raises the width of
its own column and the height of the row. -/
theorem measureCells?_eq {count index : Nat} (cells : List (Node Picture))
    (h : index + cells.length ≤ count) (largest : Nat → Option Float) (height : Option Float) :
    measureCells? index ((List.range count).map largest) height cells =
      some ((List.range count).map fun other =>
          raised (largest other) ((cellAt? index cells other).bind Node.columnWidth?),
        (cells.map Node.rowHeight?).foldl raised height) := by
  induction cells generalizing index largest height with
  | nil =>
    have hNone (other : Nat) : cellAt? index ([] : List (Node Picture)) other = none := by
      simp [cellAt?]
    simp only [measureCells?, hNone, Option.bind_none, raised, List.map_nil, List.foldl_nil]
  | cons cell cells ih =>
    rw [List.length_cons] at h
    rw [measureCells?, widen?_eq (by omega), Option.bind_some, ih (by omega), List.map_cons,
      List.foldl_cons]
    congr 3
    funext other
    by_cases hOther : other = index
    · subst hOther
      rw [if_pos rfl, cellAt?_of_lt (Nat.lt_succ_self other), cellAt?_cons_self, Option.bind_none, raised,
        Option.bind_some]
    · rw [if_neg hOther, cellAt?_cons_of_ne hOther]

theorem measureRows?_eq {count : Nat} (rows : List (List (Node Picture)))
    (h : ∀ row ∈ rows, row.length ≤ count) (largest : Nat → Option Float) :
    measureRows? ((List.range count).map largest) rows =
      some ((List.range count).map fun index =>
          (rows.map fun row => row[index]?.bind Node.columnWidth?).foldl raised (largest index),
        rows.map fun row => (row.map Node.rowHeight?).foldl raised none) := by
  induction rows generalizing largest with
  | nil => rfl
  | cons row rows ih =>
    obtain ⟨hRow, hRows⟩ := List.forall_mem_cons.mp h
    rw [measureRows?, measureCells?_eq row (by omega), Option.bind_some, ih hRows, Option.map_some]
    simp only [cellAt?_zero, List.map_cons, List.foldl_cons]

theorem foldl_raised_some (sizes : List (Option Float)) (first : Float) :
    sizes.foldl raised (some first) = some ((sizes.filterMap id).foldl larger first) := by
  induction sizes generalizing first with
  | nil => rfl
  | cons size sizes ih =>
    cases size with
    | none => exact ih first
    | some size => exact ih (larger first size)

theorem ofSize_foldl_raised (sizes : List (Option Float)) :
    Track.ofSize (sizes.foldl raised none) = Track.ofSizes (sizes.filterMap id) := by
  induction sizes with
  | nil => rfl
  | cons size sizes ih =>
    cases size with
    | none => exact ih
    | some size =>
      rw [List.foldl_cons, raised, Option.elim_none, foldl_raised_some]
      rfl

theorem measured?_eq (grid : List (List (Node Picture))) :
    measured? grid = some (columnTracks grid, rowTracks grid) := by
  have hStart : List.replicate (columnCount grid) none =
      (List.range (columnCount grid)).map fun _ => (none : Option Float) := by
    rw [List.map_const', List.length_range]
  have hColumn (index : Nat) : (grid.map fun row => row[index]?.bind Node.columnWidth?).filterMap id =
      (column grid index).filterMap Node.columnWidth? := by
    rw [column, List.filterMap_filterMap, List.filterMap_map]
    rfl
  have hRow (row : List (Node Picture)) : (row.map Node.rowHeight?).filterMap id =
      row.filterMap Node.rowHeight? := by
    rw [List.filterMap_map]
    rfl
  rw [measured?, hStart, measureRows?_eq grid fun _ => length_le_columnCount]
  simp only [Option.map_some, List.map_map, Function.comp_def, ofSize_foldl_raised, hColumn, hRow]
  rfl

theorem Track.fits_ofSizes (sizes : List Float) : (ofSizes sizes).Fits sizes := by
  cases sizes with
  | nil => rfl
  | cons first rest => exact ⟨largest_foldl_larger first rest, first, rest, rfl, rfl⟩

theorem Track.ofSizes_eq_auto_iff (sizes : List Float) : ofSizes sizes = .auto ↔ sizes = [] := by
  cases sizes with
  | nil => exact iff_of_true rfl rfl
  | cons first rest => exact iff_of_false nofun nofun

/-- All cells are measured in one pass, in which each finds the track of its column, and this gives the
tracks. There is a track for each column of the longest row and one for each row. A track is automatic
exactly if no cell in it has a size, and otherwise has the largest of their sizes, compared in the order
of the rows, where a cell that spans several tracks counts with its share of one. -/
theorem tracks_fit (grid : List (List (Node Picture))) :
    measured? grid = some (columnTracks grid, rowTracks grid) ∧
    (columnTracks grid).length = (grid.map List.length).max?.getD 0 ∧
    (rowTracks grid).length = grid.length ∧
    (∀ (index : Nat) (track : Track), (columnTracks grid)[index]? = some track →
      (track = .auto ↔ ∀ row ∈ grid, ∀ cell, row[index]? = some cell →
        cell.frame.style.number? "width" = none) ∧
      track.Fits ((column grid index).filterMap fun cell =>
        (cell.frame.style.number? "width").map (· / Float.ofNat (max 1 (cell.frame.colSpan.getD 1))))) ∧
    ∀ (index : Nat) (row : List (Node Picture)), grid[index]? = some row →
      ∃ track, (rowTracks grid)[index]? = some track ∧
      (track = .auto ↔ ∀ cell ∈ row, cell.frame.style.number? "height" = none) ∧
      track.Fits (row.filterMap fun cell =>
        (cell.frame.style.number? "height").map (· / Float.ofNat (max 1 (cell.frame.rowSpan.getD 1)))) := by
  refine ⟨measured?_eq grid, ?_, ?_, ?_, ?_⟩
  · rw [columnTracks, List.length_map, List.length_range, columnCount_eq]
  · rw [rowTracks, List.length_map]
  · intro index track hTrack
    obtain ⟨hIndex, rfl⟩ := List.getElem?_eq_some_iff.mp hTrack
    simp only [columnTracks, List.getElem_map, List.getElem_range]
    refine ⟨?_, Track.fits_ofSizes _⟩
    rw [Track.ofSizes_eq_auto_iff, List.filterMap_eq_nil_iff]
    simp only [column, List.mem_filterMap, Node.columnWidth?, Option.map_eq_none_iff]
    constructor
    · exact fun hNone row hRow cell hCell => hNone cell ⟨row, hRow, hCell⟩
    · rintro hNone cell ⟨row, hRow, hCell⟩
      exact hNone row hRow cell hCell
  · intro index row hRow
    refine ⟨.ofSizes (row.filterMap Node.rowHeight?), ?_, ?_, Track.fits_ofSizes _⟩
    · rw [rowTracks, List.getElem?_map, hRow, Option.map_some]
    · rw [Track.ofSizes_eq_auto_iff, List.filterMap_eq_nil_iff]
      simp only [Node.rowHeight?, Option.map_eq_none_iff]

end MarkupLayout.Layout
