import MarkupLayout.Proofs.Layout.Delay

/-!
# Buried cells

A cell is buried when it comes to stand in a position that another cell spans. As long as all rows
come out as planned, the rows still to be set hold the fillers of the columns opened so far, put in
in time order. Hence the first row whose plan is not orderly buries a cell, and rows that tile a
rectangle bury none exactly when all their plans are orderly.
-/

namespace MarkupLayout.Layout

variable {Picture : Type}

def entryAt {α : Type} (grid : List (List α)) (row column : Nat) : Option α :=
  grid[row]?.bind (·[column]?)

/-- Every position that a cell spans, apart from the one where it stands, holds a filler. -/
def NoneBuried (grid : List (List (Slot Picture))) : Prop :=
  ∀ row column source, entryAt grid row column = some (.cell source) →
    ∀ i j, i < source.rows → j < source.columns → (i, j) ≠ (0, 0) →
      entryAt grid (row + i) (column + j) = some .filler

/-- Rows with a filler in each column that is covered from above, put in in the given order. -/
def pending (row : Nat) (opens : List (Cover × Nat)) (rows : List (List (Slot Picture))) :
    List (List (Slot Picture)) :=
  opens.foldl (fun rows entry => fillBelow entry.2 1 (entry.1.stop - row) rows) rows

theorem pending_cons (row : Nat) (opens : List (Cover × Nat)) (first : List (Slot Picture))
    (rows : List (List (Slot Picture))) :
    pending row opens (first :: rows) =
      insertAll (opens.filter fun entry => row < entry.1.stop) first :: pending (row + 1) opens rows := by
  induction opens generalizing first rows with
  | nil => rfl
  | cons entry opens ih =>
    have hStep (rows : List (List (Slot Picture))) : pending row (entry :: opens) rows =
        pending row opens (fillBelow entry.2 1 (entry.1.stop - row) rows) := rfl
    have hNext : pending (row + 1) (entry :: opens) rows =
        pending (row + 1) opens (fillBelow entry.2 1 (entry.1.stop - (row + 1)) rows) := rfl
    rw [hStep, hNext]
    by_cases hLive : row < entry.1.stop
    · have hRest : entry.1.stop - row = entry.1.stop - (row + 1) + 1 := by omega
      rw [hRest, fillBelow, ih, List.filter_cons_of_pos (by simpa using hLive)]
      rfl
    · have hZero : entry.1.stop - row = 0 := by omega
      have hZeroNext : entry.1.stop - (row + 1) = 0 := by omega
      rw [hZero, hZeroNext, fillBelow, fillBelow, ih, List.filter_cons_of_neg (by simpa using hLive)]

theorem fillBelow_succ (column count covered : Nat) (rows : List (List (Slot Picture))) :
    fillBelow column (count + 1) covered rows =
      fillBelow (column + count) 1 covered (fillBelow column count covered rows) := by
  induction rows generalizing covered with
  | nil => cases covered <;> rfl
  | cons row rows ih =>
    cases covered with
    | zero => rfl
    | succ covered => rw [fillBelow, fillBelow, fillBelow, insertFillers_succ, ih]

theorem fillBelow_zero (column covered : Nat) (rows : List (List (Slot Picture))) :
    fillBelow column 0 covered rows = rows := by
  induction rows generalizing covered with
  | nil => cases covered <;> rfl
  | cons row rows ih =>
    cases covered with
    | zero => rfl
    | succ covered =>
      rw [fillBelow, ih, insertFillers, fillers, List.replicate_zero, List.append_nil,
        List.take_append_drop]

theorem fillBelow_eq_foldl (cover : Cover) (column count covered : Nat)
    (rows : List (List (Slot Picture))) :
    fillBelow column count covered rows = ((List.replicate count cover).zipIdx column).foldl
      (fun rows entry => fillBelow entry.2 1 covered rows) rows := by
  induction count with
  | zero => exact fillBelow_zero column covered rows
  | succ count ih =>
    rw [fillBelow_succ, ih, List.replicate_succ', List.zipIdx_append, List.foldl_append,
      List.length_replicate]
    rfl

theorem setCells_snd_eq_pending (row : Nat) (slots : List (Slot Picture))
    (rows : List (List (Slot Picture))) :
    (setCells 0 rows slots).2 = pending (row + 1) (opened row (spots 0 slots)) rows := by
  rw [setCells_snd, pending, opened, List.foldl_flatMap]
  congr 1
  funext rows spot
  rw [fillBelow_eq_foldl ⟨row, row + spot.2.rows⟩]
  apply List.foldl_ext
  intro rows entry hEntry
  have hCover := List.eq_of_mem_replicate (List.fst_mem_of_mem_zipIdx hEntry)
  rw [hCover]
  congr 1
  show spot.2.rows - 1 = row + spot.2.rows - (row + 1)
  omega

theorem setRows_pending_cons (row : Nat) (opens : List (Cover × Nat)) (first : List (Slot Picture))
    (rows : List (List (Slot Picture))) :
    setRows (pending row opens (first :: rows)) =
      let made := insertAll (opens.filter fun entry => row < entry.1.stop) first
      widened made :: setRows (pending (row + 1) (opens ++ opened row (spots 0 made)) rows) := by
  rw [pending_cons, setRows, setCells_fst, setCells_snd_eq_pending row]
  simp only [pending, List.foldl_append]

theorem length_setRows (rows : List (List (Slot Picture))) : (setRows rows).length = rows.length := by
  induction hLength : rows.length generalizing rows with
  | zero => rw [List.length_eq_zero_iff.mp hLength, setRows, List.length_nil]
  | succ length ih =>
    obtain ⟨row, below, rfl⟩ := List.exists_cons_of_length_eq_add_one hLength
    rw [setRows, List.length_cons, ih _ ((length_setCells_below ..).trans (Nat.succ.inj hLength))]

/-- Columns opened by the rows above, in time order; those that still reach down are the columns
of the skyline that are not free. -/
structure Opens (row : Nat) (skyline : List Cover) (opens : List (Cover × Nat)) : Prop where
  sorted : opens.Pairwise Earlier
  started : ∀ entry ∈ opens, entry.1.start < row
  live : ∀ entry, row < entry.1.stop → (entry ∈ opens ↔ entry ∈ skyline.zipIdx)

theorem le_of_mem_opened {row column : Nat} {slots : List (Slot Picture)} {entry : Cover × Nat}
    (h : entry ∈ opened row (spots column slots)) : column ≤ entry.2 := by
  induction slots generalizing column with
  | nil => cases h
  | cons slot slots ih =>
    cases slot with
    | filler => exact Nat.le_of_succ_le (ih h)
    | cell source =>
      rcases List.mem_append.mp h with h | h
      · exact (List.mk_mem_zipIdx_iff_le_and_getElem?_sub.mp h).1
      · exact Nat.le_trans (Nat.le_add_right ..) (ih h)

theorem pairwise_opened (row column : Nat) (slots : List (Slot Picture)) :
    (opened row (spots column slots)).Pairwise Earlier := by
  have hStart {column : Nat} {slots : List (Slot Picture)} {entry : Cover × Nat}
      (h : entry ∈ opened row (spots column slots)) : entry.1.start = row := by
    obtain ⟨_, _, _, hCover, _⟩ := mem_opened_iff.mp h
    rw [hCover]
  induction slots generalizing column with
  | nil => exact List.Pairwise.nil
  | cons slot slots ih =>
    cases slot with
    | filler => exact ih (column + 1)
    | cell source =>
      refine List.pairwise_append.mpr ⟨?_, ih _, fun left hLeft right hRight => .inr ⟨?_, ?_⟩⟩
      · rw [List.pairwise_iff_getElem]
        intro i j hi hj hLt
        rw [List.getElem_zipIdx, List.getElem_zipIdx, List.getElem_replicate, List.getElem_replicate]
        exact .inr ⟨rfl, Nat.add_lt_add_left hLt column⟩
      · rw [List.eq_of_mem_replicate (List.fst_mem_of_mem_zipIdx hLeft), hStart hRight]
      · have hLt := List.snd_lt_add_of_mem_zipIdx hLeft
        rw [List.length_replicate] at hLt
        exact Nat.lt_of_lt_of_le hLt (le_of_mem_opened hRight)

theorem opens_nil (width : Nat) : Opens 0 (List.replicate width ⟨0, 0⟩) [] where
  sorted := List.Pairwise.nil
  started entry h := absurd h List.not_mem_nil
  live entry hStop := by
    refine ⟨fun h => absurd h List.not_mem_nil, fun h => ?_⟩
    rw [List.eq_of_mem_replicate (List.fst_mem_of_mem_zipIdx h)] at hStop
    cases hStop

section Opens

variable {row : Nat} {skyline : List Cover} {opens : List (Cover × Nat)}
  {cells : List (Node Picture)} {plan : Plan Picture}

theorem Opens.made (hOpens : Opens row skyline opens) (fits : Fits row skyline cells plan) :
    plan.Made (insertAll (opens.filter fun entry => row < entry.1.stop) (cells.map .cell)) := by
  have hSorted := hOpens.sorted.filter fun entry => decide (row < entry.1.stop)
  refine ⟨_, hSorted, ?_, by rw [fits.sources_eq]⟩
  have hNodup : (plan.covers 0).Nodup := by
    refine (pairwise_covers 0 plan).imp fun {a b} hab => ?_
    rintro rfl
    exact Nat.lt_irrefl _ hab
  apply (List.perm_ext_iff_of_nodup (nodup_of_pairwise_earlier hSorted) hNodup).mpr
  intro entry
  rw [fits.covers_eq, List.mem_filter, List.mem_filter, decide_eq_true_iff]
  exact and_congr_left fun hLive => hOpens.live entry hLive

/-- A row that comes out as planned opens the columns of its cells. -/
theorem Opens.next (hOpens : Opens row skyline opens) (fits : Fits row skyline cells plan) :
    Opens (row + 1) (plan.skyline row) (opens ++ opened row (spots 0 plan.slots)) where
  sorted := by
    refine List.pairwise_append.mpr ⟨hOpens.sorted, pairwise_opened row 0 _, fun left hLeft right hRight => ?_⟩
    obtain ⟨_, _, _, hCover, _⟩ := mem_opened_iff.mp hRight
    refine .inl ?_
    rw [hCover]
    exact hOpens.started left hLeft
  started entry h := by
    rcases List.mem_append.mp h with h | h
    · exact Nat.lt_succ_of_lt (hOpens.started entry h)
    · obtain ⟨_, _, _, hCover, _⟩ := mem_opened_iff.mp h
      rw [hCover]
      exact Nat.lt_succ_self row
  live entry hStop := by
    have hLive : row < entry.1.stop := Nat.lt_of_succ_lt hStop
    rw [List.mem_append, mem_skyline_iff, fits.covers_eq, List.mem_filter, decide_eq_true_iff,
      hOpens.live entry hLive, and_iff_left hLive]

end Opens

section Tiling

variable {rows : List (List (Node Picture))} {plans : List (Plan Picture)}

theorem Tiles.exists_made {row : Nat} {skyline : List Cover} (h : Tiles row skyline rows plans)
    {opens : List (Cover × Nat)} (hOpens : Opens row skyline opens) {index : Nat}
    {plan : Plan Picture} (hPlan : plans[index]? = some plan)
    (hAbove : ∀ above < index, ∀ other, plans[above]? = some other → other.Orderly) :
    ∃ made, (setRows (pending row opens (rows.map (·.map .cell))))[index]? = some (widened made) ∧
      plan.Made made := by
  induction h generalizing opens index with
  | done => cases hPlan
  | row fits _ ih =>
    have hMade := hOpens.made fits
    rw [List.map_cons, setRows_pending_cons]
    cases index with
    | zero =>
      obtain rfl := Option.some.inj hPlan
      exact ⟨_, rfl, hMade⟩
    | succ index =>
      have hFirst := hAbove 0 (Nat.succ_pos index) _ rfl
      rcases hMade.eq_slots_or_buried with ⟨-, hEq⟩ | ⟨hNot, -⟩
      · rw [hEq]
        exact ih (hOpens.next fits) hPlan fun above hLt other hOther =>
          hAbove (above + 1) (Nat.succ_lt_succ hLt) other hOther
      · exact absurd hFirst hNot

theorem Tiling.exists_made (h : Tiling rows plans) {index : Nat} {plan : Plan Picture}
    (hPlan : plans[index]? = some plan)
    (hAbove : ∀ above < index, ∀ other, plans[above]? = some other → other.Orderly) :
    ∃ made, (slotGrid rows)[index]? = some (widened made) ∧ plan.Made made := by
  obtain ⟨width, hTiles⟩ := h
  exact hTiles.exists_made (opens_nil width) hPlan hAbove

theorem Tiling.getElem?_of_orderly (h : Tiling rows plans) {index : Nat} {plan : Plan Picture}
    (hPlan : plans[index]? = some plan)
    (hAbove : ∀ above ≤ index, ∀ other, plans[above]? = some other → other.Orderly) :
    (slotGrid rows)[index]? = some (widened plan.slots) := by
  obtain ⟨made, hRow, hMade⟩ := h.exists_made hPlan fun above hLt => hAbove above (Nat.le_of_lt hLt)
  rcases hMade.eq_slots_or_buried with ⟨-, hEq⟩ | ⟨hNot, -⟩
  · rw [hRow, hEq]
  · exact absurd (hAbove index (Nat.le_refl index) plan hPlan) hNot

theorem Tiling.length_slotGrid (h : Tiling rows plans) : (slotGrid rows).length = plans.length := by
  obtain ⟨_, hTiles⟩ := h
  rw [slotGrid, length_setRows, List.length_map, hTiles.length_eq]

theorem entryAt_expandSpans (rows : List (List (Node Picture))) (row column : Nat) :
    entryAt (expandSpans rows) row column = (entryAt (slotGrid rows) row column).map Slot.node := by
  rw [entryAt, entryAt, expandSpans, List.getElem?_map]
  cases (slotGrid rows)[row]? with
  | none => rfl
  | some slots => exact List.getElem?_map ..

theorem entryAt_of_mem_zipIdx {grid : List (List (Slot Picture))} {row column : Nat}
    {slots : List (Slot Picture)} {slot : Slot Picture} (hRow : grid[row]? = some slots)
    (h : (slot, column) ∈ slots.zipIdx) : entryAt grid row column = some slot := by
  rw [entryAt, hRow]
  exact List.mk_mem_zipIdx_iff_getElem?.mp h

theorem filler_of_mem_covers {plan : Plan Picture} {entry : Cover × Nat} (h : entry ∈ plan.covers 0) :
    (.filler, entry.2) ∈ (widened plan.slots).zipIdx :=
  filler_of_mem_gaps (gaps_slots 0 plan ▸ List.mem_map_of_mem h)

theorem Tiling.noneBuried (h : Tiling rows plans) (hOrderly : ∀ plan ∈ plans, plan.Orderly) :
    NoneBuried (slotGrid rows) := by
  have hRow {index : Nat} {plan : Plan Picture} (hPlan : plans[index]? = some plan) :=
    h.getElem?_of_orderly hPlan fun above _ other hOther => hOrderly other (List.mem_of_getElem? hOther)
  intro row column source hSource i j hi hj hNe
  obtain ⟨slots, hSlots, hColumn⟩ := Option.bind_eq_some_iff.mp hSource
  have hLt : row < plans.length := by
    rw [← h.length_slotGrid]
    exact (List.getElem?_eq_some_iff.mp hSlots).1
  have hPlan := List.getElem?_eq_getElem hLt
  obtain rfl := Option.some.inj (hSlots.symm.trans (hRow hPlan))
  have hSpot : (column, source) ∈ spots 0 plans[row].slots :=
    mem_spots_iff.mpr (List.mk_mem_zipIdx_iff_getElem?.mpr hColumn)
  obtain ⟨_, hTiles⟩ := h
  cases i with
  | zero =>
    have hPos : 0 < j := Nat.pos_of_ne_zero fun hj => hNe (by rw [hj])
    exact entryAt_of_mem_zipIdx hSlots (filler_of_mem_spots hSpot hPos hj)
  | succ i =>
    have hOpened : ((⟨row, row + source.rows⟩, column + j) : Cover × Nat) ∈
        opened (0 + row) (spots 0 plans[row].slots) := by
      rw [Nat.zero_add]
      exact mem_opened_iff.mpr ⟨column, source, hSpot, rfl, Nat.le_add_right .., Nat.add_lt_add_left hj _⟩
    have hReach : 0 + row + (i + 1) < row + source.rows := by omega
    obtain ⟨below, hBelow, hCovers⟩ := hTiles.covers_of_opened hPlan hOpened hReach
    exact entryAt_of_mem_zipIdx (hRow hBelow) (filler_of_mem_covers hCovers)

/-- The first row that is not orderly has a cell in a column that a cell above covers. -/
theorem Tiling.orderly_of_noneBuried (h : Tiling rows plans) (hNone : NoneBuried (slotGrid rows)) :
    ∀ (index : Nat) (plan : Plan Picture), plans[index]? = some plan → plan.Orderly := by
  intro index
  induction index using Nat.strongRecOn with
  | ind index ih =>
    intro plan hPlan
    obtain ⟨made, hRow, hMade⟩ := h.exists_made hPlan ih
    rcases hMade.eq_slots_or_buried with ⟨hOrderly, -⟩ | ⟨-, position, source, hSpot, hGap⟩
    · exact hOrderly
    · rw [gaps_slots] at hGap
      obtain ⟨entry, hCovers, rfl⟩ := List.mem_map.mp hGap
      obtain ⟨above, hAbove, other, hOther, column, first, hFirst, hReach, hLe, hLt⟩ :=
        h.exists_spot_of_covers hPlan hCovers
      have hAboveRow := h.getElem?_of_orderly hOther fun higher hHigher =>
        ih higher (Nat.lt_of_le_of_lt hHigher hAbove)
      have hFiller := hNone above column first
        (entryAt_of_mem_zipIdx hAboveRow (mem_spots_iff.mp hFirst)) (index - above) (entry.2 - column)
        (by omega) (by omega) (fun hZero => by have := (Prod.mk.inj hZero).1; omega)
      rw [Nat.add_sub_cancel' (Nat.le_of_lt hAbove), Nat.add_sub_cancel' hLe,
        entryAt_of_mem_zipIdx hRow (mem_spots_iff.mp hSpot)] at hFiller
      cases hFiller

/-- Rows that tile a rectangle bury a cell unless in front of each cell of a row the covered
columns come behind cells of one column and behind columns that were covered no later. -/
theorem noneBuried_iff_orderly (h : Tiling rows plans) :
    (∀ row column, entryAt (expandSpans rows) row column =
      (entryAt (slotGrid rows) row column).map Slot.node) ∧
    (NoneBuried (slotGrid rows) ↔ ∀ plan ∈ plans, plan.Orderly) := by
  refine ⟨fun row column => entryAt_expandSpans rows row column, ?_⟩
  constructor
  · intro hNone plan hPlan
    obtain ⟨index, hIndex⟩ := List.getElem?_of_mem hPlan
    exact h.orderly_of_noneBuried hNone index plan hIndex
  · exact h.noneBuried

end Tiling

def spanning (rows columns : Nat) (content : String) : Node String :=
  .node { rowSpan := some rows, colSpan := some columns } (.text content)

def tallBesideWide : List (List (Node String)) :=
  [[spanning 2 2 "a", spanning 1 1 "b", spanning 3 1 "c"],
    [spanning 1 1 "d"],
    [spanning 1 3 "e"]]

def tallBesideWidePlans : List (Plan String) :=
  [[.cell (spanning 2 2 "a"), .cell (spanning 1 1 "b"), .cell (spanning 3 1 "c")],
    [.covered ⟨0, 2⟩, .covered ⟨0, 2⟩, .cell (spanning 1 1 "d"), .covered ⟨0, 3⟩],
    [.cell (spanning 1 3 "e"), .covered ⟨0, 3⟩]]

theorem tallBesideWide_tiles : Tiling tallBesideWide tallBesideWidePlans := by
  refine ⟨4, .row ?_ (.row ?_ (.row ?_ (.done (by decide))))⟩
  · exact .cell_of_take (by decide) (by decide) (.cell_of_take (by decide) (by decide)
      (.cell_of_take (by decide) (by decide) .done))
  · exact .covered (by decide) (.covered (by decide) (.cell_of_take (by decide) (by decide)
      (.covered (by decide) .done)))
  · exact .cell_of_take (by decide) (by decide) (.covered (by decide) .done)

theorem tallBesideWide_noneBuried :
    Tiling tallBesideWide tallBesideWidePlans ∧ NoneBuried (slotGrid tallBesideWide) := by
  refine ⟨tallBesideWide_tiles, (noneBuried_iff_orderly tallBesideWide_tiles).2.mpr ?_⟩
  intro plan hPlan
  rcases List.mem_cons.mp hPlan with rfl | hPlan
  · exact Plan.orderly_of_pairwise (by decide)
  rcases List.mem_cons.mp hPlan with rfl | hPlan
  · exact Plan.orderly_of_pairwise (by decide)
  · obtain rfl := List.mem_singleton.mp hPlan
    have hFirst : Plan.Orderly [.cell (spanning 1 3 "e")] := Plan.orderly_of_pairwise (by decide)
    exact hFirst.append_covered ⟨0, 3⟩

def wideBeforeTall : List (List (Node String)) :=
  [[spanning 1 1 "a", spanning 1 1 "b", spanning 2 1 "c", spanning 1 1 "d"],
    [spanning 1 2 "e", spanning 1 1 "f"]]

theorem wideBeforeTall_tiles : Tiling wideBeforeTall
    [[.cell (spanning 1 1 "a"), .cell (spanning 1 1 "b"), .cell (spanning 2 1 "c"),
        .cell (spanning 1 1 "d")],
      [.cell (spanning 1 2 "e"), .covered ⟨0, 2⟩, .cell (spanning 1 1 "f")]] := by
  refine ⟨4, .row ?_ (.row ?_ (.done (by decide)))⟩
  · exact .cell_of_take (by decide) (by decide) (.cell_of_take (by decide) (by decide)
      (.cell_of_take (by decide) (by decide) (.cell_of_take (by decide) (by decide) .done)))
  · exact .cell_of_take (by decide) (by decide) (.covered (by decide)
      (.cell_of_take (by decide) (by decide) .done))

theorem slotGrid_wideBeforeTall : slotGrid wideBeforeTall =
    [[.cell (spanning 1 1 "a"), .cell (spanning 1 1 "b"), .cell (spanning 2 1 "c"),
        .cell (spanning 1 1 "d")],
      [.cell (spanning 1 2 "e"), .filler, .cell (spanning 1 1 "f"), .filler]] := by
  simp [slotGrid, wideBeforeTall, setRows, setCells, fillBelow, insertFillers, fillers,
    Node.columns, Node.rows, spanning, Node.frame]

/-- The cell behind the wide one comes to stand where the span reaches down. -/
theorem wideBeforeTall_buries :
    (∃ plans, Tiling wideBeforeTall plans) ∧ ¬NoneBuried (slotGrid wideBeforeTall) := by
  refine ⟨⟨_, wideBeforeTall_tiles⟩, fun hNone => ?_⟩
  rw [slotGrid_wideBeforeTall] at hNone
  have hFiller := hNone 0 2 (spanning 2 1 "c") rfl 1 0 (by decide) (by decide) (by decide)
  cases hFiller

end MarkupLayout.Layout
