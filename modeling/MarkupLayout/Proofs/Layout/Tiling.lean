import MarkupLayout.Proofs.Layout.SlotRow

/-!
# Tables as tilings

In the table model of HTML the cells of a row go from left to right into the first columns that no
row span from above covers. A skyline tells for each column the rows of the cell that stands in it
last; a row fits a skyline if its cells fill the free columns without overlap and without a gap,
and rows tile a rectangle if each fits the skyline of the one above and no span goes beyond the
last. The plan of a row lists what stands in it; plans tell which cell covers which position.
-/

namespace MarkupLayout.Layout

variable {Picture : Type}

/-- The rows of a cell, from its own up to the first that it does not reach. -/
structure Cover where
  start : Nat
  stop : Nat
deriving DecidableEq, Repr

/-- A part of a row: a column that a cell above covers, or a cell of the row. -/
inductive Mark (Picture : Type) where
  | covered (cover : Cover)
  | cell (source : Node Picture)

abbrev Plan (Picture : Type) := List (Mark Picture)

/-- The plan of a row whose cells fill the free columns of a skyline. -/
inductive Fits (row : Nat) : List Cover → List (Node Picture) → Plan Picture → Prop where
  | done : Fits row [] [] []
  | covered {cover : Cover} {skyline : List Cover} {cells : List (Node Picture)}
      {plan : Plan Picture} (hCovered : row < cover.stop) (rest : Fits row skyline cells plan) :
      Fits row (cover :: skyline) cells (.covered cover :: plan)
  | cell {free skyline : List Cover} {source : Node Picture} {cells : List (Node Picture)}
      {plan : Plan Picture} (hLength : free.length = source.columns)
      (hFree : ∀ cover ∈ free, cover.stop ≤ row) (rest : Fits row skyline cells plan) :
      Fits row (free ++ skyline) (source :: cells) (.cell source :: plan)

/-- What a part of a row contributes to the skyline below. -/
def Mark.skyline (row : Nat) : Mark Picture → List Cover
  | .covered cover => [cover]
  | .cell source => List.replicate source.columns ⟨row, row + source.rows⟩

def Plan.skyline (row : Nat) (plan : Plan Picture) : List Cover :=
  plan.flatMap (Mark.skyline row)

/-- Rows that fill the space below a skyline, each with its plan. -/
inductive Tiles : Nat → List Cover → List (List (Node Picture)) → List (Plan Picture) → Prop where
  | done {row : Nat} {skyline : List Cover} (hEnd : ∀ cover ∈ skyline, cover.stop ≤ row) :
      Tiles row skyline [] []
  | row {row : Nat} {skyline : List Cover} {cells : List (Node Picture)} {plan : Plan Picture}
      {rows : List (List (Node Picture))} {plans : List (Plan Picture)}
      (fits : Fits row skyline cells plan) (rest : Tiles (row + 1) (plan.skyline row) rows plans) :
      Tiles row skyline (cells :: rows) (plan :: plans)

/-- Rows that tile a rectangle of some width. -/
def Tiling (rows : List (List (Node Picture))) (plans : List (Plan Picture)) : Prop :=
  ∃ width, Tiles 0 (List.replicate width ⟨0, 0⟩) rows plans

def Mark.slot : Mark Picture → Slot Picture
  | .covered _ => .filler
  | .cell source => .cell source

def Plan.slots (plan : Plan Picture) : List (Slot Picture) :=
  plan.map Mark.slot

theorem slots_covered (cover : Cover) (plan : Plan Picture) :
    Plan.slots (.covered cover :: plan) = .filler :: plan.slots := rfl

theorem slots_cell (source : Node Picture) (plan : Plan Picture) :
    Plan.slots (.cell source :: plan) = .cell source :: plan.slots := rfl

def Plan.covers (column : Nat) : Plan Picture → List (Cover × Nat)
  | [] => []
  | .covered cover :: plan => (cover, column) :: Plan.covers (column + 1) plan
  | .cell source :: plan => Plan.covers (column + source.columns) plan

/-- The columns that cells of a row cover from then on. -/
def opened (row : Nat) (spots : List (Nat × Node Picture)) : List (Cover × Nat) :=
  spots.flatMap fun spot => (List.replicate spot.2.columns ⟨row, row + spot.2.rows⟩).zipIdx spot.1

theorem gaps_slots (column : Nat) (plan : Plan Picture) :
    gaps column plan.slots = (plan.covers column).map Prod.snd := by
  induction plan generalizing column with
  | nil => rfl
  | cons mark plan ih =>
    cases mark with
    | covered cover => exact congrArg (column :: ·) (ih (column + 1))
    | cell source => exact ih (column + source.columns)

theorem mem_opened_iff {row : Nat} {spots : List (Nat × Node Picture)} {entry : Cover × Nat} :
    entry ∈ opened row spots ↔ ∃ column source, (column, source) ∈ spots ∧
      entry.1 = ⟨row, row + source.rows⟩ ∧ column ≤ entry.2 ∧ entry.2 < column + source.columns := by
  obtain ⟨cover, position⟩ := entry
  simp only [opened, List.mem_flatMap, Prod.exists, List.mk_mem_zipIdx_iff_le_and_getElem?_sub,
    List.getElem?_replicate, Option.ite_none_right_eq_some, Option.some.injEq]
  constructor
  · rintro ⟨column, source, hSpot, hLe, hLt, rfl⟩
    exact ⟨column, source, hSpot, rfl, hLe, by omega⟩
  · rintro ⟨column, source, hSpot, rfl, hLe, hLt⟩
    exact ⟨column, source, hSpot, hLe, by omega, rfl⟩

theorem Fits.sources_eq {row : Nat} {skyline : List Cover} {cells : List (Node Picture)}
    {plan : Plan Picture} (h : Fits row skyline cells plan) : sources plan.slots = cells := by
  induction h with
  | done => rfl
  | covered _ _ ih => exact ih
  | cell _ _ _ ih => exact congrArg (_ :: ·) ih

theorem Fits.cell_of_take {row : Nat} {skyline : List Cover} {source : Node Picture}
    {cells : List (Node Picture)} {plan : Plan Picture} (hLength : source.columns ≤ skyline.length)
    (hFree : ∀ cover ∈ skyline.take source.columns, cover.stop ≤ row)
    (rest : Fits row (skyline.drop source.columns) cells plan) :
    Fits row skyline (source :: cells) (.cell source :: plan) := by
  rw [← List.take_append_drop source.columns skyline]
  exact .cell (List.length_take_of_le hLength) hFree rest

theorem Fits.covers_eq {row : Nat} {skyline : List Cover} {cells : List (Node Picture)}
    {plan : Plan Picture} (h : Fits row skyline cells plan) (column : Nat) :
    plan.covers column = (skyline.zipIdx column).filter fun entry => row < entry.1.stop := by
  induction h generalizing column with
  | done => rfl
  | covered hCovered _ ih =>
    rw [List.zipIdx_cons, List.filter_cons_of_pos (by simpa using hCovered), Plan.covers, ih]
  | @cell free _ _ _ _ hLength hFree _ ih =>
    have hNone : (free.zipIdx column).filter (fun entry => row < entry.1.stop) = [] :=
      List.filter_eq_nil_iff.mpr fun entry hEntry => by
        have hStop := hFree entry.1 (List.fst_mem_of_mem_zipIdx hEntry)
        simpa using hStop
    rw [List.zipIdx_append, List.filter_append, hNone, List.nil_append, Plan.covers, ih, hLength]

theorem mem_skyline_iff {row column : Nat} {plan : Plan Picture} {entry : Cover × Nat} :
    entry ∈ (plan.skyline row).zipIdx column ↔
      entry ∈ plan.covers column ∨ entry ∈ opened row (spots column plan.slots) := by
  induction plan generalizing column with
  | nil => simp [Plan.skyline, Plan.covers, Plan.slots, spots, opened]
  | cons mark plan ih =>
    cases mark with
    | covered cover =>
      have hSkyline : (Plan.skyline row (.covered cover :: plan)).zipIdx column =
          (cover, column) :: (Plan.skyline row plan).zipIdx (column + 1) := rfl
      rw [hSkyline, List.mem_cons, ih, Plan.covers, List.mem_cons, or_assoc]
      rfl
    | cell source =>
      have hSkyline : Plan.skyline row (.cell source :: plan) =
          List.replicate source.columns ⟨row, row + source.rows⟩ ++ Plan.skyline row plan := rfl
      have hOpened : opened row (spots column (Plan.slots (.cell source :: plan))) =
          (List.replicate source.columns ⟨row, row + source.rows⟩).zipIdx column ++
            opened row (spots (column + source.columns) (Plan.slots plan)) := rfl
      rw [hSkyline, hOpened, List.zipIdx_append, List.mem_append, ih, List.length_replicate,
        Plan.covers, List.mem_append]
      exact or_left_comm

section Tiles

variable {row : Nat} {skyline : List Cover} {rows : List (List (Node Picture))}
  {plans : List (Plan Picture)} {entry : Cover × Nat}

theorem Tiles.length_eq (h : Tiles row skyline rows plans) : rows.length = plans.length := by
  induction h with
  | done => rfl
  | row _ _ ih => rw [List.length_cons, List.length_cons, ih]

theorem Tiles.covers_of_mem_skyline (h : Tiles row skyline rows plans) {index : Nat}
    (hEntry : entry ∈ skyline.zipIdx) (hStop : row + index < entry.1.stop) :
    ∃ plan, plans[index]? = some plan ∧ entry ∈ plan.covers 0 := by
  induction h generalizing index with
  | done hEnd =>
    have hLe := hEnd entry.1 (List.fst_mem_of_mem_zipIdx hEntry)
    omega
  | @row _ _ _ plan _ _ fits _ ih =>
    have hCovers : entry ∈ plan.covers 0 := by
      rw [fits.covers_eq, List.mem_filter, decide_eq_true_iff]
      exact ⟨hEntry, by omega⟩
    cases index with
    | zero => exact ⟨_, rfl, hCovers⟩
    | succ index => exact ih (mem_skyline_iff.mpr (.inl hCovers)) (by omega)

theorem Tiles.covers_of_opened (h : Tiles row skyline rows plans) {index offset : Nat}
    {plan : Plan Picture} (hPlan : plans[index]? = some plan)
    (hEntry : entry ∈ opened (row + index) (spots 0 plan.slots))
    (hStop : row + index + (offset + 1) < entry.1.stop) :
    ∃ below, plans[index + (offset + 1)]? = some below ∧ entry ∈ below.covers 0 := by
  induction h generalizing index with
  | done => cases hPlan
  | @row row _ _ _ _ _ _ rest ih =>
    cases index with
    | zero =>
      obtain rfl := Option.some.inj hPlan
      have hReach : row + 1 + offset < entry.1.stop := by omega
      obtain ⟨below, hBelow, hCovers⟩ :=
        rest.covers_of_mem_skyline (mem_skyline_iff.mpr (.inr hEntry)) hReach
      exact ⟨below, by rwa [Nat.zero_add], hCovers⟩
    | succ index =>
      obtain ⟨below, hBelow, hCovers⟩ := ih hPlan (by rwa [Nat.add_right_comm]) (by omega)
      exact ⟨below, by rwa [Nat.succ_add], hCovers⟩

theorem Tiles.opened_of_covers (h : Tiles row skyline rows plans) {index : Nat}
    {plan : Plan Picture} (hPlan : plans[index]? = some plan) (hEntry : entry ∈ plan.covers 0) :
    entry ∈ skyline.zipIdx ∨ ∃ above < index, ∃ other, plans[above]? = some other ∧
      entry ∈ opened (row + above) (spots 0 other.slots) := by
  induction h generalizing index with
  | done => cases hPlan
  | @row _ skyline _ first _ _ fits _ ih =>
    have hLeft (h : entry ∈ first.covers 0) : entry ∈ skyline.zipIdx :=
      (List.mem_filter.mp (fits.covers_eq 0 ▸ h)).1
    cases index with
    | zero =>
      obtain rfl := Option.some.inj hPlan
      exact .inl (hLeft hEntry)
    | succ index =>
      rcases ih hPlan with hSkyline | ⟨above, hAbove, other, hOther, hOpened⟩
      · rcases mem_skyline_iff.mp hSkyline with hCovers | hOpened
        · exact .inl (hLeft hCovers)
        · exact .inr ⟨0, Nat.succ_pos index, _, rfl, hOpened⟩
      · exact .inr ⟨above + 1, Nat.succ_lt_succ hAbove, other, hOther, by
          rwa [Nat.add_right_comm, Nat.add_assoc] at hOpened⟩

theorem Tiles.lt_stop_of_covers (h : Tiles row skyline rows plans) {index : Nat}
    {plan : Plan Picture} (hPlan : plans[index]? = some plan) (hEntry : entry ∈ plan.covers 0) :
    row + index < entry.1.stop := by
  induction h generalizing index with
  | done => cases hPlan
  | row fits _ ih =>
    cases index with
    | zero =>
      obtain rfl := Option.some.inj hPlan
      rw [fits.covers_eq, List.mem_filter, decide_eq_true_iff] at hEntry
      exact hEntry.2
    | succ index =>
      have hLt := ih hPlan
      omega

/-- In a rectangle a covered column belongs to a cell of a row above that reaches down to it. -/
theorem Tiling.exists_spot_of_covers (h : Tiling rows plans) {index : Nat} {plan : Plan Picture}
    (hPlan : plans[index]? = some plan) (hEntry : entry ∈ plan.covers 0) :
    ∃ above < index, ∃ other, plans[above]? = some other ∧ ∃ column source,
      (column, source) ∈ spots 0 other.slots ∧ index < above + source.rows ∧
        column ≤ entry.2 ∧ entry.2 < column + source.columns := by
  obtain ⟨width, hTiles⟩ := h
  have hStop := hTiles.lt_stop_of_covers hPlan hEntry
  rcases hTiles.opened_of_covers hPlan hEntry with hSkyline | ⟨above, hAbove, other, hOther, hOpened⟩
  · rw [List.eq_of_mem_replicate (List.fst_mem_of_mem_zipIdx hSkyline)] at hStop
    exact absurd hStop (Nat.not_lt_zero _)
  · obtain ⟨column, source, hSpot, hCover, hLe, hLt⟩ := mem_opened_iff.mp hOpened
    refine ⟨above, hAbove, other, hOther, column, source, hSpot, ?_, hLe, hLt⟩
    rwa [hCover, Nat.zero_add, Nat.zero_add] at hStop

end Tiles

end MarkupLayout.Layout
