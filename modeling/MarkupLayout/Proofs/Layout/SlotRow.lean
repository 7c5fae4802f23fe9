import Mathlib.Data.List.Forall2
import MarkupLayout.Layout.Grid

/-!
# Rows of slots

A row on its way into the grid is a list of cells with fillers among them. What counts for the
place of a cell is how many fillers stand in front of it, its lead; the columns of all cells
follow from the leads. Two rows with the same cells in which no lead of the first exceeds that of
the second are equal, or differ first where the second has a filler and the first a cell.
-/

namespace MarkupLayout.Layout

variable {Picture : Type}

def sources : List (Slot Picture) → List (Node Picture)
  | [] => []
  | .filler :: row => sources row
  | .cell source :: row => source :: sources row

def leads (count : Nat) : List (Slot Picture) → List Nat
  | [] => []
  | .filler :: row => leads (count + 1) row
  | .cell _ :: row => count :: leads count row

/-- The cells of a row that begins at a column, each with the column at which it stands. -/
def spots (column : Nat) : List (Slot Picture) → List (Nat × Node Picture)
  | [] => []
  | .filler :: row => spots (column + 1) row
  | .cell source :: row => (column, source) :: spots (column + source.columns) row

/-- The columns of the fillers of a row, apart from those beside its cells. -/
def gaps (column : Nat) : List (Slot Picture) → List Nat
  | [] => []
  | .filler :: row => column :: gaps (column + 1) row
  | .cell source :: row => gaps (column + source.columns) row

def widened : List (Slot Picture) → List (Slot Picture)
  | [] => []
  | .filler :: row => .filler :: widened row
  | .cell source :: row => .cell source :: fillers (source.columns - 1) ++ widened row

theorem one_le_columns (source : Node Picture) : 1 ≤ source.columns := Nat.le_max_left ..

theorem sources_map_cell (cells : List (Node Picture)) : sources (cells.map .cell) = cells := by
  induction cells with
  | nil => rfl
  | cons cell cells ih => rw [List.map_cons, sources, ih]

theorem leads_map_cell (count : Nat) (cells : List (Node Picture)) :
    leads count (cells.map .cell) = cells.mapIdx fun _ _ => count := by
  induction cells with
  | nil => rfl
  | cons cell cells ih => rw [List.map_cons, leads, ih, List.mapIdx_cons]

theorem insertFillers_zero (count : Nat) (row : List (Slot Picture)) :
    insertFillers 0 count row = fillers count ++ row := rfl

theorem insertFillers_cons (column count : Nat) (slot : Slot Picture) (row : List (Slot Picture)) :
    insertFillers (column + 1) count (slot :: row) = slot :: insertFillers column count row := rfl

theorem insertFillers_succ (column count : Nat) (row : List (Slot Picture)) :
    insertFillers column (count + 1) row =
      insertFillers (column + count) 1 (insertFillers column count row) := by
  induction column generalizing row with
  | zero =>
    rw [Nat.zero_add, insertFillers_zero, insertFillers_zero, insertFillers]
    simp [fillers, List.replicate_succ']
  | succ column ih =>
    cases row with
    | nil => simp [insertFillers, fillers, List.replicate_succ']
    | cons slot row =>
      rw [insertFillers_cons, insertFillers_cons, ih, Nat.succ_add, insertFillers_cons]

theorem sources_fillers_append (count : Nat) (row : List (Slot Picture)) :
    sources (fillers count ++ row) = sources row := by
  induction count with
  | zero => rfl
  | succ count ih => rw [fillers, List.replicate_succ, List.cons_append, sources, ← ih, fillers]

theorem sources_insertFillers (column count : Nat) (row : List (Slot Picture)) :
    sources (insertFillers column count row) = sources row := by
  induction column generalizing row with
  | zero => exact sources_fillers_append count row
  | succ column ih =>
    cases row with
    | nil => simpa [insertFillers] using sources_fillers_append count ([] : List (Slot Picture))
    | cons slot row => cases slot <;> simp only [insertFillers_cons, sources, ih]

theorem length_insertFillers (column count : Nat) (row : List (Slot Picture)) :
    (insertFillers column count row).length = row.length + count := by
  simp only [insertFillers, fillers, List.length_append, List.length_take, List.length_replicate,
    List.length_drop]
  omega

theorem leads_succ (count : Nat) (row : List (Slot Picture)) :
    leads (count + 1) row = (leads count row).map (· + 1) := by
  induction row generalizing count with
  | nil => rfl
  | cons slot row ih =>
    cases slot with
    | filler => exact ih (count + 1)
    | cell source => rw [leads, leads, List.map_cons, ih]

theorem le_of_mem_leads {count lead : Nat} {row : List (Slot Picture)} (h : lead ∈ leads count row) :
    count ≤ lead := by
  induction row generalizing count with
  | nil => cases h
  | cons slot row ih =>
    cases slot with
    | filler => exact Nat.le_of_succ_le (ih h)
    | cell source =>
      rcases List.mem_cons.mp h with rfl | h
      · exact Nat.le_refl lead
      · exact ih h

theorem leads_insertFillers (column count : Nat) (row : List (Slot Picture)) :
    leads count (insertFillers column 1 row) =
      (leads count row).mapIdx fun i lead => if column + count ≤ i + lead then lead + 1 else lead := by
  induction column generalizing count row with
  | zero =>
    rw [insertFillers_zero, fillers, List.replicate_one, List.singleton_append, leads, leads_succ]
    apply List.ext_getElem (by rw [List.length_map, List.length_mapIdx])
    intro i h _
    rw [List.getElem_map, List.getElem_mapIdx, if_pos]
    have hi : i < (leads count row).length := by rwa [List.length_map] at h
    have hle := le_of_mem_leads (List.getElem_mem hi)
    omega
  | succ column ih =>
    cases row with
    | nil => rfl
    | cons slot row =>
      cases slot with
      | filler =>
        rw [insertFillers_cons, leads, leads, ih]
        simp only [Nat.succ_add, Nat.add_succ]
      | cell source =>
        rw [insertFillers_cons, leads, leads, ih, List.mapIdx_cons, if_neg (by omega)]
        congr 1
        apply List.mapIdx_eq_mapIdx_iff.mpr
        intro i _
        simp only [Nat.succ_add, Nat.succ_le_succ_iff]

theorem setCells_fst (column : Nat) (below : List (List (Slot Picture)))
    (row : List (Slot Picture)) : (setCells column below row).1 = widened row := by
  induction row generalizing column below with
  | nil => rfl
  | cons slot row ih =>
    cases slot with
    | filler => rw [setCells, widened, ih]
    | cell source => rw [setCells, widened, ih]

theorem setCells_snd (column : Nat) (below : List (List (Slot Picture)))
    (row : List (Slot Picture)) :
    (setCells column below row).2 = (spots column row).foldl (fun below spot =>
      fillBelow spot.1 spot.2.columns (spot.2.rows - 1) below) below := by
  induction row generalizing column below with
  | nil => rfl
  | cons slot row ih =>
    cases slot with
    | filler => rw [setCells, spots, ih]
    | cell source => rw [setCells, spots, List.foldl_cons, ih]

theorem length_widened_cell (source : Node Picture) :
    (.cell source :: fillers (source.columns - 1) : List (Slot Picture)).length = source.columns := by
  have h := one_le_columns source
  rw [List.length_cons, fillers, List.length_replicate]
  omega

theorem mem_spots_iff {column position : Nat} {source : Node Picture} {row : List (Slot Picture)} :
    (position, source) ∈ spots column row ↔ (.cell source, position) ∈ (widened row).zipIdx column := by
  induction row generalizing column with
  | nil => simp [spots, widened]
  | cons slot row ih =>
    cases slot with
    | filler =>
      rw [spots, widened, List.zipIdx_cons, List.mem_cons, ih]
      simp
    | cell first =>
      rw [spots, widened, List.zipIdx_append, List.mem_append, List.mem_cons, ih,
        length_widened_cell, List.zipIdx_cons, List.mem_cons]
      have hBeside : ((.cell source, position) : Slot Picture × Nat) ∉
          (fillers (first.columns - 1)).zipIdx (column + 1) := fun h =>
        nomatch List.eq_of_mem_replicate (List.fst_mem_of_mem_zipIdx h)
      simp [hBeside, and_comm]

theorem filler_of_mem_gaps {column position : Nat} {row : List (Slot Picture)}
    (h : position ∈ gaps column row) : (.filler, position) ∈ (widened row).zipIdx column := by
  induction row generalizing column with
  | nil => cases h
  | cons slot row ih =>
    cases slot with
    | filler =>
      rw [widened, List.zipIdx_cons]
      rcases List.mem_cons.mp h with rfl | h
      · exact List.mem_cons_self
      · exact List.mem_cons_of_mem _ (ih h)
    | cell first =>
      rw [widened, List.zipIdx_append, length_widened_cell]
      exact List.mem_append_right _ (ih h)

theorem filler_of_mem_spots {column position offset : Nat} {source : Node Picture}
    {row : List (Slot Picture)} (h : (position, source) ∈ spots column row) (hPos : 0 < offset)
    (hOffset : offset < source.columns) :
    (.filler, position + offset) ∈ (widened row).zipIdx column := by
  induction row generalizing column with
  | nil => cases h
  | cons slot row ih =>
    cases slot with
    | filler =>
      rw [widened, List.zipIdx_cons]
      exact List.mem_cons_of_mem _ (ih h)
    | cell first =>
      rw [widened, List.zipIdx_append, length_widened_cell]
      rcases List.mem_cons.mp h with h | h
      · obtain ⟨rfl, rfl⟩ := Prod.mk.inj h
        refine List.mem_append_left _ (List.mem_cons_of_mem _ ?_)
        rw [List.mk_mem_zipIdx_iff_le_and_getElem?_sub]
        refine ⟨by omega, ?_⟩
        rw [fillers, List.getElem?_replicate, if_pos (by omega)]
      · exact List.mem_append_right _ (ih h)

/-- A row whose cells have no greater leads than those of another row is the other row, or puts a
cell where the other has a gap. -/
theorem eq_or_spot_in_gap (column count : Nat) {row other : List (Slot Picture)}
    (hSources : sources row = sources other) (hLength : row.length = other.length)
    (hLeads : List.Forall₂ (· ≤ ·) (leads count row) (leads count other)) :
    row = other ∨ leads count row ≠ leads count other ∧
      ∃ position source, (position, source) ∈ spots column row ∧ position ∈ gaps column other := by
  induction row generalizing column count other with
  | nil => exact .inl (List.length_eq_zero_iff.mp hLength.symm).symm
  | cons slot row ih =>
    cases other with
    | nil => cases hLength
    | cons otherSlot other =>
      have hTail : row.length = other.length := Nat.succ.inj hLength
      cases slot with
      | filler =>
        cases otherSlot with
        | filler =>
          have hSources : sources row = sources other := hSources
          rcases ih (column + 1) (count + 1) hSources hTail hLeads with rfl | ⟨hNe, p, n, hp, hg⟩
          · exact .inl rfl
          · exact .inr ⟨hNe, p, n, hp, List.mem_cons_of_mem _ hg⟩
        | cell source =>
          -- the first cell of `row` has more fillers in front of it
          rw [leads, leads] at hLeads
          obtain ⟨lead, rest, hle, -, hRow⟩ := List.forall₂_cons_right_iff.mp hLeads
          have hMem := le_of_mem_leads (hRow ▸ List.mem_cons_self : lead ∈ leads (count + 1) row)
          omega
      | cell source =>
        cases otherSlot with
        | filler =>
          refine .inr ⟨fun h => ?_, column, source, List.mem_cons_self, List.mem_cons_self⟩
          rw [leads, leads] at h
          have hMem := le_of_mem_leads (h ▸ List.mem_cons_self : count ∈ leads (count + 1) other)
          omega
        | cell otherSource =>
          rw [sources, sources] at hSources
          obtain ⟨rfl, hCells⟩ := List.cons.inj hSources
          rw [leads, leads] at hLeads
          rcases ih (column + source.columns) count hCells hTail (List.forall₂_cons.mp hLeads).2 with
            rfl | ⟨hNe, p, n, hp, hg⟩
          · exact .inl rfl
          · refine .inr ⟨fun h => hNe ?_, p, n, List.mem_cons_of_mem _ hp, hg⟩
            rw [leads, leads] at h
            exact (List.cons.inj h).2

end MarkupLayout.Layout
