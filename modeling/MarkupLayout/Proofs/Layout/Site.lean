import MarkupLayout.Proofs.Layout.GridRows
import MarkupLayout.Proofs.Layout.LinesInRuns

/-!
# Sites of a node

A site is a layout with a node left out: it takes a node and has it somewhere in it. Runs, stacks, rows
and grids look at little of what they are made of. So for nodes that are alike in that, a layout around
a site is always the same, or it is a site again.
-/

namespace MarkupLayout.Layout

variable {Picture Other : Type}

/-- A body made around a list of nodes, in a table around one of its rows. -/
inductive Wraps : (List (Node Picture) → Body Picture) → Prop where
  | inline : Wraps .inline
  | stack : Wraps .stack
  | list (ordered : Bool) (marker : Option String) : Wraps (.list ordered · marker)
  | table (above below : List (List (Node Picture))) (form : TableForm) :
      Wraps fun row => .table (above ++ row :: below) form

inductive Site : (Node Picture → Node Picture) → Prop where
  | here : Site id
  | inside {wrap : List (Node Picture) → Body Picture} {site : Node Picture → Node Picture}
      (frame : Frame) (hWraps : Wraps wrap) (before after : List (Node Picture)) (h : Site site) :
      Site fun n => .node frame (wrap (before ++ site n :: after))

/-- Two nodes between which the layouts around them do not tell. -/
structure Alike (n other : Node Picture) : Prop where
  tag : n.frame.tag = other.frame.tag
  block : n.isBlock = other.isBlock
  columns : n.columns = other.columns
  rows : n.rows = other.rows
  columnWidth : n.columnWidth? = other.columnWidth?
  rowHeight : n.rowHeight? = other.rowHeight?

/-- Two nodes between which tables do not tell either if they are among the rows. -/
structure Twins (n other : Node Picture) : Prop extends Alike n other where
  children : n.children? = other.children?

section Sites

variable {wrap : List (Node Picture) → Body Picture} {site : Node Picture → Node Picture}
  {n base : Node Picture}

theorem anyBlock_beside (h : n.isBlock = base.isBlock) (before after : List (Node Picture)) :
    anyBlock (before ++ n :: after) = anyBlock (before ++ base :: after) := by
  rw [anyBlock_append, anyBlock_append, anyBlock, anyBlock, h]

theorem Wraps.isBlock_congr (hWraps : Wraps wrap) {nodes others : List (Node Picture)}
    (h : anyBlock nodes = anyBlock others) : (wrap nodes).isBlock = (wrap others).isBlock := by
  cases hWraps with
  | inline => exact h
  | _ => rfl

theorem Wraps.settle (hWraps : Wraps wrap) (frame : Frame) {nodes : List (Node Picture)}
    (h : nodes ≠ []) : (Node.node frame (wrap nodes)).settle = .node frame (wrap nodes) := by
  cases hWraps with
  | inline =>
    obtain ⟨n, rest, rfl⟩ := List.exists_cons_of_ne_nil h
    rfl
  | _ => rfl

theorem Site.alike (hSite : Site site) (h : Alike n base) : Alike (site n) (site base) := by
  induction hSite with
  | here => exact h
  | inside frame hWraps before after hSite ih =>
    refine ⟨rfl, ?_, rfl, rfl, rfl, rfl⟩
    rw [Node.isBlock, Node.isBlock, hWraps.isBlock_congr (anyBlock_beside ih.block before after)]

theorem Site.tag_isSome (hSite : Site site) (hTag : n.frame.tag.isSome) :
    ∀ frame content, site n = .node frame (.text content) → frame.tag.isSome := by
  cases hSite with
  | here =>
    intro frame content h
    rw [id] at h
    rwa [h] at hTag
  | inside frame hWraps before after hSite =>
    intro other content h
    cases hWraps <;> cases h

theorem Site.exists_wraps_collapse (hSite : Site site) (hTag : base.frame.tag.isSome)
    (before after : List (Node Picture)) :
    ∃ wrap, Wraps wrap ∧ ∀ n, Alike n base →
      (Body.ofChildren (before ++ site n :: after)).collapse = wrap (before ++ site n :: after) := by
  have hBlock {n : Node Picture} (h : Alike n base) :=
    anyBlock_beside (hSite.alike h).block before after
  cases hBase : anyBlock (before ++ site base :: after) with
  | true =>
    refine ⟨.stack, .stack, fun n h => ?_⟩
    rw [Body.ofChildren, hBlock h, hBase, if_pos rfl]
    rfl
  | false =>
    refine ⟨.inline, .inline, fun n h => ?_⟩
    rw [Body.ofChildren, hBlock h, hBase, if_neg Bool.false_ne_true, collapse_eq_self]
    intro frame content hBody
    have hLeaf : site n = .node frame (.text content) := by
      rcases List.append_eq_singleton_iff.mp (Body.inline.inj hBody) with ⟨-, hOnly⟩ | ⟨-, hNone⟩
      · exact (List.cons.inj hOnly).1
      · cases hNone
    exact hSite.tag_isSome (h.tag ▸ hTag) frame content hLeaf

theorem Wraps.children? (hWraps : Wraps wrap) :
    (∀ frame nodes, (Node.node frame (wrap nodes)).children? = some nodes) ∨
      ∀ frame nodes, (Node.node frame (wrap nodes)).children? = none := by
  cases hWraps with
  | inline => exact .inl fun _ _ => rfl
  | stack => exact .inl fun _ _ => rfl
  | list => exact .inr fun _ _ => rfl
  | table => exact .inr fun _ _ => rfl

theorem Twins.isTag (h : Twins n base) (name : String) : n.isTag name = base.isTag name := by
  rw [Node.isTag, Node.isTag, h.tag]

theorem Twins.rowCells (h : Twins n base) : rowCells n = Layout.rowCells base := by
  rw [Layout.rowCells, Layout.rowCells, h.children, h.isTag]

theorem Twins.rowsOf (h : Twins n base) : rowsOf [n] = Layout.rowsOf [base] := by
  rw [Layout.rowsOf, Layout.rowsOf, List.flatMap_cons, List.flatMap_cons, h.rowCells, h.children]
  simp only [h.isTag]

/-- The rows around a site: always the same, or one of them has a site among its cells. -/
def RowsAround (base : Node Picture) (rows : Node Picture → List (List (Node Picture))) : Prop :=
  (∃ fixed, ∀ n, Twins n base → rows n = fixed) ∨
    ∃ above before site after below, Site site ∧
      ∀ n, Twins n base → rows n = above ++ (before ++ site n :: after) :: below

theorem RowsAround.append {rows : Node Picture → List (List (Node Picture))} (h : RowsAround base rows)
    (above below : List (List (Node Picture))) : RowsAround base fun n => above ++ rows n ++ below := by
  rcases h with ⟨fixed, hFixed⟩ | ⟨upper, before, site, after, lower, hSite, hRows⟩
  · refine .inl ⟨above ++ fixed ++ below, fun n hn => ?_⟩
    simp only [hFixed n hn]
  · refine .inr ⟨above ++ upper, before, site, after, lower ++ below, hSite, fun n hn => ?_⟩
    simp only [hRows n hn, List.append_assoc, List.cons_append]

theorem rowCells_of_children? {row : Node Picture} {cells : List (Node Picture)}
    (h : row.children? = some cells) (hCells : cells ≠ []) :
    rowCells row = if row.isTag "tr" then [cells] else [] := by
  obtain ⟨cell, rest, rfl⟩ := List.exists_cons_of_ne_nil hCells
  simp only [rowCells, h]

theorem rowCells_of_no_children {row : Node Picture} (h : row.children? = none) : rowCells row = [] := by
  simp only [rowCells, h]

theorem Site.rowCells (hSite : Site site) (base : Node Picture) :
    RowsAround base fun n => rowCells (site n) := by
  cases hSite with
  | here => exact .inl ⟨Layout.rowCells base, fun n hn => hn.rowCells⟩
  | @inside wrap site frame hWraps before after hSite =>
    rcases hWraps.children? with hSome | hNone
    · have hCells (n : Node Picture) : Layout.rowCells (.node frame (wrap (before ++ site n :: after))) =
          if frame.tag.any (Text.sameIgnoringCase · "tr") then [before ++ site n :: after] else [] :=
        rowCells_of_children? (hSome _ _) (List.append_ne_nil_of_right_ne_nil _ (List.cons_ne_nil _ _))
      by_cases hRow : frame.tag.any (Text.sameIgnoringCase · "tr")
      · exact .inr ⟨[], before, site, after, [], hSite, fun n _ => (hCells n).trans (if_pos hRow)⟩
      · exact .inl ⟨[], fun n _ => (hCells n).trans (if_neg hRow)⟩
    · exact .inl ⟨[], fun n _ => rowCells_of_no_children (hNone _ _)⟩

theorem Site.rowsOf (hSite : Site site) (base : Node Picture) :
    RowsAround base fun n => rowsOf [site n] := by
  have hRow : RowsAround base fun n => Layout.rowCells (site n) := hSite.rowCells base
  cases hSite with
  | here => exact .inl ⟨Layout.rowsOf [base], fun n hn => hn.rowsOf⟩
  | @inside wrap site frame hWraps before after hSite =>
    have hRows (n : Node Picture) : Layout.rowsOf [.node frame (wrap (before ++ site n :: after))] =
        if frame.tag.any (Text.sameIgnoringCase · "tr") then
          Layout.rowCells (.node frame (wrap (before ++ site n :: after)))
        else if sectionTags.any fun name => frame.tag.any (Text.sameIgnoringCase · name) then
          ((Node.node frame (wrap (before ++ site n :: after))).children?.getD []).flatMap Layout.rowCells
        else [] := by
      rw [Layout.rowsOf, List.flatMap_cons, List.flatMap_nil, List.append_nil]
      rfl
    simp only [hRows]
    split
    · exact hRow
    · split
      · rcases hWraps.children? with hSome | hNone
        · simp only [hSome, Option.getD_some, List.flatMap_append, List.flatMap_cons, ← List.append_assoc]
          exact (hSite.rowCells base).append _ _
        · simp only [hNone]
          exact .inl ⟨[], fun _ _ => rfl⟩
      · exact .inl ⟨[], fun _ _ => rfl⟩

/-- A table around a site has always the same rows, or a site in one of them. -/
theorem Site.rowsAround (hSite : Site site) (base : Node Picture) (before after : List (Node Picture)) :
    RowsAround base fun n => Layout.rowsOf (before ++ site n :: after) := by
  have hRows (n : Node Picture) : Layout.rowsOf (before ++ site n :: after) =
      Layout.rowsOf before ++ Layout.rowsOf [site n] ++ Layout.rowsOf after := by
    simp only [Layout.rowsOf, List.flatMap_append, List.flatMap_cons, List.flatMap_nil, List.append_nil,
      List.append_assoc]
  simp only [hRows]
  exact (hSite.rowsOf base).append _ _

end Sites

section Grids

variable {n base : Node Picture} {index : Nat} {grid : Node Picture → List (List (Slot Picture))}

/-- A grid with a node as a cell of the row at an index. -/
def SlotsAround (index : Nat) (grid : Node Picture → List (List (Slot Picture))) : Prop :=
  ∃ above left right below, above.length = index ∧
    ∀ n, grid n = above ++ (left ++ .cell n :: right) :: below

theorem exists_insertFillers_beside (column count : Nat) (left right : List (Slot Picture)) :
    ∃ before after, ∀ n, insertFillers column count (left ++ .cell n :: right) =
      before ++ .cell n :: after := by
  rcases Nat.lt_or_ge left.length column with hColumn | hColumn
  · obtain ⟨rest, rfl⟩ := Nat.exists_eq_add_of_lt hColumn
    refine ⟨left, right.take rest ++ fillers count ++ right.drop rest, fun n => ?_⟩
    rw [insertFillers, Nat.add_assoc, List.take_length_add_append, List.drop_length_add_append]
    simp only [List.take_succ_cons, List.drop_succ_cons, List.append_assoc, List.cons_append]
  · refine ⟨left.take column ++ fillers count ++ left.drop column, right, fun n => ?_⟩
    rw [insertFillers, List.take_append_of_le_length hColumn, List.drop_append_of_le_length hColumn]
    simp only [List.append_assoc]

theorem SlotsAround.fillBelow (h : SlotsAround index grid) (column count covered : Nat) :
    SlotsAround index fun n => fillBelow column count covered (grid n) := by
  obtain ⟨above, left, right, below, hIndex, hGrid⟩ := h
  simp only [hGrid]
  clear hGrid
  induction above generalizing covered index with
  | nil =>
    cases covered with
    | zero => exact ⟨[], left, right, below, hIndex, fun _ => rfl⟩
    | succ covered =>
      obtain ⟨before, after, hRow⟩ := exists_insertFillers_beside column count left right
      refine ⟨[], before, after, Layout.fillBelow column count covered below, hIndex, fun n => ?_⟩
      simp only [List.nil_append, Layout.fillBelow, hRow]
  | cons row above ih =>
    cases covered with
    | zero => exact ⟨row :: above, left, right, below, hIndex, fun _ => rfl⟩
    | succ covered =>
      obtain ⟨upper, before, after, lower, hUpper, hRows⟩ := ih covered rfl
      refine ⟨insertFillers column count row :: upper, before, after, lower, ?_, fun n => ?_⟩
      · rw [← hIndex, List.length_cons, List.length_cons, hUpper]
      · simp only [List.cons_append, Layout.fillBelow, hRows]

theorem SlotsAround.setCells_snd (h : SlotsAround index grid) (column : Nat) (row : List (Slot Picture)) :
    SlotsAround index fun n => (setCells column (grid n) row).2 := by
  induction row generalizing column grid with
  | nil => exact h
  | cons slot row ih =>
    cases slot with
    | filler => exact ih h (column + 1)
    | cell source => exact ih (h.fillBelow column source.columns (source.rows - 1)) (column + source.columns)

theorem setCells_snd_of_alike (h : Alike n base) (column : Nat) (below : List (List (Slot Picture)))
    (left right : List (Slot Picture)) : (setCells column below (left ++ .cell n :: right)).2 =
      (setCells column below (left ++ .cell base :: right)).2 := by
  induction left generalizing column below with
  | nil => rw [List.nil_append, List.nil_append, setCells, setCells, h.columns, h.rows]
  | cons slot left ih =>
    cases slot with
    | filler => exact ih (column + 1) below
    | cell source => exact ih (column + source.columns) _

theorem SlotsAround.exists_setRows (h : SlotsAround index grid) (base : Node Picture) :
    ∃ placed, SlotsAround index placed ∧ ∀ n, Alike n base → setRows (grid n) = placed n := by
  induction index generalizing grid with
  | zero =>
    obtain ⟨above, left, right, below, hIndex, hGrid⟩ := h
    obtain rfl := List.length_eq_zero_iff.mp hIndex
    let lower := setRows (setCells 0 below (left ++ .cell base :: right)).2
    refine ⟨_, ⟨[], widened left, fillers (base.columns - 1) ++ widened right, lower, rfl, fun _ => rfl⟩,
      fun n hAlike => ?_⟩
    rw [hGrid, List.nil_append, setRows, setCells_snd_of_alike hAlike, setCells_fst, widened_append,
      widened, hAlike.columns]
    rfl
  | succ index ih =>
    obtain ⟨above, left, right, below, hIndex, hGrid⟩ := h
    obtain ⟨row, above, rfl⟩ := List.exists_cons_of_length_eq_add_one hIndex
    have hRest : SlotsAround index fun n => above ++ (left ++ .cell n :: right) :: below :=
      ⟨above, left, right, below, Nat.succ.inj hIndex, fun _ => rfl⟩
    obtain ⟨placed, hPlaced, hRows⟩ := ih (hRest.setCells_snd 0 row)
    obtain ⟨upper, before, after, lower, hUpper, hSame⟩ := hPlaced
    refine ⟨_, ⟨widened row :: upper, before, after, lower, ?_, fun _ => rfl⟩, fun n hAlike => ?_⟩
    · rw [List.length_cons, hUpper]
    · rw [hGrid, List.cons_append, setRows, setCells_fst, hRows n hAlike, hSame, List.cons_append]

/-- A node among the cells of a table is a cell of the grid. -/
theorem exists_expandSpans_around (base : Node Picture) (above : List (List (Node Picture)))
    (left right : List (Node Picture)) (below : List (List (Node Picture))) :
    ∃ upper before after lower, ∀ n, Alike n base →
      expandSpans (above ++ (left ++ n :: right) :: below) = upper ++ (before ++ n :: after) :: lower := by
  have hSlots : SlotsAround above.length fun n =>
      (above ++ (left ++ n :: right) :: below).map (List.map Slot.cell) :=
    ⟨above.map (List.map .cell), left.map .cell, right.map .cell, below.map (List.map .cell),
      List.length_map _, fun n => by simp only [List.map_append, List.map_cons]⟩
  obtain ⟨placed, ⟨upper, before, after, lower, -, hPlaced⟩, hRows⟩ := hSlots.exists_setRows base
  refine ⟨upper.map (List.map Slot.node), before.map Slot.node, after.map Slot.node,
    lower.map (List.map Slot.node), fun n hAlike => ?_⟩
  rw [expandSpans, slotGrid, hRows n hAlike, hPlaced]
  simp only [List.map_append, List.map_cons, Slot.node]

theorem columnTracks_congr {grid other : List (List (Node Picture))}
    (h : grid.map (List.map Node.columnWidth?) = other.map (List.map Node.columnWidth?)) :
    columnTracks grid = columnTracks other := by
  have hCount (grid : List (List (Node Picture))) : columnCount grid =
      (grid.map (List.map Node.columnWidth?)).foldl (fun count row => max count row.length) 0 := by
    rw [columnCount, List.foldl_map]
    simp only [List.length_map]
  have hColumn (grid : List (List (Node Picture))) (index : Nat) :
      (column grid index).filterMap Node.columnWidth? =
        (grid.map (List.map Node.columnWidth?)).filterMap fun row => row[index]?.join := by
    rw [column, List.filterMap_filterMap, List.filterMap_map]
    congr 1
    funext row
    simp only [Function.comp_apply, List.getElem?_map]
    cases row[index]? <;> rfl
  simp only [columnTracks, hCount, hColumn, h]

theorem rowTracks_congr {grid other : List (List (Node Picture))}
    (h : grid.map (List.map Node.rowHeight?) = other.map (List.map Node.rowHeight?)) :
    rowTracks grid = rowTracks other := by
  have hRow (grid : List (List (Node Picture))) : rowTracks grid =
      (grid.map (List.map Node.rowHeight?)).map fun row => .ofSizes (row.filterMap id) := by
    rw [rowTracks, List.map_map]
    simp only [Function.comp_def, List.filterMap_map, id_eq]
  rw [hRow, hRow, h]

theorem Alike.tracks (h : Alike n base) (above : List (List (Node Picture)))
    (left right : List (Node Picture)) (below : List (List (Node Picture))) :
    columnTracks (above ++ (left ++ n :: right) :: below) =
        columnTracks (above ++ (left ++ base :: right) :: below) ∧
      rowTracks (above ++ (left ++ n :: right) :: below) =
        rowTracks (above ++ (left ++ base :: right) :: below) := by
  constructor
  · apply columnTracks_congr
    simp only [List.map_append, List.map_cons, h.columnWidth]
  · apply rowTracks_congr
    simp only [List.map_append, List.map_cons, h.rowHeight]

end Grids

section Pictures

variable {site : Node Picture → Node Picture} {wrap : List (Node Picture) → Body Picture}
  (f : Picture → Other)

theorem mapPictures_beside (before after : List (Node Picture)) (n : Node Picture) :
    mapPictures f (before ++ n :: after) =
      mapPictures f before ++ n.mapPicture f :: mapPictures f after := by
  rw [mapPictures_eq_map, mapPictures_eq_map, mapPictures_eq_map, List.map_append, List.map_cons]

theorem Wraps.exists_mapPicture (hWraps : Wraps wrap) :
    ∃ other, Wraps other ∧ ∀ nodes, (wrap nodes).mapPicture f = other (mapPictures f nodes) := by
  cases hWraps with
  | inline => exact ⟨.inline, .inline, fun _ => rfl⟩
  | stack => exact ⟨.stack, .stack, fun _ => rfl⟩
  | list ordered marker => exact ⟨_, .list ordered marker, fun _ => rfl⟩
  | table above below form =>
    refine ⟨_, .table (mapGrid f above) (mapGrid f below) form, fun nodes => ?_⟩
    rw [Body.mapPicture, mapGrid_append, mapGrid]

theorem Site.exists_mapPicture (hSite : Site site) :
    ∃ other, Site other ∧ ∀ n, (site n).mapPicture f = other (n.mapPicture f) := by
  induction hSite with
  | here => exact ⟨id, .here, fun _ => rfl⟩
  | @inside wrap site frame hWraps before after hSite ih =>
    obtain ⟨other, hOther, hInner⟩ := ih
    obtain ⟨outer, hOuter, hBody⟩ := hWraps.exists_mapPicture f
    refine ⟨_, .inside frame hOuter (mapPictures f before) (mapPictures f after) hOther, fun n => ?_⟩
    rw [Node.mapPicture, hBody, mapPictures_beside, hInner]

end Pictures

end MarkupLayout.Layout
