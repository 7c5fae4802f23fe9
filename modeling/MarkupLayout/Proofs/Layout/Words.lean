import MarkupLayout.Layout.Shape
import MarkupLayout.Proofs.Layout.SlotRow

/-!
# The words of a layout

The words of a node are its texts from left to right, through runs, stacks, lists and the rows of
tables. Choosing between a run and a stack, shrinking a run, settling an empty node, replacing
pictures and filling what cells span leave them as they are.
-/

namespace MarkupLayout.Layout

variable {Picture Other : Type}

mutual

def Node.words : Node Picture → String
  | .node _ body => body.words

def Body.words : Body Picture → String
  | .text content => content
  | .inline nodes => wordsOf nodes
  | .stack nodes => wordsOf nodes
  | .table grid _ => gridWords grid
  | .list _ items _ => wordsOf items
  | .picture _ => ""
  | .line _ => ""
  | .drawing _ => ""

def wordsOf : List (Node Picture) → String
  | [] => ""
  | n :: rest => n.words ++ wordsOf rest

def gridWords : List (List (Node Picture)) → String
  | [] => ""
  | row :: rest => wordsOf row ++ gridWords rest

end

def Content.words : Content Picture → String
  | .text content => content
  | .nodes members => wordsOf members

theorem gridWords_append (above below : List (List (Node Picture))) :
    gridWords (above ++ below) = gridWords above ++ gridWords below := by
  induction above with
  | nil => rw [List.nil_append, gridWords, String.empty_append]
  | cons row above ih => rw [List.cons_append, gridWords, gridWords, ih, String.append_assoc]

theorem words_ofChildren (nodes : List (Node Picture)) : (Body.ofChildren nodes).words = wordsOf nodes := by
  rw [Body.ofChildren]
  split <;> rfl

theorem words_collapse (body : Body Picture) : body.collapse.words = body.words := by
  fun_cases Body.collapse body with
  | case1 frame content =>
    exact (String.append_empty : content ++ "" = content).symm
  | case2 => rfl
  | case3 => rfl

theorem words_settle (n : Node Picture) : n.settle.words = n.words := by
  fun_cases Node.settle n <;> rfl

mutual

theorem Node.words_mapPicture (f : Picture → Other) (n : Node Picture) :
    (n.mapPicture f).words = n.words := by
  cases n with
  | node frame body =>
    rw [Node.mapPicture, Node.words, Node.words]
    exact Body.words_mapPicture f body

theorem Body.words_mapPicture (f : Picture → Other) (body : Body Picture) :
    (body.mapPicture f).words = body.words := by
  cases body with
  | inline nodes => exact wordsOf_mapPictures f nodes
  | stack nodes => exact wordsOf_mapPictures f nodes
  | table grid form => exact gridWords_mapGrid f grid
  | list ordered items marker => exact wordsOf_mapPictures f items
  | text content => rfl
  | picture source => rfl
  | line segment => rfl
  | drawing xml => rfl

theorem wordsOf_mapPictures (f : Picture → Other) (nodes : List (Node Picture)) :
    wordsOf (mapPictures f nodes) = wordsOf nodes := by
  cases nodes with
  | nil => rfl
  | cons n rest => rw [mapPictures, wordsOf, wordsOf, Node.words_mapPicture, wordsOf_mapPictures]

theorem gridWords_mapGrid (f : Picture → Other) (grid : List (List (Node Picture))) :
    gridWords (mapGrid f grid) = gridWords grid := by
  cases grid with
  | nil => rfl
  | cons row rest => rw [mapGrid, gridWords, gridWords, wordsOf_mapPictures, gridWords_mapGrid]

end

theorem Content.words_mapPicture (f : Picture → Other) (content : Content Picture) :
    (content.mapPicture f).words = content.words := by
  cases content with
  | text content => rfl
  | nodes members => exact wordsOf_mapPictures f members

theorem sources_widened (row : List (Slot Picture)) : sources (widened row) = sources row := by
  induction row with
  | nil => rfl
  | cons slot row ih =>
    cases slot with
    | filler => exact ih
    | cell source => rw [widened, List.cons_append, sources, sources, sources_fillers_append, ih]

theorem map_sources_fillBelow (column count covered : Nat) (rows : List (List (Slot Picture))) :
    (fillBelow column count covered rows).map sources = rows.map sources := by
  induction rows generalizing covered with
  | nil => cases covered <;> rfl
  | cons row rows ih =>
    cases covered with
    | zero => rfl
    | succ covered => rw [fillBelow, List.map_cons, List.map_cons, ih, sources_insertFillers]

theorem map_sources_setCells_snd (column : Nat) (below : List (List (Slot Picture)))
    (row : List (Slot Picture)) : (setCells column below row).2.map sources = below.map sources := by
  induction row generalizing column below with
  | nil => rfl
  | cons slot row ih =>
    cases slot with
    | filler => rw [setCells, ih]
    | cell source => rw [setCells, ih, map_sources_fillBelow]

theorem map_sources_setRows (rows : List (List (Slot Picture))) :
    (setRows rows).map sources = rows.map sources := by
  induction rows using setRows.induct with
  | case1 => rw [setRows]
  | case2 row below placed ih =>
    rw [setRows, List.map_cons, List.map_cons, ih, map_sources_setCells_snd, setCells_fst,
      sources_widened]

theorem map_sources_slotGrid (rows : List (List (Node Picture))) :
    (slotGrid rows).map sources = rows := by
  have hSources : sources ∘ List.map Slot.cell = (id : List (Node Picture) → _) := funext sources_map_cell
  rw [slotGrid, map_sources_setRows, List.map_map, hSources, List.map_id]

theorem wordsOf_map_node (row : List (Slot Picture)) :
    wordsOf (row.map Slot.node) = wordsOf (sources row) := by
  induction row with
  | nil => rfl
  | cons slot row ih =>
    cases slot with
    | filler =>
      rw [List.map_cons, wordsOf, ih]
      exact String.empty_append
    | cell source =>
      rw [List.map_cons, wordsOf, ih]
      rfl

/-- Filling what cells span neither loses nor moves a word. -/
theorem gridWords_expandSpans (rows : List (List (Node Picture))) :
    gridWords (expandSpans rows) = gridWords rows := by
  have hMap (grid : List (List (Slot Picture))) :
      gridWords (grid.map (·.map Slot.node)) = gridWords (grid.map sources) := by
    induction grid with
    | nil => rfl
    | cons row grid ih => rw [List.map_cons, List.map_cons, gridWords, gridWords, ih, wordsOf_map_node]
  rw [expandSpans, hMap, map_sources_slotGrid]

section Rows

variable {n : Node Picture} {nodes : List (Node Picture)}

theorem frame_settle (n : Node Picture) : n.settle.frame = n.frame := by
  fun_cases Node.settle n <;> rfl

theorem collapse_eq_self {body : Body Picture}
    (h : ∀ frame content, body = .inline [.node frame (.text content)] → frame.tag.isSome) :
    body.collapse = body := by
  fun_cases Body.collapse body with
  | case1 frame content hShow =>
    have hTag := h frame content rfl
    rw [Option.isNone_iff_eq_none.mp (Bool.and_eq_true_iff.mp hShow).1] at hTag
    cases hTag
  | case2 => rfl
  | case3 => rfl

theorem collapse_of_tagged (hTagged : ∀ n ∈ nodes, n.frame.tag.isSome) :
    (Body.ofChildren nodes).collapse = Body.ofChildren nodes := by
  apply collapse_eq_self
  intro frame content hBody
  rw [Body.ofChildren] at hBody
  split at hBody
  · cases hBody
  · rw [Body.inline.inj hBody] at hTagged
    exact hTagged _ (List.mem_singleton_self _)

theorem children_settle (frame : Frame) (nodes : List (Node Picture)) :
    (Node.node frame (Body.ofChildren nodes)).settle.children?.getD [] = nodes := by
  rw [Body.ofChildren]
  split
  · rfl
  · cases nodes <;> rfl

theorem words_settle_ofChildren (frame : Frame) (nodes : List (Node Picture)) :
    (Node.node frame (Body.ofChildren nodes)).settle.words = wordsOf nodes :=
  (words_settle _).trans (words_ofChildren nodes)

theorem gridWords_rowCells (hRow : n.isTag "tr") :
    gridWords (rowCells n) = wordsOf (n.children?.getD []) := by
  rw [rowCells]
  split
  · next cell cells hChildren =>
    rw [if_pos hRow, hChildren, gridWords, gridWords, String.append_empty]
    rfl
  · next hNone =>
    cases hChildren : n.children? with
    | none => rfl
    | some members =>
      cases members with
      | nil => rfl
      | cons cell cells => exact absurd hChildren (hNone cell cells)

theorem gridWords_rowsOf_row (hRow : n.isTag "tr") :
    gridWords (rowsOf [n]) = gridWords (rowCells n) := by
  rw [rowsOf, List.flatMap_singleton, if_pos hRow]

theorem gridWords_flatMap {f : Node Picture → List (List (Node Picture))}
    (h : ∀ n ∈ nodes, gridWords (f n) = n.words) : gridWords (nodes.flatMap f) = wordsOf nodes := by
  induction nodes with
  | nil => rfl
  | cons n nodes ih =>
    rw [List.flatMap_cons, gridWords_append, wordsOf, h n (List.mem_cons_self ..),
      ih fun other hOther => h other (List.mem_cons_of_mem _ hOther)]

theorem gridWords_rowsOf (h : ∀ n ∈ nodes, gridWords (rowsOf [n]) = n.words) :
    gridWords (rowsOf nodes) = wordsOf nodes := by
  apply gridWords_flatMap
  intro n hn
  have hWords := h n hn
  rwa [rowsOf, List.flatMap_singleton] at hWords

theorem gridWords_rowsOf_group (hRow : ¬n.isTag "tr") (hGroup : sectionTags.any (n.isTag ·)) :
    gridWords (rowsOf [n]) = gridWords ((n.children?.getD []).flatMap rowCells) := by
  rw [rowsOf, List.flatMap_singleton, if_neg hRow, if_pos hGroup]

end Rows

end MarkupLayout.Layout
