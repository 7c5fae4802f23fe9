import MarkupLayout.Proofs.Layout.Replacement
import MarkupLayout.Proofs.Layout.Words

/-!
# Nodes at any depth

The members of a body are the nodes directly in it, and a node occurs in a list if it is one of the
list or occurs among the members of one. The cells of a grid occurred in the rows before, apart
from its fillers.
-/

namespace MarkupLayout.Layout

variable {Picture Other : Type}

def Body.members : Body Picture → List (Node Picture)
  | .inline nodes => nodes
  | .stack nodes => nodes
  | .table grid _ => grid.flatten
  | .list _ items _ => items
  | _ => []

def Content.members : Content Picture → List (Node Picture)
  | .text _ => []
  | .nodes members => members

inductive Occurs (n : Node Picture) : List (Node Picture) → Prop where
  | here {nodes : List (Node Picture)} (h : n ∈ nodes) : Occurs n nodes
  | inside {nodes : List (Node Picture)} {outer : Node Picture} (hOuter : outer ∈ nodes)
      (h : Occurs n outer.body.members) : Occurs n nodes

theorem occurs_iff {n : Node Picture} {nodes : List (Node Picture)} :
    Occurs n nodes ↔ ∃ outer ∈ nodes, n = outer ∨ Occurs n outer.body.members := by
  constructor
  · rintro (h | ⟨hOuter, h⟩)
    · exact ⟨n, h, .inl rfl⟩
    · exact ⟨_, hOuter, .inr h⟩
  · rintro ⟨outer, hOuter, rfl | h⟩
    · exact .here hOuter
    · exact .inside hOuter h

theorem not_occurs_nil {n : Node Picture} : ¬Occurs n [] := by
  intro h
  obtain ⟨outer, hOuter, -⟩ := occurs_iff.mp h
  cases hOuter

theorem occurs_cons_iff {n m : Node Picture} {nodes : List (Node Picture)} :
    Occurs n (m :: nodes) ↔ n = m ∨ Occurs n m.body.members ∨ Occurs n nodes := by
  rw [occurs_iff, List.exists_mem_cons_iff, or_assoc, ← occurs_iff]

theorem occurs_singleton_iff {n m : Node Picture} :
    Occurs n [m] ↔ n = m ∨ Occurs n m.body.members := by
  rw [occurs_cons_iff, or_iff_left not_occurs_nil]

theorem Occurs.mono {n : Node Picture} {nodes others : List (Node Picture)} (h : Occurs n nodes)
    (hSub : nodes ⊆ others) : Occurs n others := by
  obtain ⟨outer, hOuter, hn⟩ := occurs_iff.mp h
  exact occurs_iff.mpr ⟨outer, hSub hOuter, hn⟩

theorem occurs_append_iff {n : Node Picture} {nodes others : List (Node Picture)} :
    Occurs n (nodes ++ others) ↔ Occurs n nodes ∨ Occurs n others := by
  constructor
  · intro h
    obtain ⟨outer, hOuter, hn⟩ := occurs_iff.mp h
    rcases List.mem_append.mp hOuter with hMem | hMem
    · exact .inl (occurs_iff.mpr ⟨outer, hMem, hn⟩)
    · exact .inr (occurs_iff.mpr ⟨outer, hMem, hn⟩)
  · rintro (h | h)
    · exact h.mono (List.subset_append_left nodes others)
    · exact h.mono (List.subset_append_right nodes others)

theorem Occurs.trans {n m : Node Picture} {nodes : List (Node Picture)} (hm : Occurs m nodes)
    (hn : Occurs n m.body.members) : Occurs n nodes := by
  induction hm with
  | here h => exact .inside h hn
  | inside hOuter _ ih => exact .inside hOuter ih

theorem members_mapPicture (f : Picture → Other) (body : Body Picture) :
    (body.mapPicture f).members = mapPictures f body.members := by
  cases body with
  | table grid form =>
    show (mapGrid f grid).flatten = mapPictures f grid.flatten
    rw [mapGrid_eq_map, mapPictures_eq_map, List.map_flatten, funext (mapPictures_eq_map f)]
  | _ => rfl

theorem Content.members_mapPicture (f : Picture → Other) (content : Content Picture) :
    (content.mapPicture f).members = mapPictures f content.members := by
  cases content <;> rfl

theorem members_settle (n : Node Picture) : n.settle.body.members = n.body.members := by
  fun_cases Node.settle n <;> rfl

theorem members_ofChildren (nodes : List (Node Picture)) : (Body.ofChildren nodes).members = nodes := by
  rw [Body.ofChildren]
  split <;> rfl

theorem members_collapse_subset (body : Body Picture) : body.collapse.members ⊆ body.members := by
  fun_cases Body.collapse body with
  | case1 => exact List.nil_subset _
  | case2 => exact List.Subset.refl _
  | case3 => exact List.Subset.refl _

theorem occurs_mapPictures {f : Picture → Other} {n : Node Other} {nodes : List (Node Picture)}
    (h : Occurs n (mapPictures f nodes)) : ∃ m, Occurs m nodes ∧ n = m.mapPicture f := by
  generalize hMapped : mapPictures f nodes = mapped at h
  induction h generalizing nodes with
  | here h =>
    rw [← hMapped, mapPictures_eq_map] at h
    obtain ⟨m, hm, rfl⟩ := List.mem_map.mp h
    exact ⟨m, .here hm, rfl⟩
  | inside hOuter _ ih =>
    rw [← hMapped, mapPictures_eq_map] at hOuter
    obtain ⟨source, hSource, rfl⟩ := List.mem_map.mp hOuter
    obtain ⟨m, hm, rfl⟩ := ih (by rw [Node.body_mapPicture, members_mapPicture])
    exact ⟨m, .inside hSource hm, rfl⟩

section Tables

variable {n : Node Picture} {nodes : List (Node Picture)}

theorem members_of_children? {members : List (Node Picture)} (h : n.children? = some members) :
    n.body.members = members := by
  rw [Node.children?] at h
  split at h
  · next hBody => rw [hBody]; exact Option.some.inj h
  · next hBody => rw [hBody]; exact Option.some.inj h
  · cases h

theorem mem_members_of_rowCells {row : List (Node Picture)} (hRow : row ∈ rowCells n)
    {cell : Node Picture} (hCell : cell ∈ row) : cell ∈ n.body.members := by
  rw [rowCells] at hRow
  split at hRow
  · next hChildren =>
    split at hRow
    · rw [List.mem_singleton.mp hRow] at hCell
      rwa [members_of_children? hChildren]
    · cases hRow
  · cases hRow

theorem occurs_of_rowsOf {row : List (Node Picture)} (hRow : row ∈ rowsOf nodes)
    {cell : Node Picture} (hCell : cell ∈ row) : Occurs cell nodes := by
  obtain ⟨child, hChild, hRow⟩ := List.mem_flatMap.mp hRow
  refine .inside hChild ?_
  split at hRow
  · exact .here (mem_members_of_rowCells hRow hCell)
  · split at hRow
    · obtain ⟨part, hPart, hRow⟩ := List.mem_flatMap.mp hRow
      have hInside : Occurs cell part.body.members := .here (mem_members_of_rowCells hRow hCell)
      refine .inside ?_ hInside
      cases hChildren : child.children? with
      | none =>
        rw [hChildren] at hPart
        cases hPart
      | some members =>
        rw [hChildren] at hPart
        rwa [members_of_children? hChildren]
    · cases hRow

theorem mem_sources_iff {row : List (Slot Picture)} {source : Node Picture} :
    source ∈ sources row ↔ Slot.cell source ∈ row := by
  induction row with
  | nil => exact iff_of_false List.not_mem_nil List.not_mem_nil
  | cons slot row ih => cases slot <;> simp [sources, ih]

theorem eq_filler_or_mem_of_expandSpans {rows : List (List (Node Picture))}
    (h : n ∈ (expandSpans rows).flatten) : n = .filler ∨ ∃ row ∈ rows, n ∈ row := by
  obtain ⟨cells, hCells, hn⟩ := List.mem_flatten.mp h
  obtain ⟨slots, hSlots, rfl⟩ := List.mem_map.mp hCells
  obtain ⟨slot, hSlot, rfl⟩ := List.mem_map.mp hn
  cases slot with
  | filler => exact .inl rfl
  | cell source =>
    refine .inr ⟨sources slots, ?_, mem_sources_iff.mpr hSlot⟩
    rw [← map_sources_slotGrid rows]
    exact List.mem_map.mpr ⟨slots, hSlots, rfl⟩

/-- What occurs in the grid of a table has occurred in its children, or is a filler. -/
theorem eq_filler_or_occurs_of_grid (h : Occurs n (expandSpans (rowsOf nodes)).flatten) :
    n = .filler ∨ Occurs n nodes := by
  obtain ⟨cell, hCell, hn⟩ := occurs_iff.mp h
  rcases eq_filler_or_mem_of_expandSpans hCell with rfl | ⟨row, hRow, hMem⟩
  · rcases hn with rfl | hn
    · exact .inl rfl
    · exact absurd hn not_occurs_nil
  · have hCell := occurs_of_rowsOf hRow hMem
    rcases hn with rfl | hn
    · exact .inr hCell
    · exact .inr (hCell.trans hn)

end Tables

end MarkupLayout.Layout
