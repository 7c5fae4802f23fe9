import MarkupLayout.Proofs.Layout.WellShaped

/-!
# Lines in runs

A dividing line is neither a text nor a block, so it is the one thing besides text that a run may get
hold of. Whether any run has a line in it is found out from the nodes one by one, through the grids of
tables and whatever rows they are gathered from.
-/

namespace MarkupLayout.Layout

variable {Picture Other : Type}

def Body.isText : Body Picture → Bool
  | .text _ => true
  | .inline _ => true
  | _ => false

def Body.isLine : Body Picture → Bool
  | .line _ => true
  | _ => false

theorem not_isLine_of_isText {body : Body Picture} (h : body.isText) : ¬body.isLine := by
  cases body with
  | line => cases h
  | _ => nofun

/-- A node is a member of a run that occurs in a list of nodes at any depth. -/
def InRun (m : Node Picture) (nodes : List (Node Picture)) : Prop :=
  ∃ n run, Occurs n nodes ∧ n.body = .inline run ∧ m ∈ run

/-- No run has a line in it. -/
def Unlined (nodes : List (Node Picture)) : Prop :=
  ∀ m, InRun m nodes → ¬m.body.isLine

section Unlined

variable {nodes others : List (Node Picture)} {n m : Node Picture} {frame : Frame}

theorem not_inRun_nil : ¬InRun m [] := by
  rintro ⟨n, run, hOccurs, -⟩
  exact not_occurs_nil hOccurs

theorem inRun_cons_iff : InRun m (n :: nodes) ↔ InRun m [n] ∨ InRun m nodes := by
  constructor
  · rintro ⟨outer, run, hOccurs, hRun⟩
    rcases occurs_cons_iff.mp hOccurs with rfl | hInside | hRest
    · exact .inl ⟨outer, run, occurs_singleton_iff.mpr (.inl rfl), hRun⟩
    · exact .inl ⟨outer, run, occurs_singleton_iff.mpr (.inr hInside), hRun⟩
    · exact .inr ⟨outer, run, hRest, hRun⟩
  · rintro (⟨outer, run, hOccurs, hRun⟩ | ⟨outer, run, hOccurs, hRun⟩)
    · exact ⟨outer, run, hOccurs.mono (List.cons_subset_cons n (List.nil_subset nodes)), hRun⟩
    · exact ⟨outer, run, hOccurs.mono (List.subset_cons_self n nodes), hRun⟩

theorem inRun_singleton_iff :
    InRun m [n] ↔ (∃ run, n.body = .inline run ∧ m ∈ run) ∨ InRun m n.body.members := by
  constructor
  · rintro ⟨outer, run, hOccurs, hRun⟩
    rcases occurs_singleton_iff.mp hOccurs with rfl | hInside
    · exact .inl ⟨run, hRun⟩
    · exact .inr ⟨outer, run, hInside, hRun⟩
  · rintro (⟨run, hRun⟩ | ⟨outer, run, hOccurs, hRun⟩)
    · exact ⟨n, run, occurs_singleton_iff.mpr (.inl rfl), hRun⟩
    · exact ⟨outer, run, occurs_singleton_iff.mpr (.inr hOccurs), hRun⟩

theorem unlined_nil : Unlined ([] : List (Node Picture)) :=
  fun _ h => absurd h not_inRun_nil

theorem unlined_cons_iff : Unlined (n :: nodes) ↔ Unlined [n] ∧ Unlined nodes := by
  constructor
  · intro h
    exact ⟨fun m hm => h m (inRun_cons_iff.mpr (.inl hm)),
      fun m hm => h m (inRun_cons_iff.mpr (.inr hm))⟩
  · rintro ⟨hFirst, hRest⟩ m hm
    rcases inRun_cons_iff.mp hm with hm | hm
    · exact hFirst m hm
    · exact hRest m hm

theorem unlined_append_iff : Unlined (nodes ++ others) ↔ Unlined nodes ∧ Unlined others := by
  induction nodes with
  | nil => exact (and_iff_right unlined_nil).symm
  | cons n nodes ih =>
    have hNodes : Unlined (n :: nodes) ↔ Unlined [n] ∧ Unlined nodes := unlined_cons_iff
    rw [List.cons_append, unlined_cons_iff, ih, hNodes, and_assoc]

theorem unlined_iff_forall_mem : Unlined nodes ↔ ∀ n ∈ nodes, Unlined [n] := by
  induction nodes with
  | nil => exact iff_of_true unlined_nil fun _ h => absurd h List.not_mem_nil
  | cons n nodes ih => rw [unlined_cons_iff, ih, List.forall_mem_cons]

theorem unlined_singleton_iff : Unlined [n] ↔
    (∀ run, n.body = .inline run → ∀ m ∈ run, ¬m.body.isLine) ∧ Unlined n.body.members := by
  constructor
  · intro h
    exact ⟨fun run hRun m hm => h m (inRun_singleton_iff.mpr (.inl ⟨run, hRun, hm⟩)),
      fun m hm => h m (inRun_singleton_iff.mpr (.inr hm))⟩
  · rintro ⟨hOwn, hMembers⟩ m hm
    rcases inRun_singleton_iff.mp hm with ⟨run, hRun, hMem⟩ | hInside
    · exact hOwn run hRun m hMem
    · exact hMembers m hInside

theorem unlined_singleton_of_ne (hRun : ∀ run, n.body ≠ .inline run) :
    Unlined [n] ↔ Unlined n.body.members := by
  rw [unlined_singleton_iff]
  exact and_iff_right fun run h => absurd h (hRun run)

theorem unlined_text (frame : Frame) (content : String) :
    Unlined [(Node.node frame (.text content) : Node Picture)] :=
  (unlined_singleton_of_ne fun _ h => by cases h).mpr unlined_nil

/-- Gathered children stay as they are, but for a single untagged text. -/
theorem collapse_ofChildren_eq_or (nodes : List (Node Picture)) :
    (Body.ofChildren nodes).collapse = Body.ofChildren nodes ∨ ∃ frame content, frame.tag = none ∧
      nodes = [.node frame (.text content)] ∧ (Body.ofChildren nodes).collapse = .text content := by
  generalize hBody : Body.ofChildren nodes = body
  fun_cases Body.collapse body with
  | case1 frame content hShrinks =>
    refine .inr ⟨frame, content, ?_, ?_, rfl⟩
    · exact Option.isNone_iff_eq_none.mp (Bool.and_eq_true_iff.mp hShrinks).1
    · rw [Body.ofChildren] at hBody
      split at hBody
      · cases hBody
      · exact Body.inline.inj hBody
  | case2 => exact .inl rfl
  | case3 => exact .inl rfl

theorem unlined_settle_ofChildren :
    Unlined [(Node.node frame (Body.ofChildren nodes).collapse).settle] ↔
      (anyBlock nodes ∨ ∀ m ∈ nodes, ¬m.body.isLine) ∧ Unlined nodes := by
  rcases collapse_ofChildren_eq_or nodes with hBody | ⟨inner, content, -, rfl, hBody⟩
  · rw [hBody, Body.ofChildren]
    split
    · next hBlock =>
      rw [and_iff_right (.inl hBlock)]
      exact unlined_singleton_of_ne fun _ h => by cases h
    · next hInline =>
      rw [or_iff_right hInline]
      cases nodes with
      | nil =>
        exact iff_of_true (unlined_text frame "")
          ⟨fun _ h => absurd h List.not_mem_nil, unlined_nil⟩
      | cons n nodes =>
        show Unlined [Node.node frame (.inline (n :: nodes))] ↔ _
        rw [unlined_singleton_iff]
        refine and_congr_left fun _ => ?_
        constructor
        · exact fun h => h _ rfl
        · rintro h run ⟨⟩
          exact h
  · rw [hBody]
    refine iff_of_true (unlined_text frame content) ⟨.inr ?_, unlined_text inner content⟩
    intro m hm hLine
    rw [List.mem_singleton.mp hm] at hLine
    cases hLine

theorem children_settle_collapse (frame : Frame) (nodes : List (Node Picture)) :
    (Node.node frame (Body.ofChildren nodes).collapse).settle.children?.getD [] = nodes ∨
      (Node.node frame (Body.ofChildren nodes).collapse).settle.children?.getD [] = [] ∧
        ∃ inner content, inner.tag = none ∧ nodes = [.node inner (.text content)] := by
  rcases collapse_ofChildren_eq_or nodes with hBody | ⟨inner, content, hTag, rfl, hBody⟩
  · rw [hBody]
    exact .inl (children_settle frame nodes)
  · rw [hBody]
    exact .inr ⟨rfl, inner, content, hTag, rfl⟩

theorem anyBlock_append (nodes others : List (Node Picture)) :
    anyBlock (nodes ++ others) = (anyBlock nodes || anyBlock others) := by
  induction nodes with
  | nil => rfl
  | cons n nodes ih => rw [List.cons_append, anyBlock, anyBlock, ih, Bool.or_assoc]

theorem isBlock_settle (n : Node Picture) : n.settle.isBlock = n.isBlock := by
  fun_cases Node.settle n <;> rfl

theorem isBlock_collapse_ofChildren (nodes : List (Node Picture)) :
    (Body.ofChildren nodes).collapse.isBlock = anyBlock nodes := by
  rcases collapse_ofChildren_eq_or nodes with hBody | ⟨frame, content, hTag, rfl, hBody⟩
  · rw [hBody, Body.ofChildren]
    split
    · next hBlock => rw [Body.isBlock, hBlock]
    · rw [Body.isBlock]
  · rw [hBody, anyBlock, Node.isBlock, hTag]
    rfl

theorem isLine_settle (n : Node Picture) : n.settle.body.isLine = n.body.isLine := by
  fun_cases Node.settle n <;> rfl

theorem flatten_rowCells (hRow : n.isTag "tr") : (rowCells n).flatten = n.children?.getD [] := by
  rw [rowCells]
  split
  · next hChildren => rw [if_pos hRow, hChildren, List.flatten_singleton, Option.getD_some]
  · next hNone =>
    cases hChildren : n.children? with
    | none => rfl
    | some members =>
      cases members with
      | nil => rfl
      | cons cell cells => exact absurd hChildren (hNone cell cells)

theorem rowCells_of_not_row (hRow : ¬n.isTag "tr") : rowCells n = [] := by
  rw [rowCells]
  split
  · rw [if_neg hRow]
  · rfl

theorem mem_grid_of_mem_rows {rows : List (List (Node Picture))} {row : List (Node Picture)}
    (hRow : row ∈ rows) (hn : n ∈ row) : n ∈ (expandSpans rows).flatten := by
  rw [← map_sources_slotGrid rows] at hRow
  obtain ⟨slots, hSlots, rfl⟩ := List.mem_map.mp hRow
  refine List.mem_flatten.mpr ⟨slots.map Slot.node, List.mem_map_of_mem hSlots, ?_⟩
  exact List.mem_map.mpr ⟨.cell n, mem_sources_iff.mp hn, rfl⟩

theorem unlined_grid_iff {rows : List (List (Node Picture))} :
    Unlined (expandSpans rows).flatten ↔ Unlined rows.flatten := by
  constructor
  · intro h
    refine unlined_iff_forall_mem.mpr fun n hn => ?_
    obtain ⟨row, hRow, hn⟩ := List.mem_flatten.mp hn
    exact unlined_iff_forall_mem.mp h n (mem_grid_of_mem_rows hRow hn)
  · intro h
    refine unlined_iff_forall_mem.mpr fun n hn => ?_
    rcases eq_filler_or_mem_of_expandSpans hn with rfl | ⟨row, hRow, hMem⟩
    · exact unlined_text {} ""
    · exact unlined_iff_forall_mem.mp h n (List.mem_flatten.mpr ⟨row, hRow, hMem⟩)

theorem unlined_table_iff {rows : List (List (Node Picture))} {form : TableForm} :
    Unlined [Node.node frame (.table (expandSpans rows) form)] ↔ Unlined rows.flatten :=
  (unlined_singleton_of_ne fun _ h => by cases h).trans unlined_grid_iff

end Unlined

theorem Occurs.mapPictures {n : Node Picture} {nodes : List (Node Picture)} (h : Occurs n nodes)
    (f : Picture → Other) : Occurs (n.mapPicture f) (mapPictures f nodes) := by
  induction h with
  | here h =>
    rw [mapPictures_eq_map]
    exact .here (List.mem_map_of_mem h)
  | inside hOuter _ ih =>
    rw [mapPictures_eq_map]
    refine .inside (List.mem_map_of_mem hOuter) ?_
    rwa [Node.body_mapPicture, members_mapPicture]

theorem inRun_mapPictures_iff {f : Picture → Other} {m : Node Other} {nodes : List (Node Picture)} :
    InRun m (mapPictures f nodes) ↔ ∃ source, InRun source nodes ∧ m = source.mapPicture f := by
  constructor
  · rintro ⟨n, run, hOccurs, hRun, hm⟩
    obtain ⟨⟨frame, body⟩, hSource, rfl⟩ := occurs_mapPictures hOccurs
    cases body with
    | inline members =>
      obtain rfl := Body.inline.inj hRun
      rw [mapPictures_eq_map] at hm
      obtain ⟨source, hMember, rfl⟩ := List.mem_map.mp hm
      exact ⟨source, ⟨_, members, hSource, rfl, hMember⟩, rfl⟩
    | _ => cases hRun
  · rintro ⟨source, ⟨n, run, hOccurs, hRun, hm⟩, rfl⟩
    refine ⟨n.mapPicture f, run.map (Node.mapPicture f), hOccurs.mapPictures f, ?_,
      List.mem_map_of_mem hm⟩
    rw [Node.body_mapPicture, hRun, Body.mapPicture, mapPictures_eq_map]

theorem isLine_mapPicture (f : Picture → Other) (n : Node Picture) :
    (n.mapPicture f).body.isLine = n.body.isLine := by
  obtain ⟨frame, body⟩ := n
  cases body <;> rfl

theorem isText_mapPicture (f : Picture → Other) (n : Node Picture) :
    (n.mapPicture f).body.isText = n.body.isText := by
  obtain ⟨frame, body⟩ := n
  cases body <;> rfl

theorem unlined_mapPictures_iff {f : Picture → Other} {nodes : List (Node Picture)} :
    Unlined (mapPictures f nodes) ↔ Unlined nodes := by
  constructor
  · intro h m hm
    rw [← isLine_mapPicture f]
    exact h _ (inRun_mapPictures_iff.mpr ⟨m, hm, rfl⟩)
  · intro h m hm
    obtain ⟨source, hSource, rfl⟩ := inRun_mapPictures_iff.mp hm
    rw [isLine_mapPicture]
    exact h source hSource

end MarkupLayout.Layout
