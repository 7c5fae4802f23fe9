import MarkupLayout.Proofs.Layout.Occurrence

/-!
# Well-shaped layouts

In a well-shaped layout no block stands inside an inline run, however deep in runs within it, every
stack has a block directly in it, and no run is empty. Laying out well-shaped children gives a
well-shaped node once the node is settled.
-/

namespace MarkupLayout.Layout

variable {Picture Other : Type}

/-- A node stands in a list of nodes, or in an inline run among them at any depth of runs. -/
inductive Reached (n : Node Picture) : List (Node Picture) → Prop where
  | here {nodes : List (Node Picture)} (h : n ∈ nodes) : Reached n nodes
  | inside {nodes run : List (Node Picture)} {outer : Node Picture} (hOuter : outer ∈ nodes)
      (hRun : outer.body = .inline run) (h : Reached n run) : Reached n nodes

/-- Whether a node is a block by itself, whatever is in it. -/
def Node.isBlockLevel (n : Node Picture) : Bool :=
  n.isStack || n.frame.tag.any (blockTags.contains ·)

structure Body.WellShaped (body : Body Picture) : Prop where
  run : ∀ nodes, body = .inline nodes → ∀ m, Reached m nodes → ¬m.isBlockLevel
  stack : ∀ nodes, body = .stack nodes → ∃ m ∈ nodes, m.isBlockLevel
  filled : body ≠ .inline []

/-- All nodes of a list are well-shaped, at any depth. -/
def WellShaped (nodes : List (Node Picture)) : Prop :=
  ∀ n, Occurs n nodes → n.body.WellShaped

theorem Node.isBlock_iff {n : Node Picture} :
    n.isBlock ↔ n.isBlockLevel ∨ ∃ run, n.body = .inline run ∧ anyBlock run := by
  cases n with
  | node frame body =>
    cases body <;> simp [isBlock, Body.isBlock, isBlockLevel, isStack, Node.frame, Node.body]

theorem anyBlock_iff_exists_mem {nodes : List (Node Picture)} :
    anyBlock nodes ↔ ∃ n ∈ nodes, n.isBlock := by
  induction nodes with
  | nil => simp [anyBlock]
  | cons n nodes ih => simp [anyBlock, ih]

theorem anyBlock_of_reached {n : Node Picture} {nodes : List (Node Picture)} (h : Reached n nodes)
    (hBlock : n.isBlockLevel) : anyBlock nodes := by
  induction h with
  | here h => exact anyBlock_iff_exists_mem.mpr ⟨n, h, Node.isBlock_iff.mpr (.inl hBlock)⟩
  | inside hOuter hRun _ ih =>
    exact anyBlock_iff_exists_mem.mpr ⟨_, hOuter, Node.isBlock_iff.mpr (.inr ⟨_, hRun, ih⟩)⟩

theorem exists_reached_of_anyBlock {nodes : List (Node Picture)} (h : anyBlock nodes) :
    ∃ m, Reached m nodes ∧ m.isBlockLevel := by
  obtain ⟨n, hn, hBlock⟩ := anyBlock_iff_exists_mem.mp h
  rcases Node.isBlock_iff.mp hBlock with hLevel | ⟨run, hRun, hInner⟩
  · exact ⟨n, .here hn, hLevel⟩
  · obtain ⟨m, hm, hLevel⟩ := exists_reached_of_anyBlock hInner
    exact ⟨m, .inside hn hRun hm, hLevel⟩
termination_by sizeOf nodes
decreasing_by
  obtain ⟨frame, body⟩ := n
  obtain rfl : body = .inline run := hRun
  have hSmaller := List.sizeOf_lt_of_mem hn
  simp only [Node.node.sizeOf_spec, Body.inline.sizeOf_spec] at hSmaller
  omega

theorem Body.wellShaped_of_ne {body : Body Picture} (hRun : ∀ nodes, body ≠ .inline nodes)
    (hStack : ∀ nodes, body ≠ .stack nodes) : body.WellShaped where
  run nodes hBody := absurd hBody (hRun nodes)
  stack nodes hBody := absurd hBody (hStack nodes)
  filled := hRun []

theorem Body.wellShaped_text (content : String) : (Body.text content : Body Picture).WellShaped :=
  Body.wellShaped_of_ne nofun nofun

theorem Body.wellShaped_stack {nodes : List (Node Picture)} (h : ∃ m ∈ nodes, m.isBlockLevel) :
    (Body.stack nodes).WellShaped where
  run := nofun
  stack _ hStack := Body.stack.inj hStack ▸ h
  filled := nofun

theorem Body.wellShaped_inline {nodes : List (Node Picture)}
    (h : ∀ m, Reached m nodes → ¬m.isBlockLevel) (hFilled : nodes ≠ []) :
    (Body.inline nodes).WellShaped where
  run _ hRun := Body.inline.inj hRun ▸ h
  stack := nofun
  filled hEmpty := hFilled (Body.inline.inj hEmpty)

/-- A block among well-shaped nodes is one of them: no run hides it. -/
theorem exists_isBlockLevel_of_anyBlock {nodes : List (Node Picture)} (hNodes : WellShaped nodes)
    (h : anyBlock nodes) : ∃ m ∈ nodes, m.isBlockLevel := by
  obtain ⟨n, hn, hBlock⟩ := anyBlock_iff_exists_mem.mp h
  rcases Node.isBlock_iff.mp hBlock with hLevel | ⟨run, hRun, hInner⟩
  · exact ⟨n, hn, hLevel⟩
  · obtain ⟨m, hm, hLevel⟩ := exists_reached_of_anyBlock hInner
    exact absurd hLevel ((hNodes n (.here hn)).run run hRun m hm)

theorem wellShaped_ofChildren {nodes : List (Node Picture)} (hNodes : WellShaped nodes)
    (hFilled : nodes ≠ []) : (Body.ofChildren nodes).WellShaped := by
  rw [Body.ofChildren]
  split
  · next hBlock => exact Body.wellShaped_stack (exists_isBlockLevel_of_anyBlock hNodes hBlock)
  · next hInline =>
    refine Body.wellShaped_inline ?_ hFilled
    intro m hm hLevel
    exact hInline (anyBlock_of_reached hm hLevel)

theorem wellShaped_collapse {body : Body Picture} (h : body.WellShaped) : body.collapse.WellShaped := by
  fun_cases Body.collapse body with
  | case1 => exact Body.wellShaped_text _
  | case2 => exact h
  | case3 => exact h

theorem settle_eq_self {n : Node Picture} (h : n.body ≠ .inline []) : n.settle = n := by
  fun_cases Node.settle n with
  | case1 => exact absurd rfl h
  | case2 => rfl

theorem wellShaped_settle_ofChildren {nodes : List (Node Picture)} (hNodes : WellShaped nodes)
    (frame : Frame) : (Node.node frame (Body.ofChildren nodes).collapse).settle.body.WellShaped := by
  by_cases hFilled : nodes = []
  · rw [hFilled]
    exact Body.wellShaped_text ""
  · have hBody := wellShaped_collapse (wellShaped_ofChildren hNodes hFilled)
    have hSettle : (Node.node frame (Body.ofChildren nodes).collapse).settle = .node frame _ :=
      settle_eq_self hBody.filled
    rw [hSettle]
    exact hBody

theorem isBlockLevel_mapPicture (f : Picture → Other) (n : Node Picture) :
    (n.mapPicture f).isBlockLevel = n.isBlockLevel := by
  cases n with
  | node frame body => cases body <;> rfl

theorem reached_mapPictures {f : Picture → Other} {n : Node Other} {nodes : List (Node Picture)}
    (h : Reached n (mapPictures f nodes)) : ∃ m, Reached m nodes ∧ n = m.mapPicture f := by
  generalize hMapped : mapPictures f nodes = mapped at h
  induction h generalizing nodes with
  | here h =>
    rw [← hMapped, mapPictures_eq_map] at h
    obtain ⟨m, hm, rfl⟩ := List.mem_map.mp h
    exact ⟨m, .here hm, rfl⟩
  | inside hOuter hRun _ ih =>
    rw [← hMapped, mapPictures_eq_map] at hOuter
    obtain ⟨⟨frame, body⟩, hSource, rfl⟩ := List.mem_map.mp hOuter
    cases body with
    | inline run =>
      obtain ⟨m, hm, rfl⟩ := ih (Body.inline.inj hRun)
      exact ⟨m, .inside hSource rfl hm, rfl⟩
    | _ => cases hRun

theorem Body.WellShaped.mapPicture {body : Body Picture} (h : body.WellShaped) (f : Picture → Other) :
    (body.mapPicture f).WellShaped := by
  cases body with
  | inline nodes =>
    refine Body.wellShaped_inline ?_ ?_
    · intro m hm
      obtain ⟨source, hSource, rfl⟩ := reached_mapPictures hm
      rw [isBlockLevel_mapPicture]
      exact h.run nodes rfl source hSource
    · rw [mapPictures_eq_map, Ne, List.map_eq_nil_iff]
      rintro rfl
      exact h.filled rfl
  | stack nodes =>
    obtain ⟨m, hm, hLevel⟩ := h.stack nodes rfl
    refine Body.wellShaped_stack ⟨m.mapPicture f, ?_, (isBlockLevel_mapPicture f m).trans hLevel⟩
    rw [mapPictures_eq_map]
    exact List.mem_map_of_mem hm
  | _ => exact Body.wellShaped_of_ne nofun nofun

theorem WellShaped.mapPictures {nodes : List (Node Picture)} (h : WellShaped nodes)
    (f : Picture → Other) : WellShaped (mapPictures f nodes) := by
  intro n hn
  obtain ⟨m, hm, rfl⟩ := occurs_mapPictures hn
  rw [Node.body_mapPicture]
  exact (h m hm).mapPicture f

end MarkupLayout.Layout
