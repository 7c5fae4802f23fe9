import MarkupLayout.Convert.Settings

/-!
# Paths that look alike

A draft looks at the elements around a piece of markup in two ways: styles and classes are taken from their
tags, and the text hook may look at all of them. Where neither tells two paths apart, with whatever below
them, the same is drafted. A hook that sees the tags only does not tell paths apart that have the same tags.
-/

namespace MarkupLayout.Convert

namespace Design

variable (d : Design)

/-- Two paths have the same texts and the same nodes below them. -/
structure SeesAlike (path other : List Element) : Prop where
  leaf : ∀ below raw, d.textLeaf? (path ++ below) raw = d.textLeaf? (other ++ below) raw
  node : ∀ below tag children nodes, d.assemble (tags (path ++ below) ++ [tag]) tag children nodes =
    d.assemble (tags (other ++ below) ++ [tag]) tag children nodes

variable {d} {path other : List Element}

theorem SeesAlike.below (h : d.SeesAlike path other) (e : Element) :
    d.SeesAlike (path ++ [e]) (other ++ [e]) where
  leaf below raw := by
    rw [List.append_assoc, List.append_assoc]
    exact h.leaf _ raw
  node below tag children nodes := by
    rw [List.append_assoc, List.append_assoc]
    exact h.node _ tag children nodes

mutual

theorem draft_eq_of_seesAlike {path other : List Element} (h : d.SeesAlike path other) (depth : Nat)
    (m : Markup) : d.draft path depth m = d.draft other depth m := by
  cases m with
  | text raw =>
    have hLeaf := h.leaf [] raw
    rw [List.append_nil, List.append_nil] at hLeaf
    rw [draft, draft, hLeaf]
  | element tag children =>
    have hNodes := draftAll_eq_of_seesAlike (h.below ⟨tag, children⟩) (Eq.refl tag.kind) (depth + 1) children
    have hNode := h.node [] tag children
    simp only [List.append_nil] at hNode
    rw [draft, draft]
    simp only [hNodes, hNode]

theorem draftAll_eq_of_seesAlike {path other : List Element} (h : d.SeesAlike path other)
    {parent otherParent : Tag} (hParent : parent.kind = otherParent.kind) (depth : Nat)
    (children : List Markup) :
    d.draftAll path parent depth children = d.draftAll other otherParent depth children := by
  cases children with
  | nil => rfl
  | cons child rest =>
    rw [draftAll, draftAll, draft_eq_of_seesAlike h depth child,
      draftAll_eq_of_seesAlike h hParent depth rest, hParent]

end

variable (d)

/-- Whether the text hook, if any, sees no more than the tags of the elements around a text. -/
def HookBlind : Prop :=
  ∀ hook, d.hook = some hook → ∀ text path other, tags path = tags other → hook text path = hook text other

variable {d}

theorem seesAlike_of_tags (hHook : d.HookBlind) (h : tags path = tags other) : d.SeesAlike path other := by
  have hBelow (below : List Element) : tags (path ++ below) = tags (other ++ below) := by
    rw [tags, List.map_append, tags, List.map_append]
    exact congrArg (· ++ _) h
  constructor
  · intro below raw
    have hText : d.finalText (path ++ below) raw = d.finalText (other ++ below) raw := by
      rw [finalText, finalText, hBelow below]
      cases hGiven : d.hook with
      | none => rfl
      | some hook => simp only [Option.elim_some, hHook hook hGiven _ _ _ (hBelow below)]
    rw [textLeaf?, textLeaf?, hText, hBelow below]
  · intro below tag children nodes
    rw [hBelow below]

theorem draftAll_inside (hHook : d.HookBlind) (path : List Element) (tag : Tag)
    (others children : List Markup) (depth : Nat) (members : List Markup) :
    d.draftAll (path ++ [⟨tag, others⟩]) tag depth members =
      d.draftAll (path ++ [⟨tag, children⟩]) tag depth members := by
  apply draftAll_eq_of_seesAlike _ rfl
  apply seesAlike_of_tags hHook
  rw [tags_concat, tags_concat]

end Design

theorem namingConverter_hookBlind : namingConverter.design.HookBlind := by
  intro hook hGiven text path other h
  obtain rfl := Option.some.inj hGiven
  simp only [h]

end MarkupLayout.Convert
