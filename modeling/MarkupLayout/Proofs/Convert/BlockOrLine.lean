import MarkupLayout.Proofs.Convert.Shape
import MarkupLayout.Proofs.Layout.LinesInRuns

/-!
# Blocks and lines

A node of a draft is a block, a text or a line. Which of these a piece of markup becomes can be told
from its tags, so it can be told whether there is a block or a line among the children of an element.
-/

namespace MarkupLayout.Convert

open Layout

theorem mem_blockTags_of_kind {tag : Tag}
    (h : Kind.of tag ∈ [.table, .list false, .list true, .picture, .drawing]) :
    Text.asciiUpper tag.name ∈ blockTags := by
  have hName : Text.asciiUpper tag.name = Text.asciiUpper tag.kind :=
    (Text.asciiUpper_asciiLower tag.name).symm
  rw [hName]
  rw [Kind.of] at h
  split at h <;> simp_all
  all_goals decide

theorem isBlockLevel_of_tag {n : Node Source} {name : String} (hTag : n.frame.tag = some name)
    (hBlock : name ∈ blockTags) : n.isBlockLevel := by
  rw [Node.isBlockLevel, hTag, Option.any_some, List.contains_iff_mem.mpr hBlock, Bool.or_true]

theorem kept_block_text_line (among : Tag → Prop) :
    Kept among fun n => n.isBlockLevel ∨ n.body.isText ∨ n.body.isLine where
  text _ _ := .inr (.inl rfl)
  drawing tag children hKind :=
    .inl (isBlockLevel_of_tag rfl (mem_blockTags_of_kind (by simp [hKind])))
  assembled frame tag nodes body _ hTag _ hBody := by
    have hBlock (hKind : Kind.of tag ∈ [.table, .list false, .list true, .picture, .drawing])
        (body : Body Source) : (Node.node frame body).isBlockLevel :=
      isBlockLevel_of_tag hTag (mem_blockTags_of_kind hKind)
    cases hBody with
    | children =>
      rcases collapse_ofChildren_eq_or nodes with hBody | ⟨_, _, -, -, hBody⟩
      · rw [hBody, Body.ofChildren]
        split
        · exact .inl rfl
        · cases nodes with
          | nil => exact .inr (.inl rfl)
          | cons n nodes => exact .inr (.inl rfl)
      · rw [hBody]
        exact .inr (.inl rfl)
    | table form hKind => exact .inl (hBlock (by simp [hKind]) _)
    | @list ordered marker hKind => exact .inl (hBlock (by cases ordered <;> simp [hKind]) _)
    | picture style hKind => exact .inl (hBlock (by simp [hKind]) _)
    | line => exact .inr (.inr rfl)
    | lineBreak => exact .inr (.inl rfl)

/-- A member of a run is a text or a line, whatever is converted. -/
theorem Design.isText_or_isLine_of_inRun (d : Design) (root : Element) (m : Node Source)
    (h : InRun m (d.draftRoot root).1.members) : m.body.isText ∨ m.body.isLine := by
  obtain ⟨n, run, hOccurs, hRun, hm⟩ := h
  have hMember : Occurs m (d.draftRoot root).1.members := by
    refine hOccurs.trans ?_
    rw [hRun]
    exact .here hm
  rcases d.kept_draftRoot (kept_block_text_line _) m hMember with hBlock | hFree
  · exact absurd hBlock ((d.wellShaped_draftRoot root n hOccurs).run run hRun m (.here hm))
  · exact hFree

/-- An element is not left out of the draft. -/
def appears (limit depth : Nat) (tag : Tag) : Bool :=
  depth ≤ limit && Kind.of tag ≠ .ignored && (Kind.of tag ≠ .picture || (tag.present? "src").isSome)

mutual

/-- Whether markup is converted to a block, or to a run with a block in it. -/
def becomesBlock (limit depth : Nat) : Markup → Bool
  | .text _ => false
  | .element tag children =>
    appears limit depth tag && (blockTags.contains (Text.asciiUpper tag.name) ||
      (Kind.of tag).gathers && blockAmong limit (depth + 1) children)

def blockAmong (limit depth : Nat) : List Markup → Bool
  | [] => false
  | child :: rest => becomesBlock limit depth child || blockAmong limit depth rest

end

def becomesLine (limit depth : Nat) : Markup → Bool
  | .text _ => false
  | .element tag _ => depth ≤ limit && Kind.of tag = .divider

section Drafted

variable (d : Design) {tag : Tag} {depth : Nat} {children : List Markup} {nodes : List (Node Source)}

theorem Assembled.isBlock {body : Body Source} (h : Assembled tag nodes body) :
    body.isBlock = ((Kind.of tag).gathers && anyBlock nodes) := by
  cases h with
  | children hKind => rw [isBlock_collapse_ofChildren, hKind, Bool.true_and]
  | table form hKind => rw [hKind]; rfl
  | list marker hKind => rw [hKind]; rfl
  | picture style hKind => rw [hKind]; rfl
  | line segment hKind => rw [hKind]; rfl
  | lineBreak hKind => rw [hKind]; rfl

theorem Assembled.appears {body : Body Source} {limit : Nat} (h : Assembled tag nodes body)
    (hDepth : depth ≤ limit) (hKind : Kind.of tag ≠ .ignored) : appears limit depth tag := by
  rw [Convert.appears, decide_eq_true hDepth, decide_eq_true hKind]
  cases h with
  | children hGathers =>
    have hPicture : Kind.of tag ≠ .picture := fun hPicture => by
      rw [hPicture] at hGathers
      cases hGathers
    rw [decide_eq_true hPicture]
    rfl
  | picture style hPicture hAddress =>
    rw [hAddress]
    exact Bool.or_true _
  | table form hKind => rw [hKind]; rfl
  | list marker hKind => rw [hKind]; rfl
  | line segment hKind => rw [hKind]; rfl
  | lineBreak hKind => rw [hKind]; rfl

theorem appears_eq_false {limit : Nat}
    (h : Kind.of tag = .ignored ∨ Kind.of tag = .picture ∧ tag.present? "src" = none) :
    appears limit depth tag = false := by
  rcases h with hKind | ⟨hKind, hSource⟩
  · simp [appears, hKind]
  · simp [appears, hKind, hSource]

theorem Makes.anyBlock {limit : Nat} {others : List (Node Source)} (h : Makes tag children nodes others)
    (hDepth : depth ≤ limit) (hNodes : anyBlock nodes = blockAmong limit (depth + 1) children) :
    anyBlock others = becomesBlock limit depth (.element tag children) := by
  rw [becomesBlock, ← hNodes]
  cases h with
  | nothing h =>
    rw [appears_eq_false h]
    rfl
  | drawing hKind =>
    have hBlock : Text.asciiUpper tag.name ∈ blockTags := mem_blockTags_of_kind (by simp [hKind])
    simp [Convert.appears, hKind, hDepth, hBlock, Layout.anyBlock, Design.drawing, Node.isBlock]
  | assembled hTag hBody hKind =>
    rw [hBody.appears hDepth hKind.1, Bool.true_and, Layout.anyBlock, isBlock_settle, Node.isBlock,
      hTag, Option.any_some, hBody.isBlock, Layout.anyBlock, Bool.or_false]

mutual

theorem Design.anyBlock_made (path : List Element) (depth : Nat) (m : Markup) :
    anyBlock (made (d.draft path depth m).1) = becomesBlock d.maxDepth depth m := by
  cases m with
  | text raw =>
    rcases d.made_text raw with hNone | ⟨frame, content, hTag, hLeaf⟩
    · rw [hNone]
      rfl
    · rw [hLeaf, anyBlock, Node.isBlock, hTag]
      rfl
  | element tag children =>
    by_cases hDepth : depth ≤ d.maxDepth
    · have hNodes := anyBlock_draftAll (path ++ [⟨tag, children⟩]) tag (depth + 1) children
      exact (d.makes_draft hDepth).anyBlock hDepth hNodes
    · rw [d.made_deep hDepth, becomesBlock, appears, decide_eq_false hDepth]
      rfl

theorem Design.anyBlock_draftAll (path : List Element) (parent : Tag) (depth : Nat)
    (children : List Markup) : anyBlock (d.draftAll path parent depth children).1 =
      blockAmong d.maxDepth depth children := by
  cases children with
  | nil => rfl
  | cons child rest =>
    rw [draftAll_cons, anyBlock_append, blockAmong, anyBlock_made path depth child,
      anyBlock_draftAll path parent depth rest]

end

theorem Assembled.isLine {body : Body Source} (h : Assembled tag nodes body) :
    body.isLine = decide (Kind.of tag = .divider) := by
  cases h with
  | children hKind =>
    have hDivider : Kind.of tag ≠ .divider := fun hDivider => by
      rw [hDivider] at hKind
      cases hKind
    rw [decide_eq_false hDivider]
    rcases collapse_ofChildren_eq_or nodes with hBody | ⟨_, _, -, -, hBody⟩
    · rw [hBody, Body.ofChildren]
      split <;> rfl
    · rw [hBody]
      rfl
  | table form hKind => rw [hKind]; rfl
  | list marker hKind => rw [hKind]; rfl
  | picture style hKind => rw [hKind]; rfl
  | line segment hKind => rw [hKind]; rfl
  | lineBreak hKind => rw [hKind]; rfl

theorem Makes.any_isLine {others : List (Node Source)} (h : Makes tag children nodes others) :
    others.any (·.body.isLine) = decide (Kind.of tag = .divider) := by
  cases h with
  | nothing h =>
    rcases h with hKind | ⟨hKind, -⟩
    · rw [hKind]
      rfl
    · rw [hKind]
      rfl
  | drawing hKind =>
    rw [hKind]
    rfl
  | assembled hTag hBody hKind =>
    rw [List.any_cons, List.any_nil, Bool.or_false, isLine_settle]
    exact hBody.isLine

theorem Design.any_isLine_made (path : List Element) (depth : Nat) (m : Markup) :
    (made (d.draft path depth m).1).any (·.body.isLine) = becomesLine d.maxDepth depth m := by
  cases m with
  | text raw =>
    rcases d.made_text raw with hNone | ⟨frame, content, -, hLeaf⟩
    · rw [hNone]
      rfl
    · rw [hLeaf]
      rfl
  | element tag children =>
    by_cases hDepth : depth ≤ d.maxDepth
    · rw [becomesLine, decide_eq_true hDepth, Bool.true_and]
      exact (d.makes_draft hDepth).any_isLine
    · rw [d.made_deep hDepth, becomesLine, decide_eq_false hDepth]
      rfl

theorem Design.any_isLine_draftAll (path : List Element) (parent : Tag) (depth : Nat)
    (children : List Markup) : (d.draftAll path parent depth children).1.any (·.body.isLine) =
      children.any (becomesLine d.maxDepth depth) := by
  induction children with
  | nil => rfl
  | cons child rest ih =>
    rw [draftAll_cons, List.any_append, List.any_cons, any_isLine_made, ih]

end Drafted

end MarkupLayout.Convert
