import MarkupLayout.Proofs.Convert.BlockOrLine
import MarkupLayout.Proofs.Convert.FontSize
import MarkupLayout.Proofs.Style.ContentName

/-!
# Frames in a draft

Without annotations no node of a draft has overrides. Under the standard styles the style of a node names
a content field only if a tag on its path declares it: a text always takes its style from there, and so
do some elements, while others do only if they gather children and no block.
-/

namespace MarkupLayout.Convert

open Layout Style

section Element

variable (d : Design) {path : List Tag} {tag : Tag} {depth : Nat} {children : List Markup}
  {nodes : List (Node Source)} {n : Node Source}

theorem Design.mem_made {path : List Element} (hn : n ∈ made (d.draft path depth (.element tag children)).1) :
    Kind.of tag = .drawing ∧ n = Design.drawing tag children ∨
      (Kind.of tag ≠ .ignored ∧ Kind.of tag ≠ .drawing) ∧ ∃ m, n = m.settle ∧
        d.assemble (tags path ++ [tag]) tag children
          (d.draftAll (path ++ [⟨tag, children⟩]) tag (depth + 1) children).1 = .ok m := by
  rw [made.eq_def] at hn
  split at hn
  · next m hMade =>
    rw [List.mem_singleton.mp hn]
    rcases d.of_draft_eq_ok hMade with ⟨hKind, rfl⟩ | ⟨hKinds, hAssembled⟩
    · exact .inl ⟨hKind, rfl⟩
    · exact .inr ⟨hKinds, m, rfl, hAssembled⟩
  · cases hn

theorem annotations_eq_empty (hNone : tag.attr? annotationAttr = none) : annotations tag = ∅ := by
  rw [annotations, Tag.present?, hNone]
  rfl

theorem Design.overrides_of_assemble (hNone : tag.attr? annotationAttr = none)
    (h : d.assemble path tag children nodes = .ok n) : n.frame.overrides = ∅ := by
  have hPlain (frame : Frame) (hFrame : frame.overrides = ∅) :
      (d.plainFrame path frame children nodes).overrides = ∅ := by
    rw [plainFrame]
    split
    · exact hFrame
    · exact hFrame
  rw [assemble, annotations_eq_empty hNone] at h
  cases hKind : Kind.of tag <;> rw [hKind] at h
  case picture =>
    dsimp only at h
    split at h
    · cases h
    · obtain rfl := Except.ok.inj h
      rfl
  all_goals obtain rfl := Except.ok.inj h
  case divider => exact hPlain _ rfl
  all_goals rfl

mutual

theorem Design.unannotated_made (path : List Element) (depth : Nat) (m : Markup)
    (hNotes : ∀ tag ∈ tagsOf m, tag.attr? annotationAttr = none) :
    Throughout (·.frame.overrides = ∅) (made (d.draft path depth m).1) := by
  cases m with
  | text raw =>
    rw [draft, textLeaf?]
    split
    · exact throughout_nil
    · exact throughout_singleton_iff.mpr ⟨rfl, throughout_nil⟩
  | element tag children =>
    obtain ⟨hTag, hChildren⟩ := List.forall_mem_cons.mp hNotes
    have hNodes := unannotated_draftAll (path ++ [⟨tag, children⟩]) tag (depth + 1) children hChildren
    intro n hn
    obtain ⟨outer, hOuter, hn⟩ := occurs_iff.mp hn
    rcases d.mem_made hOuter with ⟨-, rfl⟩ | ⟨-, m, rfl, hMade⟩
    · rcases hn with rfl | hn
      · exact annotations_eq_empty hTag
      · exact absurd hn not_occurs_nil
    · rcases hn with rfl | hn
      · rw [frame_settle]
        exact d.overrides_of_assemble hTag hMade
      · rw [members_settle] at hn
        rcases (d.assembled_of_assemble hMade).2.eq_filler_or_occurs hn with rfl | hn
        · rfl
        · exact hNodes n hn

theorem Design.unannotated_draftAll (path : List Element) (parent : Tag) (depth : Nat)
    (children : List Markup) (hNotes : ∀ tag ∈ tagsAmong children, tag.attr? annotationAttr = none) :
    Throughout (·.frame.overrides = ∅) (d.draftAll path parent depth children).1 := by
  cases children with
  | nil => exact throughout_nil
  | cons child rest =>
    obtain ⟨hChild, hRest⟩ := List.forall_mem_append.mp hNotes
    rw [draftAll_cons]
    exact throughout_append_iff.mpr ⟨unannotated_made path depth child hChild,
      unannotated_draftAll path parent depth rest hRest⟩

end

theorem Design.unannotated_draftRoot {root : Element}
    (hNotes : ∀ tag ∈ tagsOf root.toMarkup, tag.attr? annotationAttr = none) :
    Throughout (·.frame.overrides = ∅) (d.draftRoot root).1.members :=
  fun n hn => d.unannotated_made [] 0 root.toMarkup hNotes n (occurs_made_of_rootContent hn)

/-- The node of an element is given the style of its path. -/
def takesStyle (limit depth : Nat) (tag : Tag) (children : List Markup) : Bool :=
  match Kind.of tag with
  | .table | .cell | .list _ | .picture | .font => true
  | .drawing | .ignored => false
  | .link | .divider | .lineBreak | .script _ | .other =>
    !children.isEmpty && !blockAmong limit depth children

theorem Design.get?_styled (hStyles : d.styles = .standard) {key : String} (hKey : key ∈ contentFields)
    {frame : Frame} (hFrame : frame.style.get? key = none) :
    (d.styled path frame).style.get? key = none ↔ ∀ tag ∈ path, declares tag key = false := by
  rw [styled, hStyles]
  exact (get?_cascade_eq_none_iff hKey .own path frame.style).trans (and_iff_right hFrame)

theorem Design.get?_style_of_assemble (hStyles : d.styles = .standard) {key : String}
    (hKey : key ∈ contentFields) {limit : Nat} (hBlock : anyBlock nodes = blockAmong limit depth children)
    (hKinds : Kind.of tag ≠ .ignored ∧ Kind.of tag ≠ .drawing)
    (h : d.assemble path tag children nodes = .ok n) :
    n.frame.style.get? key = none ↔
      (takesStyle limit depth tag children → ∀ tag ∈ path, declares tag key = false) := by
  have hStyled (frame : Frame) (hFrame : frame.style.get? key = none) :
      (d.styled path frame).style.get? key = none ↔
        (true = true → ∀ tag ∈ path, declares tag key = false) :=
    (d.get?_styled hStyles hKey hFrame).trans ⟨fun h _ => h, fun h => h rfl⟩
  have hPlain (frame : Frame) (hFrame : frame.style.get? key = none) :
      (d.plainFrame path frame children nodes).style.get? key = none ↔
        ((!children.isEmpty && !blockAmong limit depth children) = true →
          ∀ tag ∈ path, declares tag key = false) := by
    rw [plainFrame, hBlock, ← Bool.not_or]
    cases children.isEmpty || blockAmong limit depth children with
    | true => exact iff_of_true hFrame fun h => absurd h Bool.false_ne_true
    | false => exact hStyled frame hFrame
  have hMargin : key ≠ "margin" := fun h => absurd (h ▸ hKey) (by decide)
  rw [assemble] at h
  rw [takesStyle]
  cases hKind : Kind.of tag <;> rw [hKind] at h
  case picture =>
    dsimp only at h
    split at h
    · cases h
    · obtain rfl := Except.ok.inj h
      exact hStyled _ rfl
  case ignored => exact absurd hKind hKinds.1
  case drawing => exact absurd hKind hKinds.2
  all_goals obtain rfl := Except.ok.inj h
  case divider =>
    refine Iff.trans ?_ (hPlain { tag := some (Text.asciiUpper tag.name) } rfl)
    exact Eq.congr_left (SortedMap.get?_insert_of_ne hMargin _ _)
  case font =>
    have hSize : key ≠ "fontSize" := fun h => absurd (h ▸ hKey) (by decide)
    have hColor : key ≠ "color" := fun h => absurd (h ▸ hKey) (by decide)
    exact hStyled _ (d.get?_fontStyle_of_ne tag hSize hColor)
  case table | cell | list => exact hStyled _ rfl
  all_goals exact hPlain _ rfl

end Element

end MarkupLayout.Convert
