import MarkupLayout.Proofs.Convert.Drafted
import MarkupLayout.Proofs.Convert.FontSize
import MarkupLayout.Proofs.Style.PassedOn

/-!
# Collapsing

An element whose only child is a text takes that text as its own, and the node of the text is given up.
Nothing is lost with it: both nodes have the style of one path, the text from outside and the element from
inside, so that they have the same classes and agree at every key that is passed on.
-/

namespace MarkupLayout.Convert

open Layout Style

variable (d : Design) {path : List Element} {tag : Tag} {depth : Nat} {children : List Markup}
  {leaf n : Node Source}

theorem Design.frame_of_untagged {parent : Tag} {nodes : List Markup}
    (h : leaf ∈ (d.draftAll path parent depth nodes).1) (hTag : leaf.frame.tag = none) :
    leaf.frame.style = cascade d.styles .inherited (tags path) ∅ ∧
      leaf.frame.classes = nonempty? (classesAlong (tags path)) := by
  induction nodes with
  | nil => cases h
  | cons child rest ih =>
    rw [Design.draftAll_cons] at h
    rcases List.mem_append.mp h with hChild | hRest
    · cases child with
      | text raw =>
        rw [draft, textLeaf?] at hChild
        split at hChild
        · cases hChild
        · rw [List.mem_singleton.mp hChild]
          exact ⟨rfl, rfl⟩
      | element tag children =>
        by_cases hDepth : depth ≤ d.maxDepth
        · rw [(d.makes_draft hDepth).frame_tag leaf hChild] at hTag
          cases hTag
        · rw [d.made_deep hDepth] at hChild
          cases hChild
    · exact ih hRest

theorem Design.frame_of_assemble_text {path : List Tag} {nodes : List (Node Source)} {content : String}
    (h : d.assemble path tag children nodes = .ok n) (hText : n.body = .text content)
    (hChildren : children.isEmpty = false) (hBlock : anyBlock nodes = false) :
    (∃ style : StyleMap, style.get? "decoration" = none ∧
      n.frame.style = cascade d.styles .own path style) ∧
      n.frame.classes = nonempty? (classesAlong path) := by
  have hPlain (frame : Frame) : d.plainFrame path frame children nodes = d.styled path frame := by
    rw [plainFrame, hChildren, hBlock]
    rfl
  rw [assemble, hPlain] at h
  cases hKind : Kind.of tag <;> rw [hKind] at h
  case picture =>
    dsimp only at h
    split at h
    · cases h
    · obtain rfl := Except.ok.inj h
      cases hText
  all_goals obtain rfl := Except.ok.inj h
  case table | list | divider => cases hText
  case font => exact ⟨⟨_, d.get?_fontStyle_of_ne tag (by decide) (by decide), rfl⟩, rfl⟩
  all_goals exact ⟨⟨∅, rfl, rfl⟩, rfl⟩

/-- The node of an element has taken the text of its only child, which is a text without a tag. -/
structure Collapsed (path : List Element) (depth : Nat) (tag : Tag) (children : List Markup)
    (leaf n : Node Source) : Prop where
  drafted : (d.draft path depth (.element tag children)).1 = .ok (some n)
  alone : (d.draftAll (path ++ [⟨tag, children⟩]) tag (depth + 1) children).1 = [leaf]
  untagged : leaf.frame.tag = none
  text : ∃ content, content ≠ "" ∧ leaf.body = .text content ∧ n.body = .text content

/-- With the node of the text no class is lost, and no value at a key that is passed on. -/
theorem Collapsed.keeps_passedOn (h : Collapsed d path depth tag children leaf n) :
    leaf.frame.classes = n.frame.classes ∧ ∀ key value, isPassedOn key →
      leaf.frame.style.get? key = some value → n.frame.style.get? key = some value := by
  obtain ⟨content, -, hLeaf, hText⟩ := h.text
  have hMem : leaf ∈ (d.draftAll (path ++ [⟨tag, children⟩]) tag (depth + 1) children).1 := by
    rw [h.alone]
    exact List.mem_singleton_self leaf
  obtain ⟨hStyle, hClasses⟩ := d.frame_of_untagged hMem h.untagged
  have hChildren : children.isEmpty = false := by
    cases children with
    | nil => cases hMem
    | cons => rfl
  have hBlock : anyBlock [leaf] = false := by
    obtain ⟨frame, body⟩ := leaf
    have hTag : frame.tag = none := h.untagged
    have hBody : body = .text content := hLeaf
    rw [anyBlock, Node.isBlock, hTag, hBody]
    rfl
  have hMade : d.assemble (tags path ++ [tag]) tag children [leaf] = .ok n := by
    rcases d.of_draft_eq_ok h.drafted with ⟨-, rfl⟩ | ⟨-, hMade⟩
    · cases hText
    · rwa [h.alone] at hMade
  obtain ⟨⟨style, hDecoration, hOwn⟩, hOwnClasses⟩ :=
    d.frame_of_assemble_text hMade hText hChildren hBlock
  rw [tags_concat] at hStyle hClasses
  refine ⟨hClasses.trans hOwnClasses.symm, ?_⟩
  intro key value hKey hValue
  rw [hStyle] at hValue
  rw [hOwn]
  exact get?_cascade_own hKey hDecoration hValue

def paddedCell : Element where
  tag := { name := "td", attrs := .ofList [("colspan", "2"),
    ("style", "text-decoration: overline; width: 40pt; text-align: right")] }
  children := [.text "sold"]

def struckRow : Element where
  tag := { name := "tr", attrs := .ofList [("style", "text-decoration: line-through; margin: 3pt")] }
  children := [paddedCell.toMarkup]

def underlinedTable : Element where
  tag := { name := "table", attrs := .ofList [("class", "prices"),
    ("style", "border: 1px solid; text-decoration: underline")] }
  children := [struckRow.toMarkup]

/-- A cell takes all three decorations around its text, as the text did. -/
theorem struckRow_keeps : ∃ leaf n,
    Collapsed plainConverter.design [underlinedTable, struckRow] 3 paddedCell.tag paddedCell.children leaf n ∧
      leaf.frame.classes = n.frame.classes ∧ isPassedOn "decoration" ∧
      listed (n.frame.style.get? "decoration") = ["underline", "lineThrough", "overline"] := by
  have hText : plainConverter.design.finalText [underlinedTable, struckRow, paddedCell] "sold" = "sold" := by
    decide +kernel
  have hAlone : (plainConverter.design.draftAll [underlinedTable, struckRow, paddedCell] paddedCell.tag 4
      paddedCell.children).1 = [.node
        { style := cascade .standard .inherited (tags [underlinedTable, struckRow, paddedCell]) ∅
          classes := nonempty? (classesAlong (tags [underlinedTable, struckRow, paddedCell])) }
        (.text "sold")] := by
    rw [paddedCell, Design.draftAll_cons, Design.draft, Design.textLeaf?, ← paddedCell, hText]
    rfl
  have hDepth : ¬plainConverter.design.maxDepth < 3 := by decide
  have hKind : Kind.of paddedCell.tag = .cell := by decide
  have hDrafted : ∃ n, (plainConverter.design.draft [underlinedTable, struckRow] 3 paddedCell.toMarkup).1 =
      .ok (some n) ∧ n.body = .text "sold" := by
    have hInside : (plainConverter.design.draftAll ([underlinedTable, struckRow] ++
        [⟨paddedCell.tag, paddedCell.children⟩]) paddedCell.tag (3 + 1) paddedCell.children).1 = _ := hAlone
    rw [Element.toMarkup, Design.draft, if_neg hDepth]
    simp only [hKind, hInside, Design.assemble]
    exact ⟨_, rfl, rfl⟩
  obtain ⟨n, hDrafted, hBody⟩ := hDrafted
  have hCollapsed : Collapsed plainConverter.design [underlinedTable, struckRow] 3 paddedCell.tag
      paddedCell.children _ n :=
    ⟨hDrafted, hAlone, rfl, "sold", by decide, rfl, hBody⟩
  obtain ⟨hClasses, hKeeps⟩ := hCollapsed.keeps_passedOn
  have hListed : listed ((cascade .standard .inherited (tags [underlinedTable, struckRow, paddedCell])
      ∅).get? "decoration") = ["underline", "lineThrough", "overline"] := by
    decide +kernel
  refine ⟨_, n, hCollapsed, hClasses, by decide, ?_⟩
  cases hValue : (cascade .standard .inherited (tags [underlinedTable, struckRow, paddedCell])
      ∅).get? "decoration" with
  | none =>
    rw [hValue] at hListed
    cases hListed
  | some value =>
    rw [hKeeps "decoration" value (by decide) hValue, ← hListed, hValue]

end MarkupLayout.Convert
