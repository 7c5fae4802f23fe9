import MarkupLayout.Proofs.Convert.Tidy
import MarkupLayout.Proofs.Convert.BlockOrLine

/-!
# Stray lines

A table, a list, a picture and a drawing are blocks, so no run has one of them in it. A dividing line
is not: it gets into a run if the element around it gathers no block. Which trees that happens for can
be told from the tags and their places alone.
-/

namespace MarkupLayout.Convert

open Layout

mutual

/-- Whether the layout has a run with a line in it for markup at a place. A table shows what stands in
its rows and in the rows of its sections, and nothing else. -/
def strays (limit : Nat) (place : Place) (depth : Nat) : Markup → Bool
  | .text _ => false
  | .element tag children =>
    depth ≤ limit && match place with
      | .table =>
        if tag.kind = "tr" then straysAmong limit .row (depth + 1) children
        else sectionTags.contains tag.kind && straysAmong limit .group (depth + 1) children
      | .group => tag.kind = "tr" && straysAmong limit .row (depth + 1) children
      | .flow | .row =>
        match Kind.of tag with
        | .table => straysAmong limit .table (depth + 1) children
        | .list _ => straysAmong limit .flow (depth + 1) children
        | .picture | .divider | .lineBreak | .drawing | .ignored => false
        | _ =>
          children.any (becomesLine limit (depth + 1)) && !blockAmong limit (depth + 1) children ||
            straysAmong limit .flow (depth + 1) children

def straysAmong (limit : Nat) (place : Place) (depth : Nat) : List Markup → Bool
  | [] => false
  | child :: rest => strays limit place depth child || straysAmong limit place depth rest

end

/-- The nodes that a place lets through of its nodes. -/
def Place.shown : Place → List (Node Source) → List (Node Source)
  | .table, nodes => (rowsOf nodes).flatten
  | .group, nodes => (nodes.flatMap rowCells).flatten
  | .flow, nodes | .row, nodes => nodes

section Shown

variable {place : Place} {tag : Tag} {nodes others : List (Node Source)} {n : Node Source}
  {frame : Frame}

theorem Place.shown_nil (place : Place) : place.shown [] = [] := by
  cases place <;> rfl

theorem Place.shown_append (place : Place) (nodes others : List (Node Source)) :
    place.shown (nodes ++ others) = place.shown nodes ++ place.shown others := by
  cases place with
  | flow => rfl
  | row => rfl
  | table => rw [shown, rowsOf, List.flatMap_append, List.flatten_append]; rfl
  | group => rw [shown, List.flatMap_append, List.flatten_append]; rfl

theorem Place.shown_row (hRow : n.isTag "tr") (hPlace : place = .table ∨ place = .group) :
    place.shown [n] = n.children?.getD [] := by
  rcases hPlace with rfl | rfl
  · rw [shown, rowsOf, List.flatMap_singleton, if_pos hRow, flatten_rowCells hRow]
  · rw [shown, List.flatMap_singleton, flatten_rowCells hRow]

theorem Place.shown_section (hRow : ¬n.isTag "tr") (hSection : sectionTags.any (n.isTag ·)) :
    Place.table.shown [n] = Place.group.shown (n.children?.getD []) := by
  rw [shown, rowsOf, List.flatMap_singleton, if_neg hRow, if_pos hSection]
  rfl

theorem Place.shown_table_of_not
    (h : ∀ n ∈ nodes, ¬n.isTag "tr" ∧ ¬sectionTags.any (n.isTag ·)) :
    Place.table.shown nodes = [] := by
  have hRows : rowsOf nodes = [] := by
    rw [rowsOf, List.flatMap_eq_nil_iff]
    intro n hn
    rw [if_neg (h n hn).1, if_neg (h n hn).2]
  rw [shown, hRows, List.flatten_nil]

theorem Place.shown_group_of_not (h : ∀ n ∈ nodes, ¬n.isTag "tr") :
    Place.group.shown nodes = [] := by
  have hRows : nodes.flatMap rowCells = [] := by
    rw [List.flatMap_eq_nil_iff]
    exact fun n hn => rowCells_of_not_row (h n hn)
  rw [shown, hRows, List.flatten_nil]

theorem Place.shown_text {content : String} (hTag : frame.tag = none)
    (hPlace : place = .table ∨ place = .group) : place.shown [.node frame (.text content)] = [] := by
  have hNot (name : String) : ¬(Node.node frame (.text content) : Node Source).isTag name := by
    rw [Node.isTag, Node.frame, hTag]
    exact Bool.false_ne_true
  rcases hPlace with rfl | rfl
  · refine shown_table_of_not (List.forall_mem_singleton.mpr ⟨hNot "tr", ?_⟩)
    rw [List.any_eq_true]
    rintro ⟨name, -, hName⟩
    exact hNot name hName
  · exact shown_group_of_not (List.forall_mem_singleton.mpr (hNot "tr"))

theorem Place.unlined_shown_text (place : Place) (hTag : frame.tag = none) (content : String) :
    Unlined (place.shown [.node frame (.text content)]) := by
  cases place with
  | flow => exact unlined_text frame content
  | row => exact unlined_text frame content
  | group =>
    rw [shown_text hTag (.inr rfl)]
    exact unlined_nil
  | table =>
    rw [shown_text hTag (.inl rfl)]
    exact unlined_nil

theorem Place.unlined_shown_children (place : Place) (frame : Frame) (nodes : List (Node Source)) :
    Unlined (place.shown
        ((Node.node frame (Body.ofChildren nodes).collapse).settle.children?.getD [])) ↔
      Unlined (place.shown nodes) := by
  rcases children_settle_collapse frame nodes with hSame | ⟨hNone, inner, content, hTag, rfl⟩
  · rw [hSame]
  · rw [hNone, shown_nil]
    exact iff_of_true unlined_nil (place.unlined_shown_text hTag content)

theorem asciiLower_of_mem_sectionTags : ∀ name ∈ sectionTags, Text.asciiLower name = name := by
  decide

theorem any_isTag_section_iff (hTag : n.frame.tag = some (Text.asciiUpper tag.name)) :
    sectionTags.any (n.isTag ·) ↔ tag.kind ∈ sectionTags := by
  rw [List.any_eq_true]
  constructor
  · rintro ⟨name, hName, hIs⟩
    rwa [(isTag_iff hTag (asciiLower_of_mem_sectionTags name hName)).mp hIs]
  · intro hSection
    have hLower := asciiLower_of_mem_sectionTags tag.kind hSection
    exact ⟨tag.kind, hSection, (isTag_iff hTag hLower).mpr rfl⟩

theorem Makes.of_other {children : List Markup} (h : Makes tag children nodes others)
    (hKind : Kind.of tag = .other) : ∃ frame, frame.tag = some (Text.asciiUpper tag.name) ∧
      others = [(Node.node frame (Body.ofChildren nodes).collapse).settle] := by
  cases h with
  | nothing h => rw [hKind] at h; simp at h
  | drawing h => rw [hKind] at h; cases h
  | assembled hTag hBody =>
    cases hBody with
    | children => exact ⟨_, hTag, rfl⟩
    | table form h => rw [hKind] at h; cases h
    | list marker h => rw [hKind] at h; cases h
    | picture style h => rw [hKind] at h; cases h
    | line segment h => rw [hKind] at h; cases h
    | lineBreak h => rw [hKind] at h; cases h

theorem Makes.shown_row (h : Makes tag children nodes others) (hRow : tag.kind = "tr")
    (hPlace : place = .table ∨ place = .group) : ∃ frame, place.shown others =
      (Node.node frame (Body.ofChildren nodes).collapse).settle.children?.getD [] := by
  have hKind : Kind.of tag = .other := by
    rw [Kind.of, hRow]
    rfl
  obtain ⟨frame, hTag, rfl⟩ := h.of_other hKind
  refine ⟨frame, Place.shown_row ((isTag_iff ?_ (by decide)).mpr hRow) hPlace⟩
  rw [frame_settle]
  exact hTag

/-- A section shows the rows among its children; a single text that it takes as its own is none. -/
theorem Makes.shown_section (h : Makes tag children nodes others) (hSection : tag.kind ∈ sectionTags) :
    Place.table.shown others = Place.group.shown nodes := by
  have hKind : Kind.of tag = .other ∧ tag.kind ≠ "tr" := by
    rw [Kind.of]
    simp only [sectionTags, List.mem_cons, List.not_mem_nil, or_false] at hSection
    rcases hSection with hName | hName | hName <;> rw [hName] <;> decide
  obtain ⟨frame, -, rfl⟩ := h.of_other hKind.1
  have hTag := h.frame_tag _ (List.mem_singleton_self _)
  have hRow : ¬(Node.node frame (Body.ofChildren nodes).collapse).settle.isTag "tr" :=
    fun hIs => hKind.2 ((isTag_iff hTag (by decide)).mp hIs)
  rw [Place.shown_section hRow ((any_isTag_section_iff hTag).mpr hSection)]
  rcases children_settle_collapse frame nodes with hSame | ⟨hNone, inner, content, hInner, rfl⟩
  · rw [hSame]
  · rw [hNone, Place.shown_nil, Place.shown_text hInner (.inr rfl)]

theorem Makes.shown_of_not (h : Makes tag children nodes others) (hRow : tag.kind ≠ "tr")
    (hPlace : place = .table ∧ tag.kind ∉ sectionTags ∨ place = .group) : place.shown others = [] := by
  have hOther (n : Node Source) (hn : n ∈ others) : ¬n.isTag "tr" :=
    fun hIs => hRow ((isTag_iff (h.frame_tag n hn) (by decide)).mp hIs)
  rcases hPlace with ⟨rfl, hSection⟩ | rfl
  · refine Place.shown_table_of_not fun n hn => ⟨hOther n hn, fun hAny => ?_⟩
    exact hSection ((any_isTag_section_iff (h.frame_tag n hn)).mp hAny)
  · exact Place.shown_group_of_not hOther

section Element

variable {limit depth : Nat} {children : List Markup}

/-- The children of an element are laid out as their markup tells. -/
structure Tells (limit depth : Nat) (children : List Markup) (nodes : List (Node Source)) : Prop where
  block : anyBlock nodes = blockAmong limit depth children
  line : nodes.any (·.body.isLine) = children.any (becomesLine limit depth)
  shown : ∀ place : Place,
    Unlined (place.shown nodes) ↔ straysAmong limit place depth children = false

theorem Tells.run_iff (h : Tells limit depth children nodes) :
    (anyBlock nodes ∨ ∀ m ∈ nodes, ¬m.body.isLine) ↔
      (children.any (becomesLine limit depth) && !blockAmong limit depth children) = false := by
  rw [← h.line, ← h.block, Bool.and_eq_false_iff, Bool.not_eq_false', or_comm]
  refine or_congr_left ?_
  rw [List.any_eq_false]

theorem Makes.unlined_flow (h : Makes tag children nodes others) (hDepth : depth ≤ limit)
    (hNodes : Tells limit (depth + 1) children nodes) :
    Unlined others ↔ strays limit .flow depth (.element tag children) = false := by
  rw [strays, decide_eq_true hDepth, Bool.true_and]
  cases h with
  | nothing h =>
    refine iff_of_true unlined_nil ?_
    rcases h with hKind | ⟨hKind, -⟩
    · rw [hKind]
    · rw [hKind]
  | drawing hKind =>
    rw [hKind]
    exact iff_of_true ((unlined_singleton_of_ne fun _ h => by cases h).mpr unlined_nil) rfl
  | assembled hTag hBody hKind =>
    cases hBody with
    | children hGathers =>
      have hFlow : Unlined nodes ↔ straysAmong limit .flow (depth + 1) children = false :=
        hNodes.shown .flow
      rw [unlined_settle_ofChildren, hNodes.run_iff, hFlow, ← Bool.or_eq_false_iff]
      rcases Kind.eq_of_gathers hGathers hKind with h | h | ⟨_, h⟩ | h | h <;> rw [h]
    | table form hKind =>
      rw [hKind]
      exact unlined_table_iff.trans (hNodes.shown .table)
    | list marker hKind =>
      rw [hKind]
      exact (unlined_singleton_of_ne fun _ h => by cases h).trans (hNodes.shown .flow)
    | picture style hKind =>
      rw [hKind]
      exact iff_of_true ((unlined_singleton_of_ne fun _ h => by cases h).mpr unlined_nil) rfl
    | line segment hKind =>
      rw [hKind]
      exact iff_of_true ((unlined_singleton_of_ne fun _ h => by cases h).mpr unlined_nil) rfl
    | lineBreak hKind =>
      rw [hKind]
      exact iff_of_true (unlined_text _ _) rfl

theorem strays_row : strays limit .row depth (.element tag children) =
    strays limit .flow depth (.element tag children) := by
  rw [strays, strays]

theorem Makes.unlined_row (h : Makes tag children nodes others) (hRow : tag.kind = "tr")
    (hNodes : Tells limit (depth + 1) children nodes) (hPlace : place = .table ∨ place = .group) :
    Unlined (place.shown others) ↔ straysAmong limit .row (depth + 1) children = false := by
  obtain ⟨frame, hShown⟩ := h.shown_row hRow hPlace
  rw [hShown, ← hNodes.shown]
  exact Place.unlined_shown_children .row frame nodes

theorem Makes.unlined_section (h : Makes tag children nodes others)
    (hSection : tag.kind ∈ sectionTags) (hNodes : Tells limit (depth + 1) children nodes) :
    Unlined (Place.table.shown others) ↔ straysAmong limit .group (depth + 1) children = false := by
  rw [h.shown_section hSection]
  exact hNodes.shown .group

theorem Makes.unlined_shown (h : Makes tag children nodes others) (hDepth : depth ≤ limit)
    (hNodes : Tells limit (depth + 1) children nodes) (place : Place) :
    Unlined (place.shown others) ↔ strays limit place depth (.element tag children) = false := by
  cases place with
  | flow => exact h.unlined_flow hDepth hNodes
  | row =>
    rw [strays_row]
    exact h.unlined_flow hDepth hNodes
  | table =>
    rw [strays, decide_eq_true hDepth, Bool.true_and]
    by_cases hRow : tag.kind = "tr"
    · rw [if_pos hRow]
      exact h.unlined_row hRow hNodes (.inl rfl)
    rw [if_neg hRow]
    by_cases hSection : tag.kind ∈ sectionTags
    · rw [List.contains_iff_mem.mpr hSection, Bool.true_and]
      exact h.unlined_section hSection hNodes
    · rw [Bool.eq_false_iff.mpr fun hContains => hSection (List.contains_iff_mem.mp hContains),
        Bool.false_and, h.shown_of_not hRow (.inl ⟨rfl, hSection⟩)]
      exact iff_of_true unlined_nil rfl
  | group =>
    rw [strays, decide_eq_true hDepth, Bool.true_and]
    by_cases hRow : tag.kind = "tr"
    · rw [decide_eq_true hRow, Bool.true_and]
      exact h.unlined_row hRow hNodes (.inr rfl)
    · rw [decide_eq_false hRow, Bool.false_and, h.shown_of_not hRow (.inr rfl)]
      exact iff_of_true unlined_nil rfl

end Element

end Shown

section Draft

variable (d : Design)

mutual

theorem Design.unlined_made (path : List Element) (depth : Nat) (m : Markup) (place : Place) :
    Unlined (place.shown (made (d.draft path depth m).1)) ↔
      strays d.maxDepth place depth m = false := by
  cases m with
  | text raw =>
    refine iff_of_true ?_ rfl
    rcases d.made_text raw with hEmpty | ⟨frame, content, hTag, hLeaf⟩
    · rw [hEmpty, Place.shown_nil]
      exact unlined_nil
    · rw [hLeaf]
      exact place.unlined_shown_text hTag content
  | element tag children =>
    by_cases hDepth : depth ≤ d.maxDepth
    · exact (d.makes_draft hDepth).unlined_shown hDepth
        (tells_draftAll (path ++ [⟨tag, children⟩]) tag (depth + 1) children) place
    · rw [d.made_deep hDepth, Place.shown_nil]
      refine iff_of_true unlined_nil ?_
      cases place <;> rw [strays, decide_eq_false hDepth, Bool.false_and]

theorem Design.tells_draftAll (path : List Element) (parent : Tag) (depth : Nat)
    (children : List Markup) :
    Tells d.maxDepth depth children (d.draftAll path parent depth children).1 := by
  refine ⟨d.anyBlock_draftAll path parent depth children,
    d.any_isLine_draftAll path parent depth children, fun place => ?_⟩
  cases children with
  | nil =>
    refine iff_of_true ?_ rfl
    rw [draftAll, Place.shown_nil]
    exact unlined_nil
  | cons child rest =>
    have hFirst := unlined_made path depth child place
    have hRest := (tells_draftAll path parent depth rest).shown place
    rw [draftAll_cons, Place.shown_append, unlined_append_iff, hFirst, hRest, straysAmong,
      Bool.or_eq_false_iff]

end

/-- Whether a run in the layout of a tree has a line in it. What the root gathers is the layout itself
and no run in it. -/
def straysLine (limit : Nat) (root : Element) : Bool :=
  match Kind.of root.tag with
  | .table | .list _ | .picture | .divider | .lineBreak | .drawing | .ignored => false
  | _ => straysAmong limit .flow 1 root.children

theorem Design.unlined_draftRoot_iff (root : Element) :
    Unlined (d.draftRoot root).1.members ↔ straysLine d.maxDepth root = false := by
  have hNodes := d.tells_draftAll [root] root.tag 1 root.children
  have hMakes : Makes root.tag root.children _ (made (d.draft [] 0 root.toMarkup).1) :=
    d.makes_draft (Nat.zero_le d.maxDepth)
  rw [draftRoot, members_rootContent, straysLine]
  generalize made (d.draft [] 0 root.toMarkup).1 = others at hMakes
  cases hMakes with
  | nothing h =>
    refine iff_of_true unlined_nil ?_
    rcases h with hKind | ⟨hKind, -⟩
    · rw [hKind]
    · rw [hKind]
  | drawing hKind =>
    rw [hKind]
    exact iff_of_true unlined_nil rfl
  | @assembled frame body hTag hBody hKind =>
    rw [List.flatMap_singleton]
    cases hBody with
    | children hGathers =>
      refine ((Place.unlined_shown_children .flow frame _).trans (hNodes.shown .flow)).trans ?_
      rcases Kind.eq_of_gathers hGathers hKind with h | h | ⟨_, h⟩ | h | h <;> rw [h]
    | table form hKind | list marker hKind | picture style hKind | line segment hKind
    | lineBreak hKind =>
      rw [hKind]
      exact iff_of_true unlined_nil rfl

end Draft

theorem Converter.unlined_convertMarkup_iff {c : Converter} {now : UInt64} {root : Element}
    {ledger : Ledger} {content : Content String} (h : (c.convertMarkup now root ledger).1 = .ok content) :
    Unlined content.members ↔ straysLine c.design.maxDepth root = false := by
  obtain ⟨answers, -, rfl⟩ := convertMarkup_eq_ok_iff.mp h
  rw [Content.members_mapPicture, unlined_mapPictures_iff, c.design.unlined_draftRoot_iff]

theorem Converter.isText_or_isLine_of_inRun {c : Converter} {now : UInt64} {root : Element}
    {ledger : Ledger} {content : Content String} (h : (c.convertMarkup now root ledger).1 = .ok content)
    {m : Node String} (hm : InRun m content.members) : m.body.isText ∨ m.body.isLine := by
  obtain ⟨answers, -, rfl⟩ := convertMarkup_eq_ok_iff.mp h
  rw [Content.members_mapPicture] at hm
  obtain ⟨source, hSource, rfl⟩ := inRun_mapPictures_iff.mp hm
  rw [isText_mapPicture, isLine_mapPicture]
  exact c.design.isText_or_isLine_of_inRun root source hSource

/-- A member of a run is a text or a dividing line, and all of them are texts if and only if the tree
lets no line stray into a run. -/
theorem Converter.convertMarkup_runs (c : Converter) (now : UInt64) (root : Element) (ledger : Ledger)
    (content : Content String) (h : (c.convertMarkup now root ledger).1 = .ok content) :
    (∀ m, InRun m content.members → m.body.isText ∨ m.body.isLine) ∧
      ((∀ m, InRun m content.members → m.body.isText) ↔
        straysLine c.design.maxDepth root = false) := by
  have hMembers := fun m hm => isText_or_isLine_of_inRun h (m := m) hm
  refine ⟨hMembers, ?_⟩
  rw [← unlined_convertMarkup_iff h]
  constructor
  · intro hText m hm hLine
    exact not_isLine_of_isText (hText m hm) hLine
  · intro hUnlined m hm
    exact (hMembers m hm).resolve_right (hUnlined m hm)

/-- A body with lines among blocks and in a row, and with runs that have none in them. -/
def ruledPage : Element where
  tag := { name := "body" }
  children :=
    [.text "x", .element { name := "hr" } [],
      .element { name := "div" }
        [.element { name := "p" } [.text "y ", .element { name := "b" } [.text "z"]],
          .element { name := "hr" } []],
      .element { name := "table" }
        [.element { name := "tr" }
          [.element { name := "hr" } [],
            .element { name := "td" } [.text "w", .element { name := "br" } []]]]]

theorem ruledPage_runs : straysLine tolerantConverter.design.maxDepth ruledPage = false ∧
    ∃ content, (tolerantConverter.convertMarkup 0 ruledPage {}).1 = .ok content ∧
      ∀ m, InRun m content.members → m.body.isText := by
  have hNone : straysLine tolerantConverter.design.maxDepth ruledPage = false := by decide +kernel
  obtain ⟨content, hContent⟩ := exists_ok_of_isOk
    (show (tolerantConverter.convertMarkup 0 ruledPage {}).1.isOk by decide +kernel)
  refine ⟨hNone, content, hContent, ?_⟩
  exact (tolerantConverter.convertMarkup_runs 0 ruledPage {} content hContent).2.mpr hNone

def ruledDivision : Element where
  tag := { name := "body" }
  children :=
    [.element { name := "div" } [.text "a", .element { name := "hr" } [], .text "b"]]

/-- The division becomes a run, and the line stands in it. -/
theorem ruledDivision_line_in_run : ∃ content,
    (tolerantConverter.convertMarkup 0 ruledDivision {}).1 = .ok content ∧
      ∃ m, InRun m content.members ∧ ¬m.body.isText := by
  obtain ⟨content, hContent⟩ := exists_ok_of_isOk
    (show (tolerantConverter.convertMarkup 0 ruledDivision {}).1.isOk by decide +kernel)
  have hStrays : straysLine tolerantConverter.design.maxDepth ruledDivision = true := by decide +kernel
  have hLined : ¬Unlined content.members := by
    rw [Converter.unlined_convertMarkup_iff hContent, hStrays]
    nofun
  refine ⟨content, hContent, Classical.byContradiction fun hNone => hLined fun m hm hLine => ?_⟩
  exact hNone ⟨m, hm, fun hText => not_isLine_of_isText hText hLine⟩

end MarkupLayout.Convert
