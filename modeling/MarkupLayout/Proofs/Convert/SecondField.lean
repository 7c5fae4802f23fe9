import MarkupLayout.Proofs.Convert.Frames
import MarkupLayout.Proofs.Convert.StrayLines

/-!
# A second content field

A node that takes the style of its path has a content field besides its own if a tag on the path declares
one. Which trees that happens for can be told from their tags and texts: a text that an element takes as
its own does not matter, and neither does what a table does not show.
-/

namespace MarkupLayout.Convert

open Layout Style

def declaresOther (path : List Tag) (field : String) : Bool :=
  contentFields.any fun key => key ≠ field && path.any (declares · key)

/-- The content field of an element; `depth` is that of its children. -/
def fieldOf (limit depth : Nat) (tag : Tag) (children : List Markup) : String :=
  match Kind.of tag with
  | .table => "table"
  | .list ordered => if ordered then "ol" else "ul"
  | .picture => "image"
  | .divider => "canvas"
  | .lineBreak => "text"
  | .drawing => "svg"
  | _ => if blockAmong limit depth children then "stack" else "text"

/-- Whether the node of an element has a second content field. -/
def doubled (limit : Nat) (path : List Tag) (depth : Nat) (tag : Tag) (children : List Markup) : Bool :=
  appears limit depth tag && takesStyle limit (depth + 1) tag children &&
    declaresOther (path ++ [tag]) (fieldOf limit (depth + 1) tag children)

namespace Design

variable (d : Design)

def stands (path : List Element) (depth : Nat) : Markup → Bool
  | .text raw => d.finalText path raw ≠ ""
  | .element tag _ => appears d.maxDepth depth tag

/-- Whether a single text is all that is made of some children, so that it is taken out of its node. -/
def loneText (path : List Element) (depth : Nat) (children : List Markup) : Bool :=
  match children.filter (d.stands path depth) with
  | [.text _] => true
  | _ => false

mutual

/-- Whether a node has a second content field among those that are shown of markup at a place. -/
def doubles (place : Place) (path : List Element) (depth : Nat) : Markup → Bool
  | .text raw =>
    (place = .flow || place = .row) && d.stands path depth (.text raw) && declaresOther (tags path) "text"
  | .element tag children =>
    let inner := path ++ [⟨tag, children⟩]
    depth ≤ d.maxDepth && match place with
      | .table =>
        if tag.kind = "tr" then
          !d.loneText inner (depth + 1) children && doublesAmong .row inner (depth + 1) children
        else sectionTags.contains tag.kind && doublesAmong .group inner (depth + 1) children
      | .group =>
        tag.kind = "tr" && !d.loneText inner (depth + 1) children &&
          doublesAmong .row inner (depth + 1) children
      | .flow | .row =>
        doubled d.maxDepth (tags path) depth tag children ||
          match Kind.of tag with
          | .table => doublesAmong .table inner (depth + 1) children
          | .picture | .divider | .lineBreak | .drawing | .ignored => false
          | _ => doublesAmong .flow inner (depth + 1) children

def doublesAmong (place : Place) (path : List Element) (depth : Nat) : List Markup → Bool
  | [] => false
  | child :: rest => doubles place path depth child || doublesAmong place path depth rest

end

/-- Whether a node in the layout of a tree has a second content field. -/
def doublesField (root : Element) : Bool :=
  match Kind.of root.tag with
  | .table | .list _ | .picture | .divider | .lineBreak | .drawing | .ignored => false
  | _ => !d.loneText [root] 1 root.children && d.doublesAmong .flow [root] 1 root.children

end Design

section Node

variable {n : Node Source}

theorem undoubled_iff_of_style {path : List Tag} (takes : Bool)
    (hStyle : ∀ key ∈ contentFields, n.frame.style.get? key = none ↔
      (takes → ∀ tag ∈ path, declares tag key = false)) :
    n.Undoubled ↔ (takes && declaresOther path n.body.field) = false := by
  cases takes with
  | false =>
    refine iff_of_true (fun key hKey _ => ?_) rfl
    exact (hStyle key hKey).mpr nofun
  | true =>
    rw [Bool.true_and, declaresOther, List.any_eq_false]
    refine forall₂_congr fun key hKey => ?_
    rw [hStyle key hKey]
    simp

variable (d : Design) (hStyles : d.styles = .standard) {path : List Element} {depth : Nat}

theorem Design.made_text_eq (raw : String) : made (d.draft path depth (.text raw)).1 =
    if d.stands path depth (.text raw) then
      [.node
        { style := cascade d.styles .inherited (tags path) ∅
          classes := nonempty? (classesAlong (tags path)) }
        (.text (d.finalText path raw))]
    else [] := by
  rw [draft, textLeaf?, stands]
  by_cases hEmpty : d.finalText path raw = ""
  · simp [hEmpty, made]
  · simp [hEmpty, made, Node.settle]

include hStyles in
theorem Design.undoubled_text_iff {frame : Frame} (content : String)
    (hFrame : frame.style = cascade d.styles .inherited (tags path) ∅) :
    (Node.node frame (.text content) : Node Source).Undoubled ↔
      declaresOther (tags path) "text" = false := by
  refine undoubled_iff_of_style true fun key hKey => ?_
  show frame.style.get? key = none ↔ _
  rw [hFrame, hStyles, get?_cascade_eq_none_iff hKey, and_iff_right (SortedMap.get?_empty key)]
  exact ⟨fun h _ => h, fun h => h rfl⟩

section Element

variable {tag : Tag} {children : List Markup} {nodes : List (Node Source)}

theorem Assembled.field {body : Body Source} {limit : Nat} (h : Assembled tag nodes body)
    (hKinds : Kind.of tag ≠ .ignored ∧ Kind.of tag ≠ .drawing)
    (hBlock : anyBlock nodes = blockAmong limit depth children) :
    body.field = fieldOf limit depth tag children := by
  rw [fieldOf]
  cases h with
  | children hGathers =>
    rw [Body.field_collapse, Body.field_ofChildren, hBlock]
    rcases Kind.eq_of_gathers hGathers hKinds with h | h | ⟨_, h⟩ | h | h <;> rw [h]
  | table form hKind => rw [hKind]; rfl
  | list marker hKind => rw [hKind]; rfl
  | picture style hKind => rw [hKind]; rfl
  | line segment hKind => rw [hKind]; rfl
  | lineBreak hKind => rw [hKind]; rfl

include hStyles in
theorem Design.undoubled_element_iff (hDepth : depth ≤ d.maxDepth)
    (hn : n ∈ made (d.draft path depth (.element tag children)).1) :
    n.Undoubled ↔ doubled d.maxDepth (tags path) depth tag children = false := by
  have hBlock := d.anyBlock_draftAll (path ++ [⟨tag, children⟩]) tag (depth + 1) children
  rw [doubled]
  rcases d.mem_made hn with ⟨hKind, rfl⟩ | ⟨hKinds, m, rfl, hMade⟩
  · have hTakes : takesStyle d.maxDepth (depth + 1) tag children = false := by rw [takesStyle, hKind]
    rw [hTakes, Bool.and_false]
    exact iff_of_true (fun _ _ _ => rfl) rfl
  · have hBody := (d.assembled_of_assemble hMade).2
    rw [hBody.appears hDepth hKinds.1, Bool.true_and, ← hBody.field hKinds hBlock, ← Node.field_settle]
    refine undoubled_iff_of_style _ fun key hKey => ?_
    rw [frame_settle]
    exact d.get?_style_of_assemble hStyles hKey hBlock hKinds hMade

end Element

end Node

section Lone

variable (d : Design) {path : List Element} {depth : Nat} {m : Markup} {n : Node Source}

theorem Makes.eq_nil_or_singleton {tag : Tag} {children : List Markup} {nodes others : List (Node Source)}
    {limit : Nat} (h : Makes tag children nodes others) (hDepth : depth ≤ limit) :
    appears limit depth tag = false ∧ others = [] ∨ appears limit depth tag ∧ ∃ n, others = [n] := by
  cases h with
  | nothing h => exact .inl ⟨appears_eq_false h, rfl⟩
  | drawing hKind => exact .inr ⟨by simp [appears, hKind, hDepth], _, rfl⟩
  | assembled hTag hBody hKind => exact .inr ⟨hBody.appears hDepth hKind.1, _, rfl⟩

theorem Design.made_element (path : List Element) (depth : Nat) (tag : Tag) (children : List Markup) :
    appears d.maxDepth depth tag = false ∧ made (d.draft path depth (.element tag children)).1 = [] ∨
      appears d.maxDepth depth tag ∧ ∃ n, n.frame.tag.isSome ∧
        made (d.draft path depth (.element tag children)).1 = [n] := by
  by_cases hDepth : depth ≤ d.maxDepth
  · have hMakes : Makes tag children _ (made (d.draft path depth (.element tag children)).1) :=
      d.makes_draft hDepth
    rcases hMakes.eq_nil_or_singleton hDepth with hNone | ⟨hAppears, n, hOne⟩
    · exact .inl hNone
    · have hTag := hMakes.frame_tag n (by rw [hOne]; exact List.mem_singleton_self n)
      exact .inr ⟨hAppears, n, by rw [hTag]; rfl, hOne⟩
  · refine .inl ⟨?_, d.made_deep hDepth⟩
    rw [appears, decide_eq_false hDepth]
    rfl

theorem Design.made_of_not_stands (h : d.stands path depth m = false) :
    made (d.draft path depth m).1 = [] := by
  cases m with
  | text raw => rw [d.made_text_eq, h]; rfl
  | element tag children =>
    rcases d.made_element path depth tag children with ⟨-, hNone⟩ | ⟨hAppears, -⟩
    · exact hNone
    · cases hAppears.symm.trans h

theorem Design.length_made_of_stands (h : d.stands path depth m) :
    (made (d.draft path depth m).1).length = 1 := by
  cases m with
  | text raw => rw [d.made_text_eq, if_pos h]; rfl
  | element tag children =>
    rcases d.made_element path depth tag children with ⟨hNone, -⟩ | ⟨-, n, -, hOne⟩
    · cases hNone.symm.trans h
    · rw [hOne]; rfl

theorem Design.draftAll_eq_flatMap (path : List Element) (parent : Tag) (depth : Nat)
    (children : List Markup) : (d.draftAll path parent depth children).1 =
      (children.filter (d.stands path depth)).flatMap fun child => made (d.draft path depth child).1 := by
  induction children with
  | nil => rfl
  | cons child rest ih =>
    rw [draftAll_cons, ih]
    cases hStands : d.stands path depth child with
    | true => rw [List.filter_cons_of_pos hStands, List.flatMap_cons]
    | false =>
      rw [List.filter_cons_of_neg (Bool.eq_false_iff.mp hStands), d.made_of_not_stands hStands,
        List.nil_append]

theorem Design.eq_text_of_flatMap_made {standing : List Markup} {inner : Frame} {content : String}
    (hStands : ∀ child ∈ standing, d.stands path depth child = true)
    (hText : (standing.flatMap fun child => made (d.draft path depth child).1) =
      [.node inner (.text content)]) (hTag : inner.tag = none) :
    ∃ raw, standing = [.text raw] := by
  cases standing with
  | nil => cases hText
  | cons first rest =>
    cases rest with
    | nil =>
      cases first with
      | text raw => exact ⟨raw, rfl⟩
      | element tag others =>
        rw [List.flatMap_singleton] at hText
        rcases d.made_element path depth tag others with ⟨-, hNone⟩ | ⟨-, n, hSome, hOne⟩
        · cases hNone.symm.trans hText
        · obtain rfl := List.head_eq_of_cons_eq (hOne.symm.trans hText)
          rw [Node.frame, hTag] at hSome
          cases hSome
    | cons second rest =>
      have hFirst := d.length_made_of_stands (hStands first (List.mem_cons_self ..))
      have hSecond := d.length_made_of_stands (hStands second (by simp))
      have hLength := congrArg List.length hText
      rw [List.flatMap_cons, List.flatMap_cons, List.length_append, List.length_append, hFirst, hSecond,
        List.length_singleton] at hLength
      omega

/-- A single text is taken out of the node that gathers it, and other children stay in it. -/
theorem Design.children_gathered (path : List Element) (parent : Tag) (depth : Nat) (children : List Markup)
    (frame : Frame) :
    (Node.node frame (Body.ofChildren
        (d.draftAll path parent depth children).1).collapse).settle.children?.getD [] =
      if d.loneText path depth children then [] else (d.draftAll path parent depth children).1 := by
  have hStands : ∀ child ∈ children.filter (d.stands path depth), d.stands path depth child :=
    fun child hChild => List.of_mem_filter hChild
  have hStay (hLone : ∀ inner content, inner.tag = none →
      (d.draftAll path parent depth children).1 ≠ [.node inner (.text content)]) :
      (Node.node frame (Body.ofChildren
        (d.draftAll path parent depth children).1).collapse).settle.children?.getD [] =
          (d.draftAll path parent depth children).1 := by
    rcases children_settle_collapse frame (d.draftAll path parent depth children).1 with
      hSame | ⟨-, inner, content, hTag, hText⟩
    · exact hSame
    · exact absurd hText (hLone inner content hTag)
  rw [loneText]
  have hNodes := d.draftAll_eq_flatMap path parent depth children
  generalize children.filter (d.stands path depth) = standing at hStands hNodes
  split
  · next raw =>
    have hText : d.stands path depth (.text raw) := hStands _ (List.mem_singleton_self _)
    have hContent : d.finalText path raw ≠ "" := by simpa [stands] using hText
    rw [hNodes, List.flatMap_singleton, d.made_text_eq, if_pos hText]
    simp [Body.ofChildren, anyBlock, Node.isBlock, Body.isBlock, Body.collapse, hContent, Node.settle,
      Node.children?, Node.body]
  · next hNot =>
    apply hStay
    intro inner content hTag hText
    rw [hNodes] at hText
    obtain ⟨raw, rfl⟩ := d.eq_text_of_flatMap_made hStands hText hTag
    exact hNot raw rfl

end Lone

section Shown

variable (d : Design) (hStyles : d.styles = .standard) {path : List Element} {depth : Nat} {place : Place}
  {tag : Tag} {children : List Markup} {nodes others : List (Node Source)}

theorem doubled_of_gathers {limit : Nat} {path : List Tag} (hGathers : (Kind.of tag).gathers)
    (hKinds : Kind.of tag ≠ .ignored ∧ Kind.of tag ≠ .drawing) (hAppears : appears limit depth tag)
    (hSome : children ≠ []) (hBlock : blockAmong limit (depth + 1) children = false) :
    doubled limit path depth tag children = declaresOther (path ++ [tag]) "text" := by
  have hEmpty : children.isEmpty = false := List.isEmpty_eq_false_iff.mpr hSome
  rw [doubled, hAppears, takesStyle, fieldOf, hBlock, hEmpty]
  rcases Kind.eq_of_gathers hGathers hKinds with h | h | ⟨_, h⟩ | h | h <;> rw [h] <;> rfl

include hStyles in
theorem Design.undoubled_untagged (parent : Tag) {n : Node Source}
    (hn : n ∈ (d.draftAll path parent depth children).1) (hTag : n.frame.tag = none) :
    n.Undoubled ↔ declaresOther (tags path) "text" = false := by
  rw [d.draftAll_eq_flatMap] at hn
  obtain ⟨child, hChild, hn⟩ := List.mem_flatMap.mp hn
  cases child with
  | text raw =>
    rw [d.made_text_eq, if_pos (List.of_mem_filter hChild)] at hn
    rw [List.mem_singleton.mp hn]
    exact d.undoubled_text_iff hStyles _ rfl
  | element inner others =>
    rcases d.made_element path depth inner others with ⟨-, hNone⟩ | ⟨-, m, hSome, hOne⟩
    · rw [hNone] at hn
      cases hn
    · rw [hOne] at hn
      rw [← List.mem_singleton.mp hn, hTag] at hSome
      cases hSome

include hStyles in
theorem Design.throughout_members_gathered (hGathers : (Kind.of tag).gathers)
    (hKinds : Kind.of tag ≠ .ignored ∧ Kind.of tag ≠ .drawing) (hAppears : appears d.maxDepth depth tag)
    (hOwn : doubled d.maxDepth (tags path) depth tag children = false) :
    Throughout Node.Undoubled (Body.ofChildren
        (d.draftAll (path ++ [⟨tag, children⟩]) tag (depth + 1) children).1).collapse.members ↔
      Throughout Node.Undoubled (d.draftAll (path ++ [⟨tag, children⟩]) tag (depth + 1) children).1 := by
  have hBlock := d.anyBlock_draftAll (path ++ [⟨tag, children⟩]) tag (depth + 1) children
  have hText {n : Node Source}
      (hn : n ∈ (d.draftAll (path ++ [⟨tag, children⟩]) tag (depth + 1) children).1)
      (hTag : n.frame.tag = none) := d.undoubled_untagged hStyles tag hn hTag
  have hSome (hNodes : (d.draftAll (path ++ [⟨tag, children⟩]) tag (depth + 1) children).1 ≠ []) :
      children ≠ [] :=
    fun hNone => hNodes (by rw [hNone, draftAll])
  generalize (d.draftAll (path ++ [⟨tag, children⟩]) tag (depth + 1) children).1 = nodes
    at hBlock hText hSome
  rcases collapse_ofChildren_eq_or nodes with hBody | ⟨inner, content, hTag, rfl, hBody⟩
  · rw [hBody, members_ofChildren]
  · have hInline : anyBlock [(Node.node inner (.text content) : Node Source)] = false := by
      rw [anyBlock, Node.isBlock, hTag]
      rfl
    rw [doubled_of_gathers hGathers hKinds hAppears (hSome (List.cons_ne_nil _ _))
      (hBlock.symm.trans hInline), ← tags_concat path ⟨tag, children⟩] at hOwn
    rw [hBody]
    refine iff_of_true throughout_nil (throughout_singleton_iff.mpr ⟨?_, throughout_nil⟩)
    exact (hText (List.mem_singleton_self _) hTag).mpr hOwn

section Element

variable (hShown : ∀ place : Place,
  Throughout Node.Undoubled
      (place.shown (d.draftAll (path ++ [⟨tag, children⟩]) tag (depth + 1) children).1) ↔
    d.doublesAmong place (path ++ [⟨tag, children⟩]) (depth + 1) children = false)

include hStyles hShown in
theorem Design.undoubled_flow (hDepth : depth ≤ d.maxDepth) :
    Throughout Node.Undoubled (made (d.draft path depth (.element tag children)).1) ↔
      d.doubles .flow path depth (.element tag children) = false := by
  have hMakes : Makes tag children (d.draftAll (path ++ [⟨tag, children⟩]) tag (depth + 1) children).1
      (made (d.draft path depth (.element tag children)).1) := d.makes_draft hDepth
  have hOwn {n : Node Source} (hn : n ∈ made (d.draft path depth (.element tag children)).1) :=
    d.undoubled_element_iff hStyles hDepth hn
  have hAppears := d.made_element path depth tag children
  generalize made (d.draft path depth (.element tag children)).1 = others at hMakes hOwn hAppears
  rw [doubles, decide_eq_true hDepth, Bool.true_and, Bool.or_eq_false_iff]
  cases hMakes with
  | nothing h =>
    rcases hAppears with ⟨hNone, -⟩ | ⟨-, n, -, hOne⟩
    · refine iff_of_true throughout_nil ⟨by rw [doubled, hNone]; rfl, ?_⟩
      rcases h with hKind | ⟨hKind, -⟩ <;> rw [hKind]
    · cases hOne
  | drawing hKind =>
    rw [throughout_singleton_iff, hOwn (List.mem_singleton_self _), hKind]
    exact and_congr_right fun _ => iff_of_true throughout_nil rfl
  | assembled hTag hBody hKind =>
    rw [throughout_singleton_iff, hOwn (List.mem_singleton_self _), members_settle]
    refine and_congr_right fun hDoubled => ?_
    cases hBody with
    | children hGathers =>
      rcases hAppears with ⟨-, hNone⟩ | ⟨hAppears, -⟩
      · cases hNone
      refine (d.throughout_members_gathered hStyles hGathers hKind hAppears hDoubled).trans
        ((hShown .flow).trans ?_)
      rcases Kind.eq_of_gathers hGathers hKind with h | h | ⟨_, h⟩ | h | h <;> rw [h]
    | table form hKind =>
      rw [hKind]
      exact (throughout_grid_iff fun _ _ _ => rfl).trans (hShown .table)
    | list marker hKind =>
      rw [hKind]
      exact hShown .flow
    | picture style hKind | line segment hKind | lineBreak hKind =>
      rw [hKind]
      exact iff_of_true throughout_nil rfl

theorem Design.doubles_row (m : Markup) : d.doubles .row path depth m = d.doubles .flow path depth m := by
  cases m with
  | text raw => rw [doubles, doubles]; rfl
  | element tag children => rw [doubles, doubles]

include hShown in
theorem Design.undoubled_row (hDepth : depth ≤ d.maxDepth) (hRow : tag.kind = "tr")
    (hPlace : place = .table ∨ place = .group) :
    Throughout Node.Undoubled (place.shown (made (d.draft path depth (.element tag children)).1)) ↔
      (!d.loneText (path ++ [⟨tag, children⟩]) (depth + 1) children &&
        d.doublesAmong .row (path ++ [⟨tag, children⟩]) (depth + 1) children) = false := by
  obtain ⟨frame, hRows⟩ := (d.makes_draft hDepth).shown_row hRow hPlace
  rw [hRows, d.children_gathered]
  cases d.loneText (path ++ [⟨tag, children⟩]) (depth + 1) children with
  | true => exact iff_of_true throughout_nil rfl
  | false => exact hShown .row

include hStyles hShown in
theorem Design.undoubled_shown (hDepth : depth ≤ d.maxDepth) (place : Place) :
    Throughout Node.Undoubled (place.shown (made (d.draft path depth (.element tag children)).1)) ↔
      d.doubles place path depth (.element tag children) = false := by
  have hMakes : Makes tag children (d.draftAll (path ++ [⟨tag, children⟩]) tag (depth + 1) children).1
      (made (d.draft path depth (.element tag children)).1) := d.makes_draft hDepth
  cases place with
  | flow => exact d.undoubled_flow hStyles hShown hDepth
  | row =>
    rw [doubles_row]
    exact d.undoubled_flow hStyles hShown hDepth
  | table =>
    rw [doubles, decide_eq_true hDepth, Bool.true_and]
    by_cases hRow : tag.kind = "tr"
    · rw [if_pos hRow]
      exact d.undoubled_row hShown hDepth hRow (.inl rfl)
    rw [if_neg hRow]
    by_cases hSection : tag.kind ∈ sectionTags
    · rw [List.contains_iff_mem.mpr hSection, Bool.true_and, hMakes.shown_section hSection]
      exact hShown .group
    · rw [Bool.eq_false_iff.mpr fun hContains => hSection (List.contains_iff_mem.mp hContains),
        Bool.false_and, hMakes.shown_of_not hRow (.inl ⟨rfl, hSection⟩)]
      exact iff_of_true throughout_nil rfl
  | group =>
    rw [doubles, decide_eq_true hDepth, Bool.true_and, Bool.and_assoc]
    by_cases hRow : tag.kind = "tr"
    · rw [decide_eq_true hRow, Bool.true_and]
      exact d.undoubled_row hShown hDepth hRow (.inr rfl)
    · rw [decide_eq_false hRow, Bool.false_and, hMakes.shown_of_not hRow (.inr rfl)]
      exact iff_of_true throughout_nil rfl

end Element

include hStyles in
theorem Design.undoubled_text (path : List Element) (depth : Nat) (raw : String) (place : Place) :
    Throughout Node.Undoubled (place.shown (made (d.draft path depth (.text raw)).1)) ↔
      d.doubles place path depth (.text raw) = false := by
  rw [d.made_text_eq, doubles]
  cases d.stands path depth (.text raw) with
  | false =>
    rw [if_neg Bool.false_ne_true, Place.shown_nil, Bool.and_false]
    exact iff_of_true throughout_nil rfl
  | true =>
    rw [if_pos rfl]
    cases place with
    | table | group =>
      rw [Place.shown_text rfl (by simp)]
      exact iff_of_true throughout_nil rfl
    | flow | row =>
      refine throughout_singleton_iff.trans ((and_iff_left throughout_nil).trans ?_)
      exact d.undoubled_text_iff hStyles _ rfl

mutual

theorem Design.undoubled_made (hStyles : d.styles = .standard) (path : List Element) (depth : Nat)
    (m : Markup) (place : Place) : Throughout Node.Undoubled (place.shown (made (d.draft path depth m).1)) ↔
      d.doubles place path depth m = false := by
  cases m with
  | text raw => exact d.undoubled_text hStyles path depth raw place
  | element tag children =>
    by_cases hDepth : depth ≤ d.maxDepth
    · exact d.undoubled_shown hStyles
        (undoubled_draftAll hStyles (path ++ [⟨tag, children⟩]) tag (depth + 1) children) hDepth place
    · rw [d.made_deep hDepth, Place.shown_nil]
      refine iff_of_true throughout_nil ?_
      cases place <;> rw [doubles, decide_eq_false hDepth, Bool.false_and]

theorem Design.undoubled_draftAll (hStyles : d.styles = .standard) (path : List Element) (parent : Tag)
    (depth : Nat) (children : List Markup) (place : Place) :
    Throughout Node.Undoubled (place.shown (d.draftAll path parent depth children).1) ↔
      d.doublesAmong place path depth children = false := by
  cases children with
  | nil =>
    rw [draftAll, Place.shown_nil]
    exact iff_of_true throughout_nil rfl
  | cons child rest =>
    have hFirst := undoubled_made hStyles path depth child place
    have hRest := undoubled_draftAll hStyles path parent depth rest place
    rw [draftAll_cons, Place.shown_append, throughout_append_iff, hFirst, hRest, doublesAmong,
      Bool.or_eq_false_iff]

end

include hStyles in
theorem Design.undoubled_draftRoot_iff (root : Element) :
    Throughout Node.Undoubled (d.draftRoot root).1.members ↔ d.doublesField root = false := by
  have hGathered := d.children_gathered [root] root.tag 1 root.children
  have hFlow := d.undoubled_draftAll hStyles [root] root.tag 1 root.children .flow
  have hMakes : Makes root.tag root.children _ (made (d.draft [] 0 root.toMarkup).1) :=
    d.makes_draft (Nat.zero_le d.maxDepth)
  rw [draftRoot, members_rootContent, doublesField]
  generalize made (d.draft [] 0 root.toMarkup).1 = others at hMakes
  cases hMakes with
  | nothing h =>
    refine iff_of_true throughout_nil ?_
    rcases h with hKind | ⟨hKind, -⟩ <;> rw [hKind]
  | drawing hKind =>
    rw [hKind]
    exact iff_of_true throughout_nil rfl
  | @assembled frame body hTag hBody hKind =>
    rw [List.flatMap_singleton]
    cases hBody with
    | children hGathers =>
      have hShown : Throughout Node.Undoubled ((Node.node frame (Body.ofChildren
            (d.draftAll [root] root.tag 1 root.children).1).collapse).settle.children?.getD []) ↔
          (!d.loneText [root] 1 root.children && d.doublesAmong .flow [root] 1 root.children) = false := by
        rw [hGathered]
        cases d.loneText [root] 1 root.children with
        | true => exact iff_of_true throughout_nil rfl
        | false => exact hFlow
      refine hShown.trans ?_
      rcases Kind.eq_of_gathers hGathers hKind with h | h | ⟨_, h⟩ | h | h <;> rw [h]
    | table form hKind | list marker hKind | picture style hKind | line segment hKind
    | lineBreak hKind =>
      rw [hKind]
      exact iff_of_true throughout_nil rfl

end Shown

/-- No tag declares a content field. -/
def Undeclaring (path : List Tag) : Prop :=
  ∀ tag ∈ path, ∀ key ∈ contentFields, declares tag key = false

section Undeclaring

variable (d : Design)

theorem declaresOther_of_undeclaring {path : List Tag} (hPath : Undeclaring path) (field : String) :
    declaresOther path field = false := by
  rw [declaresOther, List.any_eq_false]
  intro key hKey
  have hNone : path.any (declares · key) = false := by
    rw [List.any_eq_false]
    exact fun tag hTag => Bool.eq_false_iff.mp (hPath tag hTag key hKey)
  rw [hNone, Bool.and_false]
  exact Bool.false_ne_true

theorem doubled_of_undeclaring {limit depth : Nat} {path : List Tag} {tag : Tag} {children : List Markup}
    (hPath : Undeclaring (path ++ [tag])) : doubled limit path depth tag children = false := by
  rw [doubled, declaresOther_of_undeclaring hPath, Bool.and_false]

mutual

theorem Design.doubles_of_undeclaring (place : Place) (path : List Element) (depth : Nat) (m : Markup)
    (hPath : Undeclaring (tags path)) (hTags : Undeclaring (tagsOf m)) :
    d.doubles place path depth m = false := by
  cases m with
  | text raw => rw [doubles, declaresOther_of_undeclaring hPath, Bool.and_false]
  | element tag children =>
    obtain ⟨hTag, hChildren⟩ := List.forall_mem_cons.mp hTags
    have hInner : Undeclaring (tags path ++ [tag]) :=
      List.forall_mem_append.mpr ⟨hPath, List.forall_mem_singleton.mpr hTag⟩
    have hAmong (inside : Place) := doublesAmong_of_undeclaring inside (path ++ [⟨tag, children⟩])
      (depth + 1) children (by rwa [tags_concat]) hChildren
    cases place with
    | table | group => simp [doubles, hAmong]
    | flow | row =>
      rw [doubles, doubled_of_undeclaring hInner, hAmong, hAmong]
      cases Kind.of tag <;> exact Bool.and_false _

theorem Design.doublesAmong_of_undeclaring (place : Place) (path : List Element) (depth : Nat)
    (children : List Markup) (hPath : Undeclaring (tags path)) (hTags : Undeclaring (tagsAmong children)) :
    d.doublesAmong place path depth children = false := by
  cases children with
  | nil => rfl
  | cons child rest =>
    obtain ⟨hChild, hRest⟩ := List.forall_mem_append.mp hTags
    rw [doublesAmong, doubles_of_undeclaring place path depth child hPath hChild,
      doublesAmong_of_undeclaring place path depth rest hPath hRest]
    rfl

end

theorem Design.doublesField_of_undeclaring {root : Element} (hTags : Undeclaring (tagsOf root.toMarkup)) :
    d.doublesField root = false := by
  obtain ⟨hRoot, hChildren⟩ := List.forall_mem_cons.mp hTags
  rw [doublesField, d.doublesAmong_of_undeclaring .flow [root] 1 root.children
    (List.forall_mem_singleton.mpr hRoot) hChildren, Bool.and_false]
  cases Kind.of root.tag <;> rfl

end Undeclaring

/-- Without annotations and under the standard styles, every node has the content field of its body. It
is the only one throughout a layout exactly if the tree doubles no field, and so if none is declared. -/
theorem Converter.convertMarkup_fields (c : Converter) (hStyles : c.design.styles = .standard)
    (now : UInt64) (root : Element)
    (hNotes : ∀ tag ∈ tagsOf root.toMarkup, tag.attr? annotationAttr = none) (ledger : Ledger)
    (content : Content String) (h : (c.convertMarkup now root ledger).1 = .ok content) :
    (∀ n, Occurs n content.members → n.body.field ∈ n.fields) ∧
      ((∀ n, Occurs n content.members → n.fields = [n.body.field]) ↔
        c.design.doublesField root = false) ∧
      (Undeclaring (tagsOf root.toMarkup) →
        ∀ n, Occurs n content.members → n.fields = [n.body.field]) := by
  obtain ⟨answers, -, rfl⟩ := convertMarkup_eq_ok_iff.mp h
  rw [Content.members_mapPicture]
  have hOverrides : Throughout (fun n : Node String => n.frame.overrides = ∅)
      (mapPictures (pictureText answers) (c.design.draftRoot root).1.members) := by
    refine (throughout_mapPictures_iff _ fun n => ?_).mpr (c.design.unannotated_draftRoot hNotes)
    rw [Node.frame_mapPicture]
  have hFields : Throughout (fun n : Node String => n.fields = [n.body.field])
      (mapPictures (pictureText answers) (c.design.draftRoot root).1.members) ↔
        c.design.doublesField root = false := by
    rw [← c.design.undoubled_draftRoot_iff hStyles,
      ← throughout_mapPictures_iff (pictureText answers) (Node.undoubled_mapPicture _)]
    exact forall₂_congr fun n hn => Node.fields_eq_iff (hOverrides n hn)
  refine ⟨fun n hn => ?_, hFields, fun hNone => ?_⟩
  · rw [Node.fields, List.mem_filter, n.has_toJson (hOverrides n hn) n.body.field_mem, decide_eq_true rfl,
      Bool.or_true]
    exact ⟨n.body.field_mem, rfl⟩
  · exact hFields.mpr (c.design.doublesField_of_undeclaring hNone)

/-- Content fields declared where they do no harm: for a text by its own field, for a cell that holds an
empty paragraph, and for a stack that leaves its style to its blocks. -/
def namedFields : Element where
  tag := { name := "body" }
  children :=
    [.element { name := "div", attrs := .ofList [("style", "TEXT: none; padding: 1px")] } [.text "a"],
      .element { name := "table" }
        [.element { name := "tr" }
          [.element { name := "td", attrs := .ofList [("style", "stack: up; color: red")] }
            [.element { name := "p" } []]]],
      .element { name := "div", attrs := .ofList [("style", "image: 3px")] }
        [.element { name := "h1" } []]]

/-- In spite of the declarations no field is doubled, and each child of the body has its node. -/
theorem namedFields_single :
    (∀ tag ∈ tagsOf namedFields.toMarkup, tag.attr? annotationAttr = none) ∧
    ¬Undeclaring (tagsOf namedFields.toMarkup) ∧
    plainConverter.design.doublesField namedFields = false ∧
    ∃ content, (plainConverter.convertMarkup 0 namedFields {}).1 = .ok content ∧
      content.members.length = 3 ∧ ∀ n, Occurs n content.members → n.fields = [n.body.field] := by
  have hNotes : ∀ tag ∈ tagsOf namedFields.toMarkup, tag.attr? annotationAttr = none := by
    decide +kernel
  have hDeclares : ¬Undeclaring (tagsOf namedFields.toMarkup) := by
    intro hNone
    have hText := hNone _ (List.mem_cons_of_mem _ (List.mem_cons_self ..)) "text" (by decide)
    exact absurd hText (by decide +kernel)
  have hSingle : plainConverter.design.doublesField namedFields = false := by decide +kernel
  have hLength : (plainConverter.convertMarkup 0 namedFields {}).1.toOption.map
      (·.members.length) = some 3 := by decide +kernel
  cases hContent : (plainConverter.convertMarkup 0 namedFields {}).1 with
  | error failure =>
    rw [hContent] at hLength
    cases hLength
  | ok content =>
    rw [hContent] at hLength
    have hFields := plainConverter.convertMarkup_fields rfl 0 namedFields hNotes {} content hContent
    exact ⟨hNotes, hDeclares, hSingle, content, rfl, Option.some.inj hLength, hFields.2.1.mpr hSingle⟩

def stackedDivision : Element where
  tag := { name := "body" }
  children :=
    [.element { name := "div", attrs := .ofList [("style", "stack: none")] } [.text "a"]]

/-- The node of the division holds a text, and has a stack besides it. -/
theorem stackedDivision_doubles :
    (∀ tag ∈ tagsOf stackedDivision.toMarkup, tag.attr? annotationAttr = none) ∧
    plainConverter.design.styles = .standard ∧
    ∃ content, (plainConverter.convertMarkup 0 stackedDivision {}).1 = .ok content ∧
      ∃ n, Occurs n content.members ∧ n.body.field = "text" ∧ n.fields = ["text", "stack"] := by
  have hNotes : ∀ tag ∈ tagsOf stackedDivision.toMarkup, tag.attr? annotationAttr = none := by
    decide +kernel
  have hFields : ((plainConverter.convertMarkup 0 stackedDivision {}).1.toOption.map fun content =>
      content.members.map fun n => (n.body.field, n.fields)) = some [("text", ["text", "stack"])] := by
    decide +kernel
  cases hContent : (plainConverter.convertMarkup 0 stackedDivision {}).1 with
  | error failure =>
    rw [hContent] at hFields
    cases hFields
  | ok content =>
    rw [hContent] at hFields
    obtain ⟨n, hn, hBoth⟩ := List.mem_map.mp
      ((Option.some.inj hFields).symm ▸ List.mem_singleton_self _)
    exact ⟨hNotes, rfl, content, rfl, n, .here hn, congrArg Prod.fst hBoth, congrArg Prod.snd hBoth⟩

end MarkupLayout.Convert
