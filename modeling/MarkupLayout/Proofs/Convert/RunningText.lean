import MarkupLayout.Convert.Conversion
import MarkupLayout.Proofs.Convert.Drafted
import MarkupLayout.Proofs.Convert.Tidy
import MarkupLayout.Proofs.Layout.Words

/-!
# Running text

The conversion of a tidy body keeps all its words in order. What an element contributes is carried
from its children to itself by the place where it stands: inside a table a row must be found by its
tag, and a group of rows must not shrink to a text.
-/

namespace MarkupLayout.Convert

open Layout

/-- What a node needs for the element around it to keep its words. -/
def Place.Keeps : Place → Node Source → Prop
  | .flow, _ => True
  | .table, n => gridWords (rowsOf [n]) = n.words
  | .group, n => n.frame.tag.isSome ∧ gridWords (rowCells n) = n.words
  | .row, n => n.frame.tag.isSome

section Assemble

variable (d : Design) (path : List Tag) {tag : Tag} (children : List Markup)
  (nodes : List (Node Source))

theorem Design.assemble_other (hOther : Kind.of tag ∉ [.drawing, .picture, .divider, .ignored])
    (hTable : Kind.of tag ≠ .table) (hBreak : Kind.of tag ≠ .lineBreak)
    (hList : ∀ ordered, Kind.of tag ≠ .list ordered) :
    ∃ frame, d.assemble path tag children nodes = .ok (.node frame (Body.ofChildren nodes).collapse) ∧
      frame.tag = some (Text.asciiUpper tag.name) := by
  rw [assemble]
  cases hKind : Kind.of tag with
  | table => exact absurd hKind hTable
  | cell => exact ⟨_, rfl, rfl⟩
  | list ordered => exact absurd hKind (hList ordered)
  | picture => simp [hKind] at hOther
  | link => exact ⟨_, rfl, d.tag_plainFrame ..⟩
  | divider => simp [hKind] at hOther
  | lineBreak => exact absurd hKind hBreak
  | script script => exact ⟨_, rfl, d.tag_plainFrame ..⟩
  | font => exact ⟨_, rfl, rfl⟩
  | drawing => simp [hKind] at hOther
  | ignored => simp [hKind] at hOther
  | other => exact ⟨_, rfl, d.tag_plainFrame ..⟩

theorem Design.assemble_plain (hKind : Kind.of tag = .other ∨ Kind.of tag = .cell) :
    ∃ frame, d.assemble path tag children nodes = .ok (.node frame (Body.ofChildren nodes).collapse) ∧
      frame.tag = some (Text.asciiUpper tag.name) := by
  rcases hKind with hKind | hKind <;>
    exact d.assemble_other _ _ _ (by simp [hKind]) (by simp [hKind]) (by simp [hKind]) (by simp [hKind])

theorem requestSteps_collapse (body : Body Source) : requestSteps body.collapse = requestSteps body := by
  fun_cases Body.collapse body <;> rfl

theorem requestSteps_ofChildren (nodes : List (Node Source)) :
    requestSteps (Body.ofChildren nodes) = [] := by
  rw [Body.ofChildren]
  split <;> rfl

theorem Design.assemble_flow (hAdmits : Place.admits .flow tag) (hBreak : tag.kind = "br" → nodes = [])
    (hTable : tag.kind = "table" → gridWords (rowsOf nodes) = wordsOf nodes) :
    ∃ n, d.assemble path tag children nodes = .ok n ∧ requestSteps n.body = [] ∧
      n.words = (if tag.kind = "br" then "\n" else "") ++ wordsOf nodes := by
  by_cases hKind : Kind.of tag = .table
  · have hName := Kind.of_eq_table_iff.mp hKind
    refine ⟨_, by rw [assemble, hKind], rfl, ?_⟩
    rw [if_neg (by rw [hName]; decide), String.empty_append, ← hTable hName]
    exact gridWords_expandSpans _
  by_cases hLine : Kind.of tag = .lineBreak
  · have hName := Kind.of_eq_lineBreak_iff.mp hLine
    refine ⟨_, by rw [assemble, hLine], rfl, ?_⟩
    rw [if_pos hName, hBreak hName]
    rfl
  rw [if_neg (fun hName => hLine (Kind.of_eq_lineBreak_iff.mpr hName)), String.empty_append]
  by_cases hList : ∃ ordered, Kind.of tag = .list ordered
  · obtain ⟨ordered, hList⟩ := hList
    exact ⟨_, by rw [assemble, hList], rfl, rfl⟩
  · obtain ⟨frame, hNode, -⟩ := d.assemble_other path children nodes
      (Kind.of_of_flow hAdmits) hKind hLine fun ordered h => hList ⟨ordered, h⟩
    refine ⟨_, hNode, ?_, ?_⟩
    · exact (requestSteps_collapse _).trans (requestSteps_ofChildren nodes)
    · exact (words_collapse _).trans (words_ofChildren nodes)

end Assemble

section Draft

variable (d : Design) {path : List Element} {depth : Nat}

theorem Design.finalText_eq (hHook : d.hook = none) (path : List Element) (raw : String) :
    d.finalText path raw = words (tags path) (.text raw) := by
  rw [finalText, hHook, words]
  split
  · next hEmpty =>
    rw [hEmpty, normalized, trimmed]
    split <;> split <;> rfl
  · rfl

theorem Place.keeps_row {place : Place} {frame : Frame} {nodes : List (Node Source)}
    (hPlace : place = .table ∨ place = .group)
    (hRow : (Node.node frame (Body.ofChildren nodes)).settle.isTag "tr") :
    place.Keeps (Node.node frame (Body.ofChildren nodes)).settle := by
  have hCells : gridWords (rowCells (Node.node frame (Body.ofChildren nodes)).settle) =
      (Node.node frame (Body.ofChildren nodes)).settle.words := by
    rw [gridWords_rowCells hRow, children_settle, words_settle_ofChildren]
  rcases hPlace with rfl | rfl
  · exact (gridWords_rowsOf_row hRow).trans hCells
  · refine ⟨?_, hCells⟩
    rw [Node.isTag] at hRow
    exact Option.isSome_of_any hRow

theorem Place.keeps_part {place : Place} {tag : Tag} {frame : Frame} {nodes : List (Node Source)}
    (hPlace : place ≠ .flow) (hAdmits : place.admits tag)
    (hTag : frame.tag = some (Text.asciiUpper tag.name))
    (hKeeps : ∀ n ∈ nodes, (place.inside tag).Keeps n) :
    place.Keeps (Node.node frame (Body.ofChildren nodes).collapse).settle := by
  have hSettled (body : Body Source) :
      (Node.node frame body).settle.frame.tag = some (Text.asciiUpper tag.name) := by
    rw [frame_settle]
    exact hTag
  have hIsTag {name : String} (hName : Text.asciiLower name = name) :
      (Node.node frame (Body.ofChildren nodes)).settle.isTag name ↔ tag.kind = name :=
    isTag_iff (hSettled _) hName
  cases place with
  | flow => exact absurd rfl hPlace
  | row =>
    show (Node.settle _).frame.tag.isSome
    rw [hSettled]
    rfl
  | group =>
    rw [collapse_of_tagged hKeeps]
    exact keeps_row (.inr rfl) ((hIsTag (by decide)).mpr hAdmits)
  | table =>
    by_cases hRow : tag.kind = "tr"
    · rw [inside, if_pos hRow] at hKeeps
      rw [collapse_of_tagged hKeeps]
      exact keeps_row (.inl rfl) ((hIsTag (by decide)).mpr hRow)
    · rw [inside, if_neg hRow] at hKeeps
      rw [collapse_of_tagged fun n hn => (hKeeps n hn).1]
      have hGroup : sectionTags.any ((Node.node frame (Body.ofChildren nodes)).settle.isTag ·) := by
        simp only [admits, List.mem_cons, List.not_mem_nil, or_false] at hAdmits
        rcases hAdmits with hName | hName | hName | hName
        · exact List.any_eq_true.mpr ⟨"thead", by decide, (hIsTag (by decide)).mpr hName⟩
        · exact List.any_eq_true.mpr ⟨"tbody", by decide, (hIsTag (by decide)).mpr hName⟩
        · exact List.any_eq_true.mpr ⟨"tfoot", by decide, (hIsTag (by decide)).mpr hName⟩
        · exact absurd hName hRow
      show gridWords (rowsOf [_]) = _
      rw [gridWords_rowsOf_group (fun h => hRow ((hIsTag (by decide)).mp h)) hGroup, children_settle,
        gridWords_flatMap fun n hn => (hKeeps n hn).2, words_settle_ofChildren]

/-- An element at a place keeps its words if its children do. -/
theorem Design.assemble_of_admits (path : List Tag) {place : Place} {tag : Tag}
    (children : List Markup) {nodes : List (Node Source)} (hAdmits : place.admits tag)
    (hBreak : tag.kind = "br" → nodes = []) (hKeeps : ∀ n ∈ nodes, (place.inside tag).Keeps n) :
    ∃ n, d.assemble path tag children nodes = .ok n ∧ requestSteps n.body = [] ∧
      n.words = (if tag.kind = "br" then "\n" else "") ++ wordsOf nodes ∧ place.Keeps n.settle := by
  by_cases hPlace : place = .flow
  · subst hPlace
    have hTable (hName : tag.kind = "table") : gridWords (rowsOf nodes) = wordsOf nodes := by
      rw [Place.inside, if_pos hName] at hKeeps
      exact gridWords_rowsOf hKeeps
    obtain ⟨n, hNode, hSteps, hWords⟩ := d.assemble_flow path children nodes hAdmits hBreak hTable
    exact ⟨n, hNode, hSteps, hWords, trivial⟩
  · obtain ⟨frame, hNode, hTag⟩ := d.assemble_plain path children nodes (Kind.of_of_part hPlace hAdmits)
    refine ⟨_, hNode, ?_, ?_, Place.keeps_part hPlace hAdmits hTag hKeeps⟩
    · exact (requestSteps_collapse _).trans (requestSteps_ofChildren nodes)
    · have hName : tag.kind ≠ "br" := fun hName => by
        have hLine := Kind.of_eq_lineBreak_iff.mpr hName
        rcases Kind.of_of_part hPlace hAdmits with hKind | hKind <;> rw [hKind] at hLine <;> cases hLine
      rw [if_neg hName, String.empty_append]
      exact (words_collapse _).trans (words_ofChildren nodes)

theorem Design.draft_element {place : Place} {tag : Tag} {children : List Markup}
    {nodes : List (Node Source)} {n : Node Source} (hDepth : depth ≤ d.maxDepth)
    (hAdmits : place.admits tag)
    (hAll : d.draftAll (path ++ [⟨tag, children⟩]) tag (depth + 1) children = (nodes, []))
    (hNode : d.assemble (tags path ++ [tag]) tag children nodes = .ok n) (hSteps : requestSteps n.body = []) :
    d.draft path depth (.element tag children) = (.ok (some n), []) := by
  obtain ⟨hIgnored, hDrawing⟩ := Kind.of_ne_of_admits hAdmits
  rw [draft, if_neg (Nat.not_lt.mpr hDepth)]
  split
  · next hKind => exact absurd hKind hIgnored
  · next hKind => exact absurd hKind hDrawing
  · simp only [hAll, hNode, hSteps, List.append_nil]

mutual

theorem Design.draft_of_tidy (hHook : d.hook = none) (place : Place) (path : List Element) (depth : Nat)
    (m : Markup) (h : Tidy d.maxDepth place (tags path) depth m) :
    ∃ drafted, d.draft path depth m = (.ok drafted, []) ∧
      drafted.elim "" Node.words = words (tags path) m ∧ ∀ n, drafted = some n → place.Keeps n.settle := by
  cases m with
  | text raw =>
    refine ⟨_, rfl, ?_, ?_⟩
    · rw [textLeaf?, d.finalText_eq hHook]
      split
      · next hEmpty => exact hEmpty.symm
      · rfl
    · rintro n hLeaf
      rcases h with rfl | hEmpty
      · exact trivial
      · rw [textLeaf?, d.finalText_eq hHook, if_pos hEmpty] at hLeaf
        cases hLeaf
  | element tag children =>
    obtain ⟨hDepth, hAdmits, hBreak, hChildren⟩ := h
    have hInner : tags (path ++ [⟨tag, children⟩]) = tags path ++ [tag] := tags_concat ..
    rw [← hInner] at hChildren
    obtain ⟨nodes, hAll, hWords, hKeeps⟩ :=
      draftAll_of_tidy hHook (place.inside tag) (path ++ [⟨tag, children⟩]) tag (depth + 1) children hChildren
    have hNodes (hName : tag.kind = "br") : nodes = [] := by
      rw [hBreak hName] at hAll
      exact (Prod.mk.inj hAll).1.symm
    obtain ⟨n, hNode, hSteps, hNodeWords, hNodeKeeps⟩ :=
      d.assemble_of_admits (tags path ++ [tag]) children hAdmits hNodes hKeeps
    refine ⟨some n, ?_, ?_, ?_⟩
    · exact d.draft_element hDepth hAdmits hAll hNode hSteps
    · rw [Option.elim, hNodeWords, hWords, words, hInner]
    · rintro other hOther
      exact Option.some.inj hOther ▸ hNodeKeeps

theorem Design.draftAll_of_tidy (hHook : d.hook = none) (place : Place) (path : List Element)
    (parent : Tag) (depth : Nat) (children : List Markup)
    (h : TidyAll d.maxDepth place (tags path) depth children) :
    ∃ nodes, d.draftAll path parent depth children = (nodes, []) ∧
      wordsOf nodes = wordsUnder (tags path) children ∧ ∀ n ∈ nodes, place.Keeps n := by
  cases children with
  | nil => exact ⟨[], rfl, rfl, fun n hn => absurd hn List.not_mem_nil⟩
  | cons child rest =>
    obtain ⟨hChild, hRest⟩ := h
    obtain ⟨drafted, hDraft, hWords, hKeeps⟩ := draft_of_tidy hHook place path depth child hChild
    obtain ⟨nodes, hAll, hAllWords, hAllKeeps⟩ :=
      draftAll_of_tidy hHook place path parent depth rest hRest
    cases drafted with
    | none =>
      refine ⟨nodes, by rw [draftAll, hDraft, hAll, List.nil_append], ?_, hAllKeeps⟩
      rw [wordsUnder, ← hWords, ← hAllWords, Option.elim, String.empty_append]
    | some n =>
      refine ⟨n.settle :: nodes, by rw [draftAll, hDraft, hAll, List.nil_append], ?_, ?_⟩
      · rw [wordsUnder, ← hWords, ← hAllWords, wordsOf, words_settle, Option.elim]
      · rintro other hOther
        rcases List.mem_cons.mp hOther with rfl | hOther
        · exact hKeeps n rfl
        · exact hAllKeeps other hOther

end

theorem words_rootContent (frame : Frame) (nodes : List (Node Source)) :
    (rootContent (.ok (some (.node frame (Body.ofChildren nodes).collapse)))).words = wordsOf nodes := by
  have hCollapse (body : Body Source) : (rootContent (.ok (some (.node frame body.collapse)))).words =
      (rootContent (.ok (some (.node frame body)))).words := by
    fun_cases Body.collapse body with
    | case1 _ content => exact (String.append_empty : content ++ "" = content).symm
    | case2 => rfl
    | case3 => rfl
  rw [hCollapse, Body.ofChildren]
  split <;> rfl

theorem Design.draftRoot_of_tidy (hHook : d.hook = none) {root : Element}
    (hBody : root.tag.kind = "body") (hTidy : Tidy d.maxDepth .flow [] 0 root.toMarkup) :
    ∃ content, d.draftRoot root = (content, []) ∧ content.words = words [] root.toMarkup := by
  obtain ⟨hDepth, hAdmits, -, hChildren⟩ := hTidy
  obtain ⟨nodes, hAll, hWords, -⟩ := d.draftAll_of_tidy hHook _ ([] ++ [root]) root.tag _ _ hChildren
  have hKind : Kind.of root.tag = .other := by
    rw [Kind.of, hBody]
    rfl
  obtain ⟨frame, hNode, -⟩ := d.assemble_plain ([] ++ [root.tag]) root.children nodes (.inl hKind)
  have hSteps : requestSteps (Body.ofChildren nodes).collapse = [] :=
    (requestSteps_collapse _).trans (requestSteps_ofChildren nodes)
  refine ⟨rootContent (.ok (some (.node frame (Body.ofChildren nodes).collapse))), ?_, ?_⟩
  · rw [draftRoot, Element.toMarkup, d.draft_element hDepth hAdmits hAll hNode hSteps]
  · rw [words_rootContent, hWords, Element.toMarkup, words, tags_concat, tags, List.map_nil,
      if_neg (by rw [hBody]; decide), String.empty_append]

end Draft

/-- Converting a tidy body with no hook gives all its words in document order, each once. -/
theorem Converter.convertMarkup_words (c : Converter) (hHook : c.design.hook = none) (root : Element)
    (hBody : root.tag.kind = "body") (hTidy : Tidy c.design.maxDepth .flow [] 0 root.toMarkup)
    (now : UInt64) (ledger : Ledger) :
    ∃ content, (c.convertMarkup now root ledger).1 = .ok content ∧
      content.words = words [] root.toMarkup := by
  obtain ⟨content, hDraft, hWords⟩ := c.design.draftRoot_of_tidy hHook hBody hTidy
  refine ⟨content.mapPicture (pictureText []), ?_, ?_⟩
  · rw [convertMarkup, finish, convertRoot, hDraft]
    rfl
  · rw [Content.words_mapPicture, hWords]

/-- A body with a list, and a table with spans, blanks between its parts and a table in a cell. -/
def nestedTables : Element where
  tag := { name := "body" }
  children :=
    [.text "Prices\n  ",
      .element { name := "ul" }
        [.text "\n ", .element { name := "li" } [.text "one"], .text " or ", .element { name := "LI" } []],
      .element { name := "table" }
        [.text "\n  ",
          .element { name := "thead" }
            [.element { name := "tr" }
              [.element { name := "th", attrs := .ofList [("colspan", "2")] } [.text "wide"]]],
          .element { name := "TR" }
            [.element { name := "td", attrs := .ofList [("rowspan", "2"), ("style", "white-space: pre")] }
              [.text "a\n b", .element { name := "br" } [], .text "c"],
              .text " ",
              .element { name := "td" }
                [.element { name := "table" }
                  [.element { name := "tr" } [.element { name := "td" } [.text "inner"]]]]],
          .element { name := "tr" } [.text "\n"],
          .element { name := "tr" } [.element { name := "td" } [.text "last"]]]]

theorem nestedTables_words : nestedTables.tag.kind = "body" ∧
    Tidy plainConverter.design.maxDepth .flow [] 0 nestedTables.toMarkup ∧
    words [] nestedTables.toMarkup = "Pricesoneorwidea\n b\ncinnerlast" ∧
    ∃ content, (plainConverter.convertMarkup 0 nestedTables {}).1 = .ok content ∧
      content.words = words [] nestedTables.toMarkup := by
  have hBody : nestedTables.tag.kind = "body" := by decide
  have hTidy : Tidy plainConverter.design.maxDepth .flow [] 0 nestedTables.toMarkup := by
    decide +kernel
  refine ⟨hBody, hTidy, by decide +kernel, ?_⟩
  exact plainConverter.convertMarkup_words rfl nestedTables hBody hTidy 0 {}

end MarkupLayout.Convert
