import MarkupLayout.Convert.Draft
import MarkupLayout.Proofs.Markup.Spelling
import MarkupLayout.Proofs.Text.NewlineRuns

/-!
# Drawings in one line

A drawing is written out first and stripped of its newline runs afterwards. Where names and keys hold no
newline and texts stand apart, a run ends before the value or the text that it stands in does, for a
quote or an angle bracket follows. So the values and texts might as well be stripped in the tree, and no
markup is lost with the newlines.
-/

namespace MarkupLayout

namespace SortedMap

variable {α β : Type}

def mapValues (f : α → β) (map : SortedMap α) : SortedMap β :=
  ⟨map.entries.map fun entry => (entry.1, f entry.2), List.pairwise_map.mpr map.ascending⟩

theorem keys_mapValues (f : α → β) (map : SortedMap α) : (map.mapValues f).keys = map.keys := by
  rw [keys, mapValues, List.map_map]
  rfl

end SortedMap

def Text.stripped (text : String) : String :=
  String.ofList (dropNewlineRuns text.toList)

def Tag.stripped (tag : Tag) : Tag :=
  { tag with attrs := tag.attrs.mapValues Text.stripped }

namespace Markup

mutual

/-- Strips the attribute values and the texts of a tree one by one. -/
def stripped : Markup → Markup
  | .text content => .text (Text.stripped content)
  | .element tag children => .element tag.stripped (strippedAll children)

def strippedAll : List Markup → List Markup
  | [] => []
  | child :: rest => stripped child :: strippedAll rest

end

/-- What of an element is markup: where it stands, its name, its keys, and which children are texts. -/
def outline (entry : Nat × Element) : Nat × String × List String × List Bool :=
  (entry.1, entry.2.tag.name, entry.2.tag.attrs.keys, entry.2.children.map isText)

theorem isText_stripped (m : Markup) : m.stripped.isText = m.isText := by
  cases m <;> rfl

theorem map_isText_strippedAll (children : List Markup) :
    (strippedAll children).map isText = children.map isText := by
  induction children with
  | nil => rfl
  | cons child rest ih => rw [strippedAll, List.map_cons, List.map_cons, isText_stripped, ih]

mutual

theorem map_outline_stripped (depth : Nat) (m : Markup) :
    (m.stripped.elementsFrom depth).map outline = (m.elementsFrom depth).map outline := by
  cases m with
  | text content => rfl
  | element tag children =>
    have hSame : outline (depth, ⟨tag.stripped, strippedAll children⟩) =
        outline (depth, ⟨tag, children⟩) := by
      rw [outline, outline, map_isText_strippedAll, Tag.stripped, SortedMap.keys_mapValues]
    rw [stripped, elementsFrom, elementsFrom, List.map_cons, List.map_cons, hSame,
      map_outline_strippedAll (depth + 1) children]

theorem map_outline_strippedAll (depth : Nat) (children : List Markup) :
    (elementsAmong depth (strippedAll children)).map outline =
      (elementsAmong depth children).map outline := by
  cases children with
  | nil => rfl
  | cons child rest =>
    rw [strippedAll, elementsAmong, elementsAmong, List.map_append, List.map_append,
      map_outline_stripped depth child, map_outline_strippedAll depth rest]

end

end Markup

def Element.stripped (e : Element) : Element :=
  ⟨e.tag.stripped, Markup.strippedAll e.children⟩

/-- Neither the name nor a key of the element has a newline, and its texts stand apart. -/
def Element.OneLine (e : Element) : Prop :=
  '\n' ∉ e.tag.name.toList ∧ (∀ key ∈ e.tag.attrs.keys, '\n' ∉ key.toList) ∧ Markup.TextsApart e.children

instance (e : Element) : Decidable e.OneLine :=
  inferInstanceAs (Decidable (_ ∧ _ ∧ _))

namespace Markup

open Text

theorem dropNewlineRuns_spelled {names : List (Char × List Char)} (hNames : names ⊆ entities)
    (text : List Char) {rest : List Char} (hRest : ∀ c ∈ rest.head?, isGap c = false) :
    dropNewlineRuns (text.flatMap (spelled names) ++ rest) =
      (dropNewlineRuns text).flatMap (spelled names) ++ dropNewlineRuns rest := by
  rw [dropNewlineRuns, dropNewlineRunsFrom_append false _ hRest,
    dropNewlineRunsFrom_flatMap (fun _ => spelled_of_isGap hNames)
      (fun _ => exists_spelled_eq_cons hNames)]
  rfl

theorem dropNewlineRuns_attrXml {entry : String × String} (hKey : '\n' ∉ entry.1.toList)
    (rest : List Char) : dropNewlineRuns (attrXml entry ++ rest) =
      attrXml (entry.1, Text.stripped entry.2) ++ dropNewlineRuns rest := by
  have hStart : '\n' ∉ ' ' :: (entry.1.toList ++ ['=', '"']) := by simp [hKey]
  have hQuote : ∀ c ∈ ('"' :: rest).head?, isGap c = false := by
    intro c hc
    obtain rfl := Option.some.inj hc
    rfl
  have hCut (value : List Char) : attrXml (entry.1, String.ofList value) =
      ' ' :: (entry.1.toList ++ ['=', '"']) ++ (value.flatMap (spelled entities) ++ ['"']) := by
    rw [attrXml, String.toList_ofList, escapedInAttr_eq]
    simp only [List.cons_append, List.append_assoc]
  have hWhole : attrXml entry ++ rest = ' ' :: (entry.1.toList ++ ['=', '"']) ++
      (entry.2.toList.flatMap (spelled entities) ++ '"' :: rest) := by
    rw [attrXml, escapedInAttr_eq]
    simp only [List.cons_append, List.append_assoc, List.nil_append]
  rw [hWhole, dropNewlineRuns_append_of_not_mem hStart,
    dropNewlineRuns_spelled (List.Subset.refl _) _ hQuote, Text.stripped, hCut]
  have hEnd : dropNewlineRuns ('"' :: rest) = '"' :: dropNewlineRuns rest :=
    dropNewlineRunsFrom_cons_of_not_isGap false rfl rest
  rw [hEnd]
  simp only [List.append_assoc, List.cons_append, List.nil_append]

theorem dropNewlineRuns_flatMap_attrXml {entries : List (String × String)}
    (hKeys : ∀ entry ∈ entries, '\n' ∉ entry.1.toList) (rest : List Char) :
    dropNewlineRuns (entries.flatMap attrXml ++ rest) =
      (entries.map fun entry => (entry.1, Text.stripped entry.2)).flatMap attrXml ++
        dropNewlineRuns rest := by
  induction entries with
  | nil => rfl
  | cons entry entries ih =>
    obtain ⟨hKey, hOthers⟩ := List.forall_mem_cons.mp hKeys
    rw [List.flatMap_cons, List.append_assoc, dropNewlineRuns_attrXml hKey, ih hOthers, List.map_cons,
      List.flatMap_cons, List.append_assoc]

theorem namespaceXml_stripped (tag : Tag) : namespaceXml tag.stripped = namespaceXml tag := by
  rw [namespaceXml, namespaceXml, Tag.stripped, SortedMap.keys_mapValues]
  rfl

theorem not_mem_namespaceXml (tag : Tag) : '\n' ∉ namespaceXml tag := by
  have hFixed : '\n' ∉ attrXml ("xmlns", "http://www.w3.org/2000/svg") := by decide
  rw [namespaceXml]
  split
  · exact hFixed
  · exact List.not_mem_nil

theorem dropNewlineRuns_openingXml {tag : Tag} (hName : '\n' ∉ tag.name.toList)
    (hKeys : ∀ key ∈ tag.attrs.keys, '\n' ∉ key.toList) (rest : List Char) :
    dropNewlineRuns (openingXml tag ++ rest) = openingXml tag.stripped ++ dropNewlineRuns rest := by
  have hStart : '\n' ∉ '<' :: tag.name.toList := by simp [hName]
  have hEnd : '\n' ∉ namespaceXml tag ++ ['>'] := by simp [not_mem_namespaceXml]
  have hEntries : ∀ entry ∈ tag.attrs.entries, '\n' ∉ entry.1.toList := by
    intro entry hEntry
    exact hKeys entry.1 (List.mem_map_of_mem hEntry)
  have hWhole (entries : List (String × String)) (rest : List Char) :
      '<' :: tag.name.toList ++ entries.flatMap attrXml ++ namespaceXml tag ++ ['>'] ++ rest =
        '<' :: tag.name.toList ++ (entries.flatMap attrXml ++ (namespaceXml tag ++ ['>'] ++ rest)) := by
    simp only [List.append_assoc]
  rw [openingXml, openingXml, namespaceXml_stripped, hWhole, dropNewlineRuns_append_of_not_mem hStart,
    dropNewlineRuns_flatMap_attrXml hEntries, dropNewlineRuns_append_of_not_mem hEnd, ← hWhole]
  rfl

theorem dropNewlineRuns_closingXml {tag : Tag} (hName : '\n' ∉ tag.name.toList) (rest : List Char) :
    dropNewlineRuns (closingXml tag ++ rest) = closingXml tag ++ dropNewlineRuns rest :=
  dropNewlineRuns_append_of_not_mem (by simp [closingXml, hName]) rest

mutual

/-- A node is stripped by itself, if it is an element or something other than a gap follows. -/
theorem dropNewlineRuns_xml_append (depth : Nat) (m : Markup)
    (hLines : ∀ entry ∈ m.elementsFrom depth, entry.2.OneLine) {rest : List Char}
    (hRest : m.isText → ∀ c ∈ rest.head?, isGap c = false) :
    dropNewlineRuns (xml depth m ++ rest) = xml depth m.stripped ++ dropNewlineRuns rest := by
  cases m with
  | text content =>
    have hNames : entities.take 3 ⊆ entities := List.take_subset 3 entities
    rw [xml, stripped, xml, Text.stripped, String.toList_ofList, escapedInText_eq,
      dropNewlineRuns_spelled hNames _ (hRest rfl)]
  | element tag children =>
    obtain ⟨⟨hName, hKeys, hApart⟩, hChildren⟩ := List.forall_mem_cons.mp hLines
    rw [xml, stripped, xml, List.append_assoc, List.append_assoc, dropNewlineRuns_openingXml hName hKeys,
      List.append_assoc, List.append_assoc]
    have hClosing : dropNewlineRuns (closingXml tag ++ rest) = closingXml tag.stripped ++
        dropNewlineRuns rest := dropNewlineRuns_closingXml hName rest
    rw [← hClosing]
    split
    · exact congrArg _ (dropNewlineRuns_xmlAll_append (depth + 1) children hChildren hApart _)
    · rfl

theorem dropNewlineRuns_xmlAll_append (depth : Nat) (children : List Markup)
    (hLines : ∀ entry ∈ elementsAmong depth children, entry.2.OneLine)
    (hApart : TextsApart children) (after : List Char) :
    dropNewlineRuns (xmlAll depth children ++ '<' :: after) =
      xmlAll depth (strippedAll children) ++ dropNewlineRuns ('<' :: after) := by
  cases children with
  | nil => rfl
  | cons child rest =>
    obtain ⟨hChild, hOthers⟩ := List.forall_mem_append.mp hLines
    have hRest : child.isText → ∀ c ∈ (xmlAll depth rest ++ '<' :: after).head?, isGap c = false := by
      intro hText c hc
      obtain ⟨others, hFirst⟩ := hApart.exists_xmlAll_append hText depth after
      rw [hFirst] at hc
      obtain rfl := Option.some.inj hc
      rfl
    rw [xmlAll, strippedAll, xmlAll, List.append_assoc, dropNewlineRuns_xml_append depth child hChild hRest,
      dropNewlineRuns_xmlAll_append depth rest hOthers hApart.tail after, List.append_assoc]

end

end Markup

/-- A tree without newlines in its names and keys, and without texts side by side, is written and
stripped as if its values and texts were stripped before, and so is the body of a drawing. The tree
keeps all of its markup. -/
theorem Element.dropNewlineRuns_xml (e : Element) (hLines : ∀ entry ∈ e.elements, entry.2.OneLine) :
    Text.dropNewlineRuns e.xml = e.stripped.xml ∧
      (Convert.Design.drawing e.tag e.children).body = .drawing (String.ofList e.stripped.xml) ∧
      e.stripped.elements.map Markup.outline = e.elements.map Markup.outline := by
  have hXml : Text.dropNewlineRuns e.xml = e.stripped.xml := by
    have hNode : Text.dropNewlineRuns (e.xml ++ []) = e.stripped.xml ++ [] :=
      Markup.dropNewlineRuns_xml_append 0 e.toMarkup hLines (fun h => nomatch h)
    rwa [List.append_nil, List.append_nil] at hNode
  refine ⟨hXml, ?_, Markup.map_outline_stripped 0 e.toMarkup⟩
  rw [← hXml]
  rfl

/-- A label in a drawing, with newlines at the borders of its values and texts. -/
def foldedLabel : Element where
  tag := { name := "svg", attrs := .ofList [("viewBox", "0 0\n  9 9\n"), ("xmlns", "\n")] }
  children :=
    [.text "\n\t<\n", .element { name := "text", attrs := .ofList [("fill", "\n'\n'")] } [.text " a\n"],
      .text "\n \n", .element { name := "g" } []]

theorem foldedLabel_dropNewlineRuns : (∀ entry ∈ foldedLabel.elements, entry.2.OneLine) ∧
    Text.dropNewlineRuns foldedLabel.xml = foldedLabel.stripped.xml ∧
    foldedLabel.stripped.xml =
      "<svg viewBox=\"0 09 9\" xmlns=\"\">&lt;<text fill=\"&apos;&apos;\"> a</text><g></g></svg>".toList := by
  have hLines : ∀ entry ∈ foldedLabel.elements, entry.2.OneLine := by decide +kernel
  exact ⟨hLines, (foldedLabel.dropNewlineRuns_xml hLines).1, by decide +kernel⟩

end MarkupLayout
