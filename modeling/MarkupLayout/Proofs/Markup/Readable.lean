import MarkupLayout.Proofs.Markup.Spelling

/-!
# Written markup has one reading

Every part of what is written ends at a mark that the part does not contain: a name at a blank or an
angle bracket, a key at the equals sign, a value at its quote, a text in front of an angle bracket. And
the first two characters tell a text, an element and the end of the element around them apart. So two
trees that are written the same are the same, whatever follows them, if nothing is left out or added.
-/

namespace MarkupLayout

namespace Markup

/-- Names without any of the marks that the parts of a tag end at. -/
def IsName (name : String) : Prop :=
  name ≠ "" ∧ ∀ mark ∈ [' ', '"', '\x27', '=', '<', '>', '/'], mark ∉ name.toList

instance (name : String) : Decidable (IsName name) :=
  @instDecidableAnd _ _ inferInstance (List.decidableBAll _ _)

instance (m : Markup) (content : String) : Decidable (m = .text content) :=
  match m with
  | .text other => decidable_of_iff (other = content) (by simp)
  | .element .. => isFalse nofun

end Markup

/-- An element at a depth of a tree that is written in full and without additions, and whose texts can
be told apart. -/
structure Element.Readable (depth : Nat) (e : Element) : Prop where
  name : Markup.IsName e.tag.name
  keys : ∀ key ∈ e.tag.attrs.keys, Markup.IsName key
  texts : ∀ child ∈ e.children, child ≠ .text ""
  apart : Markup.TextsApart e.children
  namespaced : e.tag.is "svg" → ∃ key ∈ e.tag.attrs.keys, Text.sameIgnoringCase key "xmlns"
  shallow : depth = Markup.pruneDepth → e.children = []

instance (depth : Nat) (e : Element) : Decidable (e.Readable depth) :=
  decidable_of_iff (Markup.IsName e.tag.name ∧ (∀ key ∈ e.tag.attrs.keys, Markup.IsName key) ∧
      (∀ child ∈ e.children, child ≠ .text "") ∧ Markup.TextsApart e.children ∧
      (e.tag.is "svg" → ∃ key ∈ e.tag.attrs.keys, Text.sameIgnoringCase key "xmlns") ∧
      (depth = Markup.pruneDepth → e.children = []))
    ⟨fun ⟨name, keys, texts, apart, namespaced, shallow⟩ => ⟨name, keys, texts, apart, namespaced, shallow⟩,
      fun h => ⟨h.name, h.keys, h.texts, h.apart, h.namespaced, h.shallow⟩⟩

namespace Markup

section Parts

variable {p : Char → Prop} {part other rest others : List Char}

theorem eq_nil_of_head {more : List Char} (hPart : ∀ c ∈ more, p c)
    (hRest : ∀ c ∈ (more ++ rest).head?, ¬p c) : more = [] := by
  cases more with
  | nil => rfl
  | cons c more => exact absurd (hPart c List.mem_cons_self) (hRest c rfl)

/-- A part is as long as its characters allow, if what follows begins with a mark. -/
theorem part_append_inj (hPart : ∀ c ∈ part, p c) (hOther : ∀ c ∈ other, p c)
    (hRest : ∀ c ∈ rest.head?, ¬p c) (hOthers : ∀ c ∈ others.head?, ¬p c)
    (h : part ++ rest = other ++ others) : part = other ∧ rest = others := by
  rcases List.append_eq_append_iff.mp h with ⟨more, rfl, rfl⟩ | ⟨more, rfl, rfl⟩
  · obtain rfl : more = [] :=
      eq_nil_of_head (fun c hc => hOther c (List.mem_append_right part hc)) hRest
    exact ⟨(List.append_nil part).symm, rfl⟩
  · obtain rfl : more = [] :=
      eq_nil_of_head (fun c hc => hPart c (List.mem_append_right other hc)) hOthers
    exact ⟨List.append_nil other, rfl⟩

theorem part_cons_inj {mark : Char} (hPart : mark ∉ part) (hOther : mark ∉ other)
    (h : part ++ mark :: rest = other ++ mark :: others) : part = other ∧ rest = others := by
  have hMark (text : List Char) : ∀ c ∈ (mark :: text).head?, ¬c ≠ mark := by
    intro c hc
    exact not_not.mpr (Option.some.inj hc).symm
  obtain ⟨hSame, hRest⟩ := part_append_inj (p := (· ≠ mark))
    (fun c hc => ne_of_mem_of_not_mem hc hPart) (fun c hc => ne_of_mem_of_not_mem hc hOther)
    (hMark rest) (hMark others) h
  exact ⟨hSame, (List.cons.inj hRest).2⟩

theorem not_mem_flatMap_spelled {names : List (Char × List Char)} (hNames : names ⊆ entities)
    {mark : Char} {name : List Char} (hMark : names.lookup mark = some name) (hIntro : mark ≠ '&')
    (text : List Char) : mark ∉ text.flatMap (spelled names) := by
  rw [List.mem_flatMap]
  rintro ⟨c, -, hc⟩
  exact not_mem_spelled hNames hMark hIntro c hc

end Parts

section Tags

variable {rest others : List Char}

theorem IsName.exists_cons {name : String} (h : IsName name) :
    ∃ c cs, name.toList = c :: cs ∧ c ≠ '/' := by
  obtain ⟨c, cs, hName⟩ := List.exists_cons_of_ne_nil (mt String.toList_eq_nil_iff.mp h.1)
  refine ⟨c, cs, hName, ?_⟩
  rintro rfl
  exact h.2 '/' (by decide) (hName ▸ List.mem_cons_self)

theorem attrXml_append_inj {entry other : String × String} (hKey : IsName entry.1) (hOther : IsName other.1)
    (h : attrXml entry ++ rest = attrXml other ++ others) : entry = other ∧ rest = others := by
  have hCut (entry : String × String) (rest : List Char) : attrXml entry ++ rest =
      ' ' :: (entry.1.toList ++ '=' :: '"' :: (entry.2.toList.flatMap (spelled entities) ++ '"' :: rest)) := by
    rw [attrXml, escapedInAttr_eq]
    simp only [List.cons_append, List.append_assoc, List.nil_append]
  have hQuote (value : String) : '"' ∉ value.toList.flatMap (spelled entities) :=
    not_mem_flatMap_spelled (List.Subset.refl _) rfl (by decide) _
  rw [hCut, hCut] at h
  obtain ⟨hKeys, hBehind⟩ := part_cons_inj (hKey.2 '=' (by decide)) (hOther.2 '=' (by decide))
    (List.cons.inj h).2
  obtain ⟨hValues, hRest⟩ := part_cons_inj (hQuote entry.2) (hQuote other.2) (List.cons.inj hBehind).2
  have hValue := flatMap_spelled_inj (List.Subset.refl _) (by decide) hValues
  exact ⟨Prod.ext (String.toList_inj.mp hKeys) (String.toList_inj.mp hValue), hRest⟩

theorem flatMap_attrXml_append_inj {entries more : List (String × String)}
    (hKeys : ∀ entry ∈ entries, IsName entry.1) (hMore : ∀ entry ∈ more, IsName entry.1)
    (h : entries.flatMap attrXml ++ '>' :: rest = more.flatMap attrXml ++ '>' :: others) :
    entries = more ∧ rest = others := by
  have hSpace (entry : String × String) : ∃ tail, attrXml entry = ' ' :: tail := ⟨_, rfl⟩
  induction entries generalizing more with
  | nil =>
    cases more with
    | nil => exact ⟨rfl, (List.cons.inj h).2⟩
    | cons entry more =>
      obtain ⟨tail, hTail⟩ := hSpace entry
      rw [List.flatMap_cons, hTail] at h
      exact absurd (List.cons.inj h).1 (by decide)
  | cons entry entries ih =>
    cases more with
    | nil =>
      obtain ⟨tail, hTail⟩ := hSpace entry
      rw [List.flatMap_cons, hTail] at h
      exact absurd (List.cons.inj h).1 (by decide)
    | cons other more =>
      obtain ⟨hKey, hEntries⟩ := List.forall_mem_cons.mp hKeys
      obtain ⟨hOther, hOthers⟩ := List.forall_mem_cons.mp hMore
      rw [List.flatMap_cons, List.flatMap_cons, List.append_assoc, List.append_assoc] at h
      obtain ⟨rfl, hBehind⟩ := attrXml_append_inj hKey hOther h
      obtain ⟨rfl, hRest⟩ := ih hEntries hOthers hBehind
      exact ⟨rfl, hRest⟩

theorem openingXml_append {tag : Tag}
    (hDrawing : tag.is "svg" → ∃ key ∈ tag.attrs.keys, Text.sameIgnoringCase key "xmlns")
    (rest : List Char) : openingXml tag ++ rest =
      '<' :: (tag.name.toList ++ (tag.attrs.entries.flatMap attrXml ++ '>' :: rest)) := by
  have hNone : namespaceXml tag = [] := by
    rw [namespaceXml, if_neg]
    intro hAdded
    obtain ⟨hKind, hKeys⟩ := Bool.and_eq_true_iff.mp hAdded
    rw [Bool.not_eq_true', List.any_eq_false] at hKeys
    obtain ⟨key, hKey, hSame⟩ := hDrawing hKind
    exact hKeys key hKey hSame
  rw [openingXml, hNone]
  simp only [List.append_nil, List.cons_append, List.append_assoc, List.nil_append]

theorem openingXml_append_inj {depth : Nat} {tag other : Tag} {children more : List Markup}
    (ht : Element.Readable depth ⟨tag, children⟩) (ho : Element.Readable depth ⟨other, more⟩)
    (h : openingXml tag ++ rest = openingXml other ++ others) : tag = other ∧ rest = others := by
  have hPart {name : String} (hName : IsName name) : ∀ c ∈ name.toList, c ≠ ' ' ∧ c ≠ '>' := by
    intro c hc
    constructor
    · rintro rfl
      exact hName.2 ' ' (by decide) hc
    · rintro rfl
      exact hName.2 '>' (by decide) hc
  have hMark (entries : List (String × String)) (rest : List Char) :
      ∀ c ∈ (entries.flatMap attrXml ++ '>' :: rest).head?, ¬(c ≠ ' ' ∧ c ≠ '>') := by
    intro c hc
    cases entries with
    | nil => exact fun hNot => hNot.2 (Option.some.inj hc).symm
    | cons entry entries => exact fun hNot => hNot.1 (Option.some.inj hc).symm
  have hKeys {e : Element} (he : e.Readable depth) : ∀ entry ∈ e.tag.attrs.entries, IsName entry.1 :=
    fun entry hEntry => he.keys entry.1 (List.mem_map_of_mem hEntry)
  rw [openingXml_append ht.namespaced, openingXml_append ho.namespaced] at h
  obtain ⟨hNames, hBehind⟩ := part_append_inj (hPart ht.name) (hPart ho.name) (hMark _ rest)
    (hMark _ others) (List.cons.inj h).2
  obtain ⟨hEntries, hRest⟩ := flatMap_attrXml_append_inj (hKeys ht) (hKeys ho) hBehind
  cases tag
  cases other
  obtain rfl := String.toList_inj.mp hNames
  obtain rfl := SortedMap.ext_entries hEntries
  exact ⟨rfl, hRest⟩

end Tags

theorem not_mem_xml_text (depth : Nat) (content : String) : '<' ∉ xml depth (.text content) := by
  rw [xml, escapedInText_eq]
  exact not_mem_flatMap_spelled (List.take_subset 3 _) rfl (by decide) _

theorem xml_text_append_ne {depth : Nat} {content : String} (hText : content ≠ "")
    (rest after : List Char) : xml depth (.text content) ++ rest ≠ '<' :: after := by
  intro h
  obtain ⟨c, cs, hContent⟩ := List.exists_cons_of_ne_nil (mt String.toList_eq_nil_iff.mp hText)
  have hSome : spelled (entities.take 3) c ≠ [] := spelled_ne_nil c
  obtain ⟨d, ds, hSpelled⟩ := List.exists_cons_of_ne_nil hSome
  have hXml : xml depth (.text content) = d :: (ds ++ cs.flatMap (spelled (entities.take 3))) := by
    rw [xml, escapedInText_eq, hContent, List.flatMap_cons, hSpelled, List.cons_append]
  have hNotLess := not_mem_xml_text depth content
  rw [hXml] at h hNotLess
  exact hNotLess ((List.cons.inj h).1 ▸ List.mem_cons_self)

/-- A node at a depth that is not an empty text, and whose elements are readable. -/
def Readable (depth : Nat) (m : Markup) : Prop :=
  m ≠ .text "" ∧ ∀ entry ∈ m.elementsFrom depth, entry.2.Readable entry.1

/-- Children at a depth that can be told apart. -/
def AllReadable (depth : Nat) (children : List Markup) : Prop :=
  (∀ child ∈ children, child.Readable depth) ∧ TextsApart children

theorem forall_mem_elementsAmong {depth : Nat} {children : List Markup} {p : Nat × Element → Prop} :
    (∀ entry ∈ elementsAmong depth children, p entry) ↔
      ∀ child ∈ children, ∀ entry ∈ child.elementsFrom depth, p entry := by
  induction children with
  | nil => simp [elementsAmong]
  | cons child rest ih => rw [elementsAmong, List.forall_mem_append, ih, List.forall_mem_cons]

theorem Readable.children {depth : Nat} {tag : Tag} {children : List Markup}
    (h : Readable depth (.element tag children)) :
    Element.Readable depth ⟨tag, children⟩ ∧ AllReadable (depth + 1) children := by
  obtain ⟨hElement, hInner⟩ := List.forall_mem_cons.mp h.2
  refine ⟨hElement, fun child hChild => ⟨hElement.texts child hChild, ?_⟩, hElement.apart⟩
  exact forall_mem_elementsAmong.mp hInner child hChild

theorem AllReadable.cons {depth : Nat} {child : Markup} {rest : List Markup}
    (h : AllReadable depth (child :: rest)) (after : List Char) : child.Readable depth ∧
      AllReadable depth rest ∧
      (child.isText → ∃ tail, xmlAll depth rest ++ '<' :: after = '<' :: tail) := by
  obtain ⟨hChild, hOthers⟩ := List.forall_mem_cons.mp h.1
  exact ⟨hChild, ⟨hOthers, h.2.tail⟩, fun hText => h.2.exists_xmlAll_append hText depth after⟩

theorem Readable.ne_empty {depth : Nat} {content : String} (h : Readable depth (.text content)) :
    content ≠ "" := by
  rintro rfl
  exact h.1 rfl

theorem Readable.xml_append_ne {depth : Nat} {m : Markup} (hm : m.Readable depth)
    (rest after : List Char) : xml depth m ++ rest ≠ '<' :: '/' :: after := by
  intro h
  cases m with
  | text content => exact xml_text_append_ne hm.ne_empty rest _ h
  | element tag children =>
    obtain ⟨c, cs, hName, hSlash⟩ := hm.children.1.name.exists_cons
    obtain ⟨tail, hTail⟩ := exists_xml_element depth tag children
    rw [hTail, hName] at h
    exact hSlash (List.cons.inj (List.cons.inj h).2).1

theorem xml_text_append_inj {depth : Nat} {content other : String} {rest others : List Char}
    (hRest : ∃ tail, rest = '<' :: tail) (hOthers : ∃ tail, others = '<' :: tail)
    (h : xml depth (.text content) ++ rest = xml depth (.text other) ++ others) :
    content = other ∧ rest = others := by
  have hPart (content : String) : ∀ c ∈ xml depth (.text content), c ≠ '<' :=
    fun c hc => ne_of_mem_of_not_mem hc (not_mem_xml_text depth content)
  have hMark {rest : List Char} (hRest : ∃ tail, rest = '<' :: tail) : ∀ c ∈ rest.head?, ¬c ≠ '<' := by
    obtain ⟨tail, rfl⟩ := hRest
    exact fun c hc => not_not.mpr (Option.some.inj hc).symm
  obtain ⟨hSame, hTail⟩ := part_append_inj (hPart content) (hPart other) (hMark hRest) (hMark hOthers) h
  rw [xml, xml, escapedInText_eq] at hSame
  have hContent := flatMap_spelled_inj (List.take_subset 3 _) (by decide) hSame
  exact ⟨String.toList_inj.mp hContent, hTail⟩

mutual

theorem xml_append_inj (depth : Nat) (m : Markup) {other : Markup} {rest others : List Char}
    (hDepth : depth ≤ pruneDepth) (hm : m.Readable depth) (ho : other.Readable depth)
    (hRest : m.isText → ∃ tail, rest = '<' :: tail)
    (hOthers : other.isText → ∃ tail, others = '<' :: tail)
    (h : xml depth m ++ rest = xml depth other ++ others) : m = other ∧ rest = others := by
  cases m with
  | text content =>
    cases other with
    | text otherContent =>
      obtain ⟨rfl, hTail⟩ := xml_text_append_inj (hRest rfl) (hOthers rfl) h
      exact ⟨rfl, hTail⟩
    | element tag children =>
      obtain ⟨tail, hTail⟩ := exists_xml_element depth tag children
      rw [hTail] at h
      exact absurd h (xml_text_append_ne hm.ne_empty rest _)
  | element tag children =>
    cases other with
    | text content =>
      obtain ⟨tail, hTail⟩ := exists_xml_element depth tag children
      rw [hTail] at h
      exact absurd h.symm (xml_text_append_ne ho.ne_empty others _)
    | element otherTag more =>
      obtain ⟨hElement, hChildren⟩ := hm.children
      obtain ⟨hOther, hMore⟩ := ho.children
      rw [xml, xml, List.append_assoc, List.append_assoc, List.append_assoc, List.append_assoc] at h
      obtain ⟨rfl, hInner⟩ := openingXml_append_inj hElement hOther h
      have hClosing (rest : List Char) : closingXml tag ++ rest =
          '<' :: '/' :: (tag.name.toList ++ '>' :: rest) := by
        simp [closingXml]
      have hSame : children = more ∧
          tag.name.toList ++ '>' :: rest = tag.name.toList ++ '>' :: others := by
        rw [hClosing, hClosing] at hInner
        split at hInner
        · next hBelow => exact xmlAll_append_inj (depth + 1) children hBelow hChildren hMore hInner
        · next hAtEnd =>
          have hPruned : depth = pruneDepth := Nat.le_antisymm hDepth (Nat.not_lt.mp hAtEnd)
          have hNone : children = more := (hElement.shallow hPruned).trans (hOther.shallow hPruned).symm
          exact ⟨hNone, (List.cons.inj (List.cons.inj hInner).2).2⟩
      obtain ⟨rfl, hEnd⟩ := hSame
      exact ⟨rfl, (List.cons.inj (List.append_cancel_left hEnd)).2⟩

theorem xmlAll_append_inj (depth : Nat) (children : List Markup) {more : List Markup}
    {after others : List Char} (hDepth : depth ≤ pruneDepth) (hc : AllReadable depth children)
    (hm : AllReadable depth more)
    (h : xmlAll depth children ++ '<' :: '/' :: after = xmlAll depth more ++ '<' :: '/' :: others) :
    children = more ∧ after = others := by
  cases children with
  | nil =>
    cases more with
    | nil => exact ⟨rfl, (List.cons.inj (List.cons.inj h).2).2⟩
    | cons other more =>
      obtain ⟨hOther, -, -⟩ := hm.cons []
      rw [xmlAll, xmlAll, List.append_assoc] at h
      exact absurd h.symm (hOther.xml_append_ne _ after)
  | cons child rest =>
    cases more with
    | nil =>
      obtain ⟨hChild, -, -⟩ := hc.cons []
      rw [xmlAll, xmlAll, List.append_assoc] at h
      exact absurd h (hChild.xml_append_ne _ others)
    | cons other more =>
      obtain ⟨hChild, hRest, hBehindChild⟩ := hc.cons ('/' :: after)
      obtain ⟨hOther, hMore, hBehindOther⟩ := hm.cons ('/' :: others)
      rw [xmlAll, xmlAll, List.append_assoc, List.append_assoc] at h
      obtain ⟨rfl, hTail⟩ :=
        xml_append_inj depth child hDepth hChild hOther hBehindChild hBehindOther h
      obtain ⟨rfl, hAfter⟩ := xmlAll_append_inj depth rest hDepth hRest hMore hTail
      exact ⟨rfl, hAfter⟩

end

end Markup

/-- Trees that are written in full and without additions, and whose texts can be told apart, are the
same if they are written the same. -/
theorem Element.eq_of_xml_eq {a b : Element} (ha : ∀ entry ∈ a.elements, entry.2.Readable entry.1)
    (hb : ∀ entry ∈ b.elements, entry.2.Readable entry.1) (h : a.xml = b.xml) : a = b := by
  have hReadable {e : Element} (he : ∀ entry ∈ e.elements, entry.2.Readable entry.1) :
      e.toMarkup.Readable 0 := ⟨nofun, he⟩
  have hAlone : a.xml ++ [] = b.xml ++ [] := congrArg (· ++ []) h
  obtain ⟨hSame, -⟩ := Markup.xml_append_inj 0 a.toMarkup (Nat.zero_le _) (hReadable ha) (hReadable hb)
    (fun h => nomatch h) (fun h => nomatch h) hAlone
  cases a
  cases b
  obtain ⟨rfl, rfl⟩ := Markup.element.inj hSame
  rfl

/-- A drawing with two attributes, given in either order, and with marks in its values and texts. -/
def labelled (attrs : List (String × String)) : Element where
  tag := { name := "svg", attrs := .ofList attrs }
  children :=
    [.element { name := "text" } [.text "<a href=\"b\">&", .element { name := "br" } [], .text "\x27"],
      .text ">"]

theorem labelled_eq_of_xml_eq :
    (∀ entry ∈ (labelled [("xmlns", "\""), ("width", "&quot;")]).elements,
      entry.2.Readable entry.1) ∧
    labelled [("xmlns", "\""), ("width", "&quot;")] = labelled [("width", "&quot;"), ("xmlns", "\"")] := by
  have hFirst : ∀ entry ∈ (labelled [("xmlns", "\""), ("width", "&quot;")]).elements,
      entry.2.Readable entry.1 := by decide +kernel
  have hSecond : ∀ entry ∈ (labelled [("width", "&quot;"), ("xmlns", "\"")]).elements,
      entry.2.Readable entry.1 := by decide +kernel
  exact ⟨hFirst, Element.eq_of_xml_eq hFirst hSecond (by decide +kernel)⟩

end MarkupLayout
