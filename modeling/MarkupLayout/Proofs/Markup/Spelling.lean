import Mathlib.Data.List.Chain
import MarkupLayout.Markup.Xml

/-!
# How markup is spelled

Characters that have a name are written under it, fewer of them in text than in attribute values. No
name begins another one, so the written characters can be told apart, and in what is written a mark
with a name stands for itself nowhere. Elements begin with such a mark, and so does what follows a text
unless it is a text as well.
-/

namespace MarkupLayout

namespace Markup

/-- The characters that are not written as they are, with their names. -/
def entities : List (Char × List Char) :=
  [('&', "amp;".toList), ('<', "lt;".toList), ('>', "gt;".toList), ('"', "quot;".toList),
    ('\x27', "apos;".toList)]

def spelled (names : List (Char × List Char)) (c : Char) : List Char :=
  match names.lookup c with
  | some name => '&' :: name
  | none => [c]

theorem escapedInText_eq : escapedInText = spelled (entities.take 3) := by
  funext c
  rw [escapedInText]
  split_ifs with hAmp hLess hMore
  · rw [hAmp]
    rfl
  · rw [hLess]
    rfl
  · rw [hMore]
    rfl
  · simp [spelled, entities, List.lookup_cons, beq_false_of_ne, hAmp, hLess, hMore]

theorem escapedInAttr_eq : escapedInAttr = spelled entities := by
  funext c
  rw [escapedInAttr]
  split_ifs with hQuote hApostrophe
  · rw [hQuote]
    rfl
  · rw [hApostrophe]
    rfl
  · rw [escapedInText_eq]
    simp [spelled, entities, List.lookup_cons, beq_false_of_ne, hQuote, hApostrophe]

section Spelled

variable {names : List (Char × List Char)}

theorem mem_of_lookup {c : Char} {name : List Char} (h : names.lookup c = some name) :
    (c, name) ∈ names := by
  obtain ⟨before, after, hNames, -⟩ := List.lookup_eq_some_iff.mp h
  rw [hNames]
  exact List.mem_append_right before List.mem_cons_self

theorem spelled_ne_nil (c : Char) : spelled names c ≠ [] := by
  rw [spelled]
  split <;> exact List.cons_ne_nil _ _

theorem spelled_of_isGap (hNames : names ⊆ entities) {c : Char} (h : Text.isGap c) :
    spelled names c = [c] := by
  have hPlain : ∀ entity ∈ entities, Text.isGap entity.1 = false := by decide
  rw [spelled]
  split
  · next name hName =>
    cases h.symm.trans (hPlain (c, name) (hNames (mem_of_lookup hName)))
  · rfl

theorem exists_spelled_eq_cons (hNames : names ⊆ entities) {c : Char} (h : Text.isGap c = false) :
    ∃ first others, spelled names c = first :: others ∧ Text.isGap first = false ∧ '\n' ∉ others := by
  have hLines : ∀ entity ∈ entities, '\n' ∉ entity.2 := by decide
  rw [spelled]
  split
  · next name hName =>
    exact ⟨'&', name, rfl, by decide, hLines (c, name) (hNames (mem_of_lookup hName))⟩
  · exact ⟨c, [], rfl, h, List.not_mem_nil⟩

theorem not_mem_spelled (hNames : names ⊆ entities) {mark : Char} {name : List Char}
    (hMark : names.lookup mark = some name) (hIntro : mark ≠ '&') (c : Char) : mark ∉ spelled names c := by
  have hApart : ∀ entity ∈ entities, ∀ other ∈ entities, other.1 ∉ entity.2 := by decide
  rw [spelled]
  split
  · next found hFound =>
    rw [List.mem_cons, not_or]
    exact ⟨hIntro, hApart (c, found) (hNames (mem_of_lookup hFound)) (mark, name)
      (hNames (mem_of_lookup hMark))⟩
  · next hNone =>
    rw [List.mem_singleton]
    rintro rfl
    cases hNone.symm.trans hMark

/-- The first written character can be told from a text, whatever follows it. -/
theorem spelled_append_inj (hNames : names ⊆ entities) (hIntro : names.lookup '&' ≠ none) {c d : Char}
    {rest others : List Char} (h : spelled names c ++ rest = spelled names d ++ others) :
    c = d ∧ rest = others := by
  have hFree : ∀ entity ∈ entities, ∀ other ∈ entities, entity.2 <+: other.2 → entity = other := by
    decide
  rw [spelled, spelled] at h
  split at h
  · next name hName =>
    split at h
    · next other hOther =>
      have hc := hNames (mem_of_lookup hName)
      have hd := hNames (mem_of_lookup hOther)
      have hTail : name ++ rest = other ++ others := (List.cons.inj h).2
      have hSame : (c, name) = (d, other) := by
        rcases List.prefix_or_prefix_of_prefix (List.prefix_append name rest)
          (hTail ▸ List.prefix_append other others) with hBegins | hBegins
        · exact hFree _ hc _ hd hBegins
        · exact (hFree _ hd _ hc hBegins).symm
      obtain ⟨rfl, rfl⟩ := Prod.mk.inj hSame
      exact ⟨rfl, List.append_cancel_left hTail⟩
    · next hNone =>
      obtain rfl := (List.cons.inj h).1
      exact absurd hNone hIntro
  · next hNone =>
    split at h
    · next other hOther =>
      obtain rfl := (List.cons.inj h).1
      exact absurd hNone hIntro
    · exact List.cons.inj h

theorem flatMap_spelled_inj (hNames : names ⊆ entities) (hIntro : names.lookup '&' ≠ none)
    {text other : List Char} (h : text.flatMap (spelled names) = other.flatMap (spelled names)) :
    text = other := by
  induction text generalizing other with
  | nil =>
    cases other with
    | nil => rfl
    | cons d other => exact absurd (List.append_eq_nil_iff.mp h.symm).1 (spelled_ne_nil d)
  | cons c text ih =>
    cases other with
    | nil => exact absurd (List.append_eq_nil_iff.mp h).1 (spelled_ne_nil c)
    | cons d other =>
      obtain ⟨rfl, hRest⟩ := spelled_append_inj hNames hIntro h
      rw [ih hRest]

end Spelled

def isText : Markup → Bool
  | .text _ => true
  | .element .. => false

mutual

def elementsFrom (depth : Nat) : Markup → List (Nat × Element)
  | .text _ => []
  | .element tag children => (depth, ⟨tag, children⟩) :: elementsAmong (depth + 1) children

def elementsAmong (depth : Nat) : List Markup → List (Nat × Element)
  | [] => []
  | child :: rest => elementsFrom depth child ++ elementsAmong depth rest

end

end Markup

/-- The elements of a tree with their depths below the root, the root included. -/
def Element.elements (root : Element) : List (Nat × Element) :=
  root.toMarkup.elementsFrom 0

namespace Markup

/-- No text stands directly behind another one. -/
def TextsApart (children : List Markup) : Prop :=
  children.IsChain fun first second => ¬(first.isText ∧ second.isText)

instance (children : List Markup) : Decidable (TextsApart children) :=
  inferInstanceAs (Decidable (List.IsChain _ _))

theorem TextsApart.tail {child : Markup} {rest : List Markup} (h : TextsApart (child :: rest)) :
    TextsApart rest :=
  (List.isChain_cons.mp h).2

theorem exists_xml_element (depth : Nat) (tag : Tag) (children : List Markup) :
    ∃ rest, xml depth (.element tag children) = '<' :: (tag.name.toList ++ rest) := by
  refine ⟨tag.attrs.entries.flatMap attrXml ++ namespaceXml tag ++ ['>'] ++
    (if depth < pruneDepth then xmlAll (depth + 1) children else []) ++ closingXml tag, ?_⟩
  simp [xml, openingXml]

theorem TextsApart.exists_xmlAll_append {child : Markup} {rest : List Markup}
    (h : TextsApart (child :: rest)) (hText : child.isText) (depth : Nat) (after : List Char) :
    ∃ tail, xmlAll depth rest ++ '<' :: after = '<' :: tail := by
  obtain ⟨hBehind, -⟩ := List.isChain_cons.mp h
  cases rest with
  | nil => exact ⟨after, rfl⟩
  | cons next rest =>
    cases next with
    | text content => exact absurd ⟨hText, rfl⟩ (hBehind (.text content) rfl)
    | element tag inner =>
      obtain ⟨tail, hTail⟩ := exists_xml_element depth tag inner
      refine ⟨tag.name.toList ++ tail ++ (xmlAll depth rest ++ '<' :: after), ?_⟩
      rw [xmlAll, hTail, List.append_assoc, List.cons_append]

end Markup

end MarkupLayout
