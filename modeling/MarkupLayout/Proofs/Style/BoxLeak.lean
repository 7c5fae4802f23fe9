import Mathlib.Data.List.Basic
import MarkupLayout.Proofs.Style.LastRule
import MarkupLayout.Proofs.Style.PropertyName
import MarkupLayout.Proofs.Style.RuleKey

/-!
# Boxes that leak

Margins, sizes and borders stay with the element that declares them, with one exception: a property
that begins like a margin or a border without being one of those known is passed on like any other.
What these stray declarations give is all that a box has from the tags around it.
-/

namespace MarkupLayout.Style

/-- Whether a key, or the property it comes from, is about a box: its size, or anything that begins
like a margin or a border. -/
def isOfBox (name : String) : Bool :=
  name == "width" || name == "height" || Text.startsWith name "margin" ||
    Text.startsWith name "border"

/-- What a declaration gives a key of the boxes inside its element. -/
def Declaration.stray? (key : String) (d : Declaration) : Option Value :=
  if isOfBox d.property ∧ ¬isBoxProperty d.property ∧ ¬isBorderProperty d.property ∧ d.value ≠ "" ∧
      camelCase d.property = key then
    some (((length? d.value).map Value.number).getD (.text d.value))
  else none

/-- What the tags around an element give a key of its box, outermost first. -/
def strays (key : String) (outer : List Tag) : List Value :=
  outer.flatMap fun tag => (declarations tag).filterMap (Declaration.stray? key)

theorem hyphenated_append (left right : List Char) :
    hyphenated (left ++ right) = hyphenated left ++ hyphenated right := by
  induction left with
  | nil => rfl
  | cons c left ih =>
    rw [List.cons_append, hyphenated, hyphenated, ih]
    split <;> rfl

theorem startsWith_hyphenated {start key : String} (hStart : hyphenated start.toList = start.toList)
    (h : Text.startsWith key start) :
    Text.startsWith (String.ofList (hyphenated key.toList)) start := by
  obtain ⟨rest, hRest⟩ := List.isPrefixOf_iff_prefix.mp h
  rw [Text.startsWith, String.toList_ofList, ← hRest, hyphenated_append, hStart]
  exact List.isPrefixOf_iff_prefix.mpr (List.prefix_append _ _)

theorem isOfBox_property {tag : Tag} {d : Declaration} (h : d ∈ declarations tag)
    (hKey : isOfBox (camelCase d.property)) : isOfBox d.property := by
  rw [property_eq_of_camelCase h]
  simp only [isOfBox, Bool.or_eq_true, beq_iff_eq] at hKey ⊢
  rcases hKey with ((hWidth | hHeight) | hMargin) | hBorder
  · rw [hWidth]
    exact .inl (.inl (.inl (by decide)))
  · rw [hHeight]
    exact .inl (.inl (.inr (by decide)))
  · exact .inl (.inr (startsWith_hyphenated (by decide) hMargin))
  · exact .inr (startsWith_hyphenated (by decide) hBorder)

theorem not_isOfBox_of_padding {property : String} (h : Text.startsWith property "padding") :
    ¬isOfBox property := by
  intro hBox
  have hApart {start : String} (hStart : Text.startsWith property start) :
      "padding".toList <+: start.toList ∨ start.toList <+: "padding".toList :=
    List.prefix_or_prefix_of_prefix (List.isPrefixOf_iff_prefix.mp h)
      (List.isPrefixOf_iff_prefix.mp hStart)
  simp only [isOfBox, Bool.or_eq_true, beq_iff_eq] at hBox
  rcases hBox with ((rfl | rfl) | hMargin) | hBorder
  · exact absurd h (by decide)
  · exact absurd h (by decide)
  · exact absurd (hApart hMargin) (by decide)
  · exact absurd (hApart hBorder) (by decide)

theorem eq_margin_of_isOfBox {tag : Tag} {property key : String} (h : namedKey? tag property = some key)
    (hBox : isOfBox property ∨ isOfBox key) : property = "margin" := by
  have hNamed : ∀ named ∈ namedProperties, isOfBox named.1 ∨ isOfBox named.2 → named.1 = "margin" := by
    decide
  exact hNamed _ (mem_namedProperties h) hBox

theorem filter_plainRule?_of_isOfBox {key : String} (hKey : isOfBox key) {tag : Tag} {d : Declaration}
    (h : d ∈ declarations tag) (hBox : ¬isBoxProperty d.property)
    (hBorder : ¬isBorderProperty d.property) :
    ((plainRule? d).filter (·.key = key)).map Rule.value = d.stray? key := by
  rw [plainRule?, Declaration.stray?]
  split
  · next hNone =>
    rw [if_neg]
    · rfl
    rintro ⟨hName, -, -, hValue, -⟩
    rcases Bool.or_eq_true_iff.mp hNone with hPadding | hEmpty
    · exact not_isOfBox_of_padding hPadding hName
    · exact hValue (beq_iff_eq.mp hEmpty)
  · next hSome =>
    have hValue : d.value ≠ "" := fun hEmpty => hSome (by rw [hEmpty]; exact Bool.or_true _)
    by_cases hCamel : camelCase d.property = key
    · rw [Option.filter_some, if_pos (decide_eq_true hCamel),
        if_pos ⟨isOfBox_property h (hCamel ▸ hKey), hBox, hBorder, hValue, hCamel⟩, Option.map_some]
    · rw [Option.filter_some, if_neg (by simpa using hCamel), if_neg fun hStray => hCamel hStray.2.2.2.2]
      rfl

theorem filter_ruleIn?_inherited {key : String} (hKey : isOfBox key) {tag : Tag} {d : Declaration}
    (h : d ∈ declarations tag) :
    ((d.ruleIn? .inherited tag).filter (·.key = key)).map Rule.value = d.stray? key := by
  rw [Declaration.ruleIn?]
  by_cases hBox : isBoxProperty d.property
  · rw [if_pos ⟨rfl, hBox⟩, Declaration.stray?, if_neg fun hStray => hStray.2.1 hBox]
    rfl
  rw [if_neg fun hNone => hBox hNone.2]
  cases hNamed : namedKey? tag d.property with
  | some named =>
    have hOther : ¬(isOfBox d.property ∨ isOfBox named) := fun hNamedBox => hBox (by
      rw [eq_margin_of_isOfBox hNamed hNamedBox]
      decide)
    rw [Declaration.stray?, if_neg fun hStray => hOther (.inl hStray.1), Option.map_eq_none_iff,
      Option.filter_eq_none_iff]
    rintro rule hRule hRuleKey
    rw [decide_eq_true_iff, d.key_of_rule? hRule, hNamed, Option.getD_some] at hRuleKey
    exact hOther (.inr (hRuleKey ▸ hKey))
  | none =>
    rw [Declaration.rule?_of_unnamed hNamed]
    split
    · next hBorder =>
      rw [Declaration.stray?, if_neg fun hStray => hStray.2.2.1 hBorder]
      rfl
    · next hBorder => exact filter_plainRule?_of_isOfBox hKey h hBox hBorder

theorem valuesOf_rules_inherited {key : String} (hKey : isOfBox key) (tag : Tag) :
    valuesOf key (rules .inherited tag) = (declarations tag).filterMap (Declaration.stray? key) := by
  unfold rules
  rw [List.append_nil, valuesOf_filterMap]
  exact List.filterMap_congr fun d h => filter_ruleIn?_inherited hKey h

theorem standard_withholds_boxes : ∀ entry ∈ DefaultStyles.standard.entries,
    ∀ property ∈ entry.2.entries, isOfBox property.1 → isBoxKey property.1 := by
  decide +kernel

theorem valuesOf_defaultRules_inherited {key : String} (hKey : isOfBox key) (tag : Tag) :
    valuesOf key (defaultRules .standard .inherited tag) = [] := by
  apply valuesOf_eq_nil
  rintro rule hRule rfl
  obtain ⟨⟨entry, hEntry, hMem⟩, hPassed⟩ := entries_of_mem_defaultRules hRule
  have hWithheld : isBoxKey rule.key := standard_withholds_boxes entry hEntry _ hMem hKey
  rw [hWithheld] at hPassed
  rcases hPassed with hPassed | hPassed <;> cases hPassed

theorem valuesOf_around {key : String} (hKey : isOfBox key) {outer : List Tag}
    (hRows : ∀ tag ∈ outer, tag.kind ≠ "tr") :
    valuesOf key (outer.flatMap (rulesAt .standard .inherited)) = strays key outer := by
  rw [valuesOf_flatMap, strays]
  apply List.flatMap_congr
  intro tag hTag
  rw [rulesAt, valuesOf_append, valuesOf_defaultRules_inherited hKey, List.nil_append, inlineScope,
    if_neg (hRows tag hTag), valuesOf_rules_inherited hKey]

/-- A box has what its own element gives it, and else the last stray value around it. -/
theorem get?_cascade_box {key : String} (hKey : isOfBox key) {outer : List Tag}
    (hRows : ∀ tag ∈ outer, tag.kind ≠ "tr") (last : Tag) :
    (cascade .standard .own (outer ++ [last]) ∅).get? key =
      ((cascade .standard .own [last] ∅).get? key).or (strays key outer).getLast? := by
  have hDecoration : key ≠ "decoration" := by
    rintro rfl
    cases hKey
  rw [cascade, cascade, get?_mergeAll hDecoration, get?_mergeAll hDecoration, rulesAlong_append,
    valuesOf_append, valuesOf_around hKey hRows, List.getLast?_append, SortedMap.get?_empty,
    Option.or_none, Option.or_none, rulesAlong]

theorem strays_eq_nil {key : String} (hKnown : isBoxProperty (String.ofList (hyphenated key.toList)) ∨
    isBorderProperty (String.ofList (hyphenated key.toList))) (outer : List Tag) :
    strays key outer = [] := by
  rw [strays, List.flatMap_eq_nil_iff]
  intro tag _
  rw [List.filterMap_eq_nil_iff]
  intro d h
  rw [Declaration.stray?, if_neg]
  rintro ⟨-, hBox, hBorder, -, rfl⟩
  rw [property_eq_of_camelCase h] at hBox hBorder
  exact hKnown.elim hBox hBorder

example (outer : List Tag) : strays "marginLeft" outer = [] ∧ strays "width" outer = [] :=
  ⟨strays_eq_nil (.inl (by decide)) outer, strays_eq_nil (.inl (by decide)) outer⟩

/-- Two ways to surround an element leave its box the same exactly at the keys that it sets itself,
or for which the last stray values around it agree. -/
theorem box_agrees_iff_strays_agree {outer other : List Tag}
    (hRows : ∀ tag ∈ outer, tag.kind ≠ "tr") (hOtherRows : ∀ tag ∈ other, tag.kind ≠ "tr")
    (last : Tag) (key : String) (hKey : isOfBox key) :
    (cascade .standard .own (outer ++ [last]) ∅).get? key =
        (cascade .standard .own (other ++ [last]) ∅).get? key ↔
      ((cascade .standard .own [last] ∅).get? key).isSome ∨
        (strays key outer).getLast? = (strays key other).getLast? := by
  rw [get?_cascade_box hKey hRows, get?_cascade_box hKey hOtherRows]
  cases (cascade .standard .own [last] ∅).get? key <;> simp

def tintedBlock : Tag where
  name := "div"
  attrs := .ofList [("style", "border-color: red; border-left: 2px; margin: 3pt"), ("width", "40")]

def framedSpan : Tag where
  name := "span"
  attrs := .ofList [("style", "border: 1px solid black")]

/-- A stray color does not reach an element whose own border has one. -/
theorem framedSpan_keeps_color : (∀ tag ∈ [tintedBlock], tag.kind ≠ "tr") ∧ isOfBox "borderColor" ∧
    ((cascade .standard .own [framedSpan] ∅).get? "borderColor").isSome ∧
    (cascade .standard .own ([tintedBlock] ++ [framedSpan]) ∅).get? "borderColor" =
      (cascade .standard .own ([] ++ [framedSpan]) ∅).get? "borderColor" := by
  have hRows : ∀ tag ∈ [tintedBlock], tag.kind ≠ "tr" := by decide +kernel
  have hNoRows : ∀ tag ∈ ([] : List Tag), tag.kind ≠ "tr" := by decide
  have hKey : isOfBox "borderColor" := by decide
  have hOwn : ((cascade .standard .own [framedSpan] ∅).get? "borderColor").isSome := by
    decide +kernel
  refine ⟨hRows, hKey, hOwn, ?_⟩
  exact (box_agrees_iff_strays_agree hRows hNoRows framedSpan "borderColor" hKey).mpr (.inl hOwn)

/-- The border color of a block reaches an element that has none, while a bare block gives it none. -/
theorem tintedBlock_leaks : tintedBlock.kind ≠ "tr" ∧
    (cascade .standard .own [tintedBlock, { name := "span" }] ∅).get? "borderColor" ≠
      (cascade .standard .own [{ name := "div" }, { name := "span" }] ∅).get? "borderColor" := by
  have hLeak : ((cascade .standard .own [tintedBlock, { name := "span" }] ∅).get? "borderColor").bind
      Value.text? = some "red" := by
    decide +kernel
  have hBare : ((cascade .standard .own [{ name := "div" }, { name := "span" }] ∅).get?
      "borderColor").bind Value.text? = none := by
    decide +kernel
  refine ⟨by decide +kernel, fun hSame => ?_⟩
  rw [hSame, hBare] at hLeak
  cases hLeak

end MarkupLayout.Style
