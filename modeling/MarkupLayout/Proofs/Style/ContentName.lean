import MarkupLayout.Proofs.Layout.ContentField
import MarkupLayout.Proofs.Style.LastRule

/-!
# Declared content fields

No property has a content field for a key of its own, and no default style has one for a key. A property
that bears the name of one makes a plain rule, though, and is passed on like any other. So the style of a
node names a content field exactly if a tag on the path declares it by name.
-/

namespace MarkupLayout.Style

open Layout (contentFields)

/-- A tag declares a property by this name, and with a value. -/
def declares (tag : Tag) (name : String) : Bool :=
  (declarations tag).any fun d => d.property = name && d.value ≠ ""

section Names

variable {key : String}

theorem contentField_plain : ∀ key ∈ contentFields, camelCase key = key ∧
    String.ofList (hyphenated key.toList) = key ∧ isBoxProperty key = false ∧
    isBorderProperty key = false ∧ Text.startsWith key "padding" = false ∧ key ≠ "decoration" := by
  decide

theorem namedKey?_contentField (tag : Tag) (hKey : key ∈ contentFields) : namedKey? tag key = none := by
  simp only [contentFields, List.mem_cons, List.not_mem_nil, or_false] at hKey
  rcases hKey with rfl | rfl | rfl | rfl | rfl | rfl | rfl | rfl <;> rfl

theorem named_not_mem_contentFields : ∀ named ∈ namedProperties, named.2 ∉ contentFields := by
  decide

end Names

section Rules

variable {key : String} {scope : Scope} {tag : Tag}

theorem exists_ruleIn?_iff (hKey : key ∈ contentFields) {d : Declaration} (h : d ∈ declarations tag) :
    (∃ rule, d.ruleIn? scope tag = some rule ∧ rule.key = key) ↔ d.property = key ∧ d.value ≠ "" := by
  obtain ⟨hCamel, hHyphenated, hBox, hBorder, hPadding, -⟩ := contentField_plain key hKey
  constructor
  · rintro ⟨rule, hRule, hName⟩
    rw [Declaration.ruleIn?] at hRule
    split at hRule
    · cases hRule
    rcases d.named_or_hyphenated h hRule with hNamed | ⟨hNamed, hProperty⟩
    · exact absurd (hName ▸ hKey) (named_not_mem_contentFields _ hNamed)
    · rw [hName, hHyphenated] at hProperty
      refine ⟨hProperty, fun hEmpty => ?_⟩
      rw [Declaration.rule?_of_unnamed hNamed, hProperty, hBorder, plainRule?, hEmpty] at hRule
      simp at hRule
  · rintro ⟨hProperty, hValue⟩
    have hNamed : namedKey? tag d.property = none := by
      rw [hProperty]
      exact namedKey?_contentField tag hKey
    refine ⟨⟨key, ((length? d.value).map Value.number).getD (.text d.value)⟩, ?_, rfl⟩
    rw [Declaration.ruleIn?, Declaration.rule?_of_unnamed hNamed, plainRule?, hProperty, hBox, hBorder,
      hPadding, hCamel]
    simp [hValue]

theorem exists_rule_iff (hKey : key ∈ contentFields) :
    (∃ rule ∈ rules scope tag, rule.key = key) ↔ declares tag key := by
  have hBorders : ∀ key ∈ contentFields, key ≠ "border" ∧ key ≠ "borderColor" := by decide
  rw [exists_key_iff, valuesOf_rules_of_not_border (hBorders key hKey), ← exists_key_iff, declares,
    List.any_eq_true]
  constructor
  · rintro ⟨rule, hRule, hName⟩
    obtain ⟨d, hd, hMade⟩ := List.mem_filterMap.mp hRule
    have hOwn := (exists_ruleIn?_iff hKey hd).mp ⟨rule, hMade, hName⟩
    exact ⟨d, hd, by simpa using hOwn⟩
  · rintro ⟨d, hd, hOwn⟩
    obtain ⟨rule, hRule, hName⟩ := (exists_ruleIn?_iff hKey hd).mpr (by simpa using hOwn)
    exact ⟨rule, List.mem_filterMap.mpr ⟨d, hd, hRule⟩, hName⟩

theorem standard_lacks_contentFields : ∀ entry ∈ DefaultStyles.standard.entries,
    ∀ property ∈ entry.2.entries, property.1 ∉ contentFields := by
  decide +kernel

theorem exists_ruleAt_iff (hKey : key ∈ contentFields) :
    (∃ rule ∈ rulesAt .standard scope tag, rule.key = key) ↔ declares tag key := by
  have hRules : (∃ rule ∈ rules (inlineScope scope tag) tag, rule.key = key) ↔ declares tag key :=
    exists_rule_iff hKey
  rw [← hRules, rulesAt]
  constructor
  · rintro ⟨rule, hRule, rfl⟩
    refine ⟨rule, (List.mem_append.mp hRule).resolve_left fun hDefault => ?_, rfl⟩
    obtain ⟨⟨entry, hEntry, hMem⟩, -⟩ := entries_of_mem_defaultRules hDefault
    exact standard_lacks_contentFields entry hEntry _ hMem hKey
  · rintro ⟨rule, hRule, hName⟩
    exact ⟨rule, List.mem_append_right _ hRule, hName⟩

theorem exists_ruleAlong_iff (hKey : key ∈ contentFields) (scope : Scope) (path : List Tag) :
    (∃ rule ∈ rulesAlong .standard scope path, rule.key = key) ↔ ∃ tag ∈ path, declares tag key := by
  induction path with
  | nil => exact iff_of_false nofun nofun
  | cons tag rest ih =>
    cases rest with
    | nil => rw [rulesAlong, exists_ruleAt_iff hKey, List.exists_mem_cons_iff, or_iff_left nofun]
    | cons inner rest =>
      have hFirst : (∃ rule ∈ rulesAt .standard .inherited tag, rule.key = key) ↔ declares tag key :=
        exists_ruleAt_iff hKey
      rw [rulesAlong, List.exists_mem_cons_iff, ← ih, ← hFirst]
      simp only [List.mem_append, or_and_right, exists_or]

/-- The style of a node names a content field if it did so before the cascade, or if any tag on the path
declares it; as which of them the innermost is styled makes no difference. -/
theorem get?_cascade_eq_none_iff (hKey : key ∈ contentFields) (scope : Scope) (path : List Tag)
    (style : StyleMap) : (cascade .standard scope path style).get? key = none ↔
      style.get? key = none ∧ ∀ tag ∈ path, declares tag key = false := by
  obtain ⟨-, -, -, -, -, hDecoration⟩ := contentField_plain key hKey
  have hValues : valuesOf key (rulesAlong .standard scope path) = [] ↔
      ∀ tag ∈ path, declares tag key = false := by
    have hNone := not_congr (exists_ruleAlong_iff hKey scope path)
    rw [exists_key_iff, not_not] at hNone
    simpa using hNone
  rw [cascade, get?_mergeAll hDecoration, Option.or_eq_none_iff, List.getLast?_eq_none_iff, hValues,
    and_comm]

end Rules

end MarkupLayout.Style
