import MarkupLayout.Proofs.Style.RuleKey
import MarkupLayout.Style.Cascade

/-!
# The last rule

A key of a style, other than the decorations, holds the value of the last rule for it. The rules
for a key along a path are those of its tags, one tag after the other.
-/

namespace MarkupLayout.Style

/-- The values that rules give for a key, in order. -/
def valuesOf (key : String) (rules : List Rule) : List Value :=
  (rules.filter (·.key = key)).map Rule.value

section Values

variable {key : String}

theorem valuesOf_append (left right : List Rule) :
    valuesOf key (left ++ right) = valuesOf key left ++ valuesOf key right := by
  rw [valuesOf, List.filter_append, List.map_append]
  rfl

theorem valuesOf_cons_of_eq {rule : Rule} (h : rule.key = key) (rules : List Rule) :
    valuesOf key (rule :: rules) = rule.value :: valuesOf key rules := by
  rw [valuesOf, List.filter_cons_of_pos (by simpa using h), List.map_cons]
  rfl

theorem valuesOf_cons_of_ne {rule : Rule} (h : rule.key ≠ key) (rules : List Rule) :
    valuesOf key (rule :: rules) = valuesOf key rules := by
  rw [valuesOf, List.filter_cons_of_neg (by simpa using h)]
  rfl

theorem valuesOf_eq_nil {rules : List Rule} (h : ∀ rule ∈ rules, rule.key ≠ key) :
    valuesOf key rules = [] := by
  rw [valuesOf, List.filter_eq_nil_iff.mpr fun rule hRule => by simpa using h rule hRule, List.map_nil]

theorem valuesOf_flatMap {α : Type} (items : List α) (f : α → List Rule) :
    valuesOf key (items.flatMap f) = items.flatMap fun item => valuesOf key (f item) := by
  induction items with
  | nil => rfl
  | cons item items ih => rw [List.flatMap_cons, List.flatMap_cons, valuesOf_append, ih]

theorem valuesOf_filterMap {α : Type} (items : List α) (f : α → Option Rule) :
    valuesOf key (items.filterMap f) =
      items.filterMap fun item => ((f item).filter (·.key = key)).map Rule.value := by
  rw [valuesOf, List.filter_filterMap, List.map_filterMap]

theorem exists_key_iff {rules : List Rule} :
    (∃ rule ∈ rules, rule.key = key) ↔ valuesOf key rules ≠ [] := by
  rw [valuesOf, ne_eq, List.map_eq_nil_iff, List.filter_eq_nil_iff]
  simp

theorem find?_key (rules : List Rule) :
    (rules.find? (·.key = key)).map Rule.value = (valuesOf key rules).head? := by
  rw [valuesOf, List.head?_map, List.head?_filter]

theorem valuesOf_rules_of_not_border (hKey : key ≠ "border" ∧ key ≠ "borderColor") (scope : Scope)
    (tag : Tag) : valuesOf key (rules scope tag) =
      valuesOf key ((declarations tag).filterMap (·.ruleIn? scope tag)) := by
  have hBorders (borders : Borders) : valuesOf key (borders.flagRules ++ borders.colorRules) = [] := by
    apply valuesOf_eq_nil
    rintro rule hRule rfl
    rcases Borders.key_of_mem_rules hRule with hBorder | hBorder
    · exact hKey.1 hBorder
    · exact hKey.2 hBorder
  unfold rules
  rw [valuesOf_append]
  cases scope with
  | inherited => exact List.append_nil _
  | own => exact (congrArg _ (hBorders _)).trans (List.append_nil _)

theorem get?_merge_of_ne (hKey : key ≠ "decoration") (style : StyleMap) (rule : Rule) :
    (style.merge rule).get? key = if rule.key = key then some rule.value else style.get? key := by
  rw [StyleMap.merge]
  split
  · next hDecoration =>
    rw [SortedMap.get?_insert, hDecoration, if_neg hKey, if_neg (Ne.symm hKey)]
  · rw [SortedMap.get?_insert]
    simp only [eq_comm]

/-- Merging rules leaves the last value for a key. -/
theorem get?_mergeAll (hKey : key ≠ "decoration") (style : StyleMap) (rules : List Rule) :
    (style.mergeAll rules).get? key = (valuesOf key rules).getLast?.or (style.get? key) := by
  induction rules generalizing style with
  | nil => rfl
  | cons rule rules ih =>
    have hStep : style.mergeAll (rule :: rules) = (style.merge rule).mergeAll rules := rfl
    rw [hStep, ih, get?_merge_of_ne hKey]
    by_cases hRule : rule.key = key
    · rw [if_pos hRule, valuesOf_cons_of_eq hRule, List.getLast?_cons]
      cases (valuesOf key rules).getLast? <;> rfl
    · rw [if_neg hRule, valuesOf_cons_of_ne hRule]

end Values

theorem entries_of_mem_defaultRules {styles : DefaultStyles} {scope : Scope} {tag : Tag} {rule : Rule}
    (h : rule ∈ defaultRules styles scope tag) :
    (∃ entry ∈ styles.entries, (rule.key, rule.value) ∈ entry.2.entries) ∧
      (scope = .own ∨ !isBoxKey rule.key) := by
  obtain ⟨property, hProperty, rfl⟩ := List.mem_map.mp h
  obtain ⟨hMem, hPassed⟩ := List.mem_filter.mp hProperty
  refine ⟨?_, by simpa using hPassed⟩
  cases hStyle : styles.get? tag.kind with
  | none =>
    rw [hStyle] at hMem
    cases hMem
  | some style =>
    rw [hStyle, Option.getD_some] at hMem
    exact ⟨(tag.kind, style), SortedMap.get?_eq_some_iff.mp hStyle, hMem⟩

theorem rulesAlong_append (styles : DefaultStyles) (scope : Scope) (outer : List Tag) (last : Tag) :
    rulesAlong styles scope (outer ++ [last]) =
      outer.flatMap (rulesAt styles .inherited) ++ rulesAt styles scope last := by
  induction outer with
  | nil => rfl
  | cons tag rest ih =>
    obtain ⟨inner, others, hInner⟩ := List.exists_cons_of_ne_nil (List.append_ne_nil_of_right_ne_nil
      rest (List.cons_ne_nil last []))
    rw [List.flatMap_cons, List.append_assoc, ← ih, List.cons_append, hInner, rulesAlong]

theorem rulesAlong_inherited (styles : DefaultStyles) (path : List Tag) :
    rulesAlong styles .inherited path = path.flatMap (rulesAt styles .inherited) := by
  rcases path.eq_nil_or_concat with rfl | ⟨outer, last, rfl⟩
  · rfl
  · rw [List.concat_eq_append, rulesAlong_append, List.flatMap_append, List.flatMap_singleton]

theorem get?_cascade_inherited {key : String} (hKey : key ≠ "decoration") (styles : DefaultStyles)
    (path : List Tag) : (cascade styles .inherited path ∅).get? key =
      (path.flatMap fun tag => valuesOf key (rulesAt styles .inherited tag)).getLast? := by
  rw [cascade, get?_mergeAll hKey, rulesAlong_inherited, valuesOf_flatMap, SortedMap.get?_empty,
    Option.or_none]

end MarkupLayout.Style
