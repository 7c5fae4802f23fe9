import Mathlib.Data.List.Basic
import MarkupLayout.Proofs.Style.BoxLeak

/-!
# What is passed on

Seen from inside, an element keeps all its rules but those about its box. So at a key that is not about
a box it makes no difference as what the innermost tag of a path is styled: the style has the last value
along the path, and of the decorations all.
-/

namespace MarkupLayout

namespace Text

theorem contains_of_startsWith {text part : String} (h : startsWith text part) : contains text part := by
  rw [startsWith] at h
  rw [contains]
  cases hText : text.toList with
  | nil =>
    rw [hText, List.isPrefixOf_iff_prefix, List.prefix_nil] at h
    rw [containsRun, h]
    rfl
  | cons c rest => rw [containsRun, ← hText, h, Bool.true_or]

end Text

namespace SortedMap

theorem filter_key {α : Type} (map : SortedMap α) (key : String) :
    (map.entries.filter (·.1 = key)).map Prod.snd = (map.get? key).toList := by
  obtain ⟨entries, ascending⟩ := map
  rw [get?]
  dsimp only
  induction entries with
  | nil => rfl
  | cons first rest ih =>
    obtain ⟨hFirst, hRest⟩ := List.pairwise_cons.mp ascending
    rw [find]
    split
    · next hKey =>
      have hOthers : rest.filter (·.1 = key) = [] := by
        rw [List.filter_eq_nil_iff]
        intro entry hEntry hSame
        have hLess := hFirst entry hEntry
        rw [hKey, of_decide_eq_true hSame] at hLess
        exact String.lt_irrefl key hLess
      rw [List.filter_cons_of_pos (by simpa using hKey), hOthers]
      rfl
    · next hKey => rw [List.filter_cons_of_neg (by simpa using hKey), ih hRest]

end SortedMap

namespace Style

/-- Whether a key is about something else than the box of an element. -/
def isPassedOn (key : String) : Bool :=
  !isBoxKey key && key != "width" && key != "height"

/-- What a tag gives a key that is passed on: the property of its default style, and what it declares. -/
def passedValues (styles : DefaultStyles) (key : String) (tag : Tag) : List Value :=
  ((styles.get? tag.kind).bind (·.get? key)).toList ++
    valuesOf key ((declarations tag).filterMap (·.rule? tag))

theorem contains_margin_camelCase {property : String} (h : Text.startsWith property "margin-") :
    Text.contains (camelCase property) "margin" := by
  obtain ⟨rest, hRest⟩ := List.isPrefixOf_iff_prefix.mp h
  apply Text.contains_of_startsWith
  rw [Text.startsWith, camelCase, ← hRest, String.toList_ofList]
  simp [camelChars]

theorem isPassedOn_camelCase {property : String} (h : isBoxProperty property) :
    isPassedOn (camelCase property) = false := by
  simp only [isBoxProperty, Bool.or_eq_true, beq_iff_eq] at h
  rcases h with ((rfl | hMargin) | rfl) | rfl
  · decide
  · rw [isPassedOn, isBoxKey, contains_margin_camelCase hMargin]
    rfl
  · decide
  · decide

theorem isOfBox_of_isBoxProperty {property : String} (h : isBoxProperty property) : isOfBox property := by
  simp only [isBoxProperty, Bool.or_eq_true, beq_iff_eq] at h
  rcases h with ((rfl | hMargin) | rfl) | rfl
  · decide
  · have hShorter : "margin".toList <+: "margin-".toList := by decide
    have hStart : Text.startsWith property "margin" :=
      List.isPrefixOf_iff_prefix.mpr (hShorter.trans (List.isPrefixOf_iff_prefix.mp hMargin))
    rw [isOfBox, hStart, Bool.or_true, Bool.true_or]
  · decide
  · decide

section Rules

variable {key : String} {tag : Tag}

theorem Declaration.isPassedOn_of_rule? {d : Declaration} {rule : Rule} (hBox : isBoxProperty d.property)
    (h : d.rule? tag = some rule) : isPassedOn rule.key = false := by
  rw [d.key_of_rule? h]
  cases hNamed : namedKey? tag d.property with
  | none => exact isPassedOn_camelCase hBox
  | some named =>
    have hMargin := eq_margin_of_isOfBox hNamed (.inl (isOfBox_of_isBoxProperty hBox))
    rw [hMargin] at hNamed
    rw [Option.getD_some, ← Option.some.inj hNamed]
    decide

theorem filter_ruleIn?_passedOn (hKey : isPassedOn key) (scope : Scope) (tag : Tag) (d : Declaration) :
    (d.ruleIn? scope tag).filter (·.key = key) = (d.rule? tag).filter (·.key = key) := by
  rw [Declaration.ruleIn?]
  split
  · next hBox =>
    symm
    rw [Option.filter_none, Option.filter_eq_none_iff]
    intro rule hRule hSame
    rw [← of_decide_eq_true hSame, d.isPassedOn_of_rule? hBox.2 hRule] at hKey
    cases hKey
  · rfl

theorem valuesOf_rules_passedOn (hKey : isPassedOn key) (scope : Scope) (tag : Tag) :
    valuesOf key (rules scope tag) = valuesOf key ((declarations tag).filterMap (·.rule? tag)) := by
  have hBorders : key ≠ "border" ∧ key ≠ "borderColor" := by
    constructor
    · rintro rfl
      exact absurd hKey (by decide)
    · rintro rfl
      exact absurd hKey (by decide)
  rw [valuesOf_rules_of_not_border hBorders]
  simp only [valuesOf_filterMap, filter_ruleIn?_passedOn hKey]

theorem valuesOf_defaultRules_passedOn (hKey : isPassedOn key) (styles : DefaultStyles) (scope : Scope)
    (tag : Tag) : valuesOf key (defaultRules styles scope tag) =
      ((styles.get? tag.kind).bind (·.get? key)).toList := by
  have hBox : isBoxKey key = false := by
    simp only [isPassedOn, Bool.and_eq_true, Bool.not_eq_true'] at hKey
    exact hKey.1.1
  have hStyle (style : StyleMap) : valuesOf key ((style.entries.filter fun entry =>
      scope = .own || !isBoxKey entry.1).map fun entry => ⟨entry.1, entry.2⟩) = (style.get? key).toList := by
    rw [← style.filter_key, valuesOf, List.filter_map, List.map_map, List.filter_filter]
    congr 1
    apply List.filter_congr
    rintro ⟨name, value⟩ -
    by_cases hName : name = key
    · simp [hName, hBox]
    · simp [hName]
  rw [defaultRules, hStyle]
  cases styles.get? tag.kind <;> rfl

theorem valuesOf_rulesAt_passedOn (hKey : isPassedOn key) (styles : DefaultStyles) (scope : Scope)
    (tag : Tag) : valuesOf key (rulesAt styles scope tag) = passedValues styles key tag := by
  rw [rulesAt, valuesOf_append, valuesOf_defaultRules_passedOn hKey, valuesOf_rules_passedOn hKey,
    passedValues]

theorem valuesOf_rulesAlong_passedOn (hKey : isPassedOn key) (styles : DefaultStyles) (scope : Scope)
    (path : List Tag) :
    valuesOf key (rulesAlong styles scope path) = path.flatMap (passedValues styles key) := by
  rcases path.eq_nil_or_concat with rfl | ⟨outer, last, rfl⟩
  · rfl
  · rw [List.concat_eq_append, rulesAlong_append, valuesOf_append, valuesOf_flatMap,
      valuesOf_rulesAt_passedOn hKey, List.flatMap_append, List.flatMap_singleton]
    simp only [valuesOf_rulesAt_passedOn hKey]

end Rules

def listed : Option Value → List String
  | some (.list items) => items
  | _ => []

section Decorations

variable {style : StyleMap} {rule : Rule}

theorem get?_merge_decoration (h : rule.key = "decoration") : (style.merge rule).get? "decoration" =
    some (.list (listed (style.get? "decoration") ++ rule.value.decorations)) := by
  rw [StyleMap.merge, if_pos h, h, SortedMap.get?_insert_self]
  rfl

theorem get?_merge_of_key_ne (h : rule.key ≠ "decoration") :
    (style.merge rule).get? "decoration" = style.get? "decoration" := by
  rw [StyleMap.merge, if_neg h, SortedMap.get?_insert_of_ne (Ne.symm h)]

theorem get?_mergeAll_decoration (style : StyleMap) (rules : List Rule) :
    (style.mergeAll rules).get? "decoration" =
      if valuesOf "decoration" rules = [] then style.get? "decoration"
      else some (.list (listed (style.get? "decoration") ++
        (valuesOf "decoration" rules).flatMap Value.decorations)) := by
  induction rules generalizing style with
  | nil => rfl
  | cons rule rules ih =>
    have hStep : style.mergeAll (rule :: rules) = (style.merge rule).mergeAll rules := rfl
    rw [hStep, ih]
    by_cases hRule : rule.key = "decoration"
    · rw [valuesOf_cons_of_eq hRule, if_neg (List.cons_ne_nil _ _), get?_merge_decoration hRule,
        List.flatMap_cons, ← List.append_assoc]
      split
      · next hNone => rw [hNone, List.flatMap_nil, List.append_nil]
      · rfl
    · rw [valuesOf_cons_of_ne hRule, get?_merge_of_key_ne hRule]

end Decorations

section Styles

variable {styles : DefaultStyles} {key : String} {path : List Tag} {style : StyleMap}

theorem get?_cascade_passedOn (hKey : isPassedOn key) (hDecoration : key ≠ "decoration") (scope : Scope) :
    (cascade styles scope path style).get? key =
      (path.flatMap (passedValues styles key)).getLast?.or (style.get? key) := by
  rw [cascade, get?_mergeAll hDecoration, valuesOf_rulesAlong_passedOn hKey]

theorem get?_cascade_decoration (scope : Scope) :
    (cascade styles scope path style).get? "decoration" =
      if path.flatMap (passedValues styles "decoration") = [] then style.get? "decoration"
      else some (.list (listed (style.get? "decoration") ++
        (path.flatMap (passedValues styles "decoration")).flatMap Value.decorations)) := by
  rw [cascade, get?_mergeAll_decoration, valuesOf_rulesAlong_passedOn (by decide)]

/-- What a text takes from the tags around it at a key that is passed on, the innermost tag takes too. -/
theorem get?_cascade_own (hKey : isPassedOn key) (hStyle : style.get? "decoration" = none) {value : Value}
    (h : (cascade styles .inherited path ∅).get? key = some value) :
    (cascade styles .own path style).get? key = some value := by
  by_cases hDecoration : key = "decoration"
  · subst hDecoration
    rw [get?_cascade_decoration, SortedMap.get?_empty] at h
    rw [get?_cascade_decoration, hStyle]
    exact h
  · rw [get?_cascade_passedOn hKey hDecoration, SortedMap.get?_empty, Option.or_none] at h
    rw [get?_cascade_passedOn hKey hDecoration, h, Option.some_or]

end Styles

end Style

end MarkupLayout
