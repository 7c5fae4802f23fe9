import Mathlib.Data.List.Induction
import MarkupLayout.Proofs.Style.PassedOn

/-!
# What accumulates along a path

The rules along a path are those of its tags, from the outermost in. A tag gives first its default style
and then what it declares, and unless the node is its own, only what does not concern its box. The style
of the node is the one in which of these rules the last for each key counts, and of decorations all.
-/

namespace MarkupLayout.Style

/-- The rules that a tag gives a node, which may be its own. A row gives all that it declares. -/
def contributed (styles : DefaultStyles) (own : Bool) (tag : Tag) : List Rule :=
  let defaults : List Rule :=
    ((styles.get? tag.kind).getD ∅).entries.map fun entry => ⟨entry.1, entry.2⟩
  defaults.filter (fun rule =>
      own || !(Text.contains rule.key "margin" || Text.contains rule.key "border")) ++
    rules (if own || tag.kind = "tr" then .own else .inherited) tag

/-- The rules of all tags of a path in their order. The node may be that of the last one. -/
def listing (styles : DefaultStyles) (last : Scope) (path : List Tag) : List Rule :=
  (path.mapIdx fun i tag => contributed styles (last = .own && i + 1 = path.length) tag).flatten

/-- A style in which of some rules the last for each key counts, and of decorations all. -/
structure Accumulated (rules : List Rule) (style : StyleMap) : Prop where
  contains_iff : ∀ key, style.contains key ↔ ∃ rule ∈ rules, rule.key = key
  last : ∀ key, key ≠ "decoration" → style.get? key = (valuesOf key rules).getLast?
  decorations : (∃ rule ∈ rules, rule.key = "decoration") → style.get? "decoration" =
    some (.list ((valuesOf "decoration" rules).flatMap Value.decorations))

theorem contributed_eq (styles : DefaultStyles) (own : Bool) (tag : Tag) :
    contributed styles own tag = rulesAt styles (if own then .own else .inherited) tag := by
  rw [contributed, rulesAt, defaultRules, List.filter_map]
  cases own with
  | true => simp [inlineScope, Function.comp_def]
  | false => simp [inlineScope, isBoxKey, Function.comp_def]

theorem listing_eq_rulesAlong (styles : DefaultStyles) (last : Scope) (path : List Tag) :
    listing styles last path = rulesAlong styles last path := by
  rcases path.eq_nil_or_concat with rfl | ⟨outer, tag, rfl⟩
  · rfl
  have hLength : (outer ++ [tag]).length = outer.length + 1 := List.length_append
  have hOuter : outer.mapIdx (fun i outside =>
        contributed styles (last = .own && i + 1 = (outer ++ [tag]).length) outside) =
      outer.map (rulesAt styles .inherited) := by
    apply List.ext_getElem
    · rw [List.length_mapIdx, List.length_map]
    · intro i hi _
      rw [List.length_mapIdx] at hi
      have hPlace : ¬i + 1 = (outer ++ [tag]).length := by omega
      rw [List.getElem_mapIdx, List.getElem_map, contributed_eq, decide_eq_false hPlace, Bool.and_false]
      rfl
  have hLast : contributed styles (last = .own && outer.length + 1 = (outer ++ [tag]).length) tag =
      rulesAt styles last tag := by
    rw [contributed_eq, decide_eq_true hLength.symm, Bool.and_true]
    cases last <;> rfl
  rw [List.concat_eq_append, rulesAlong_append, listing, List.mapIdx_concat, List.flatten_append, hOuter,
    hLast, List.flatMap_def, List.flatten_singleton]

theorem accumulated_mergeAll (rules : List Rule) :
    Accumulated rules (StyleMap.mergeAll ∅ rules) where
  contains_iff key := by
    rw [exists_key_iff, SortedMap.contains]
    by_cases hDecoration : key = "decoration"
    · rw [hDecoration, get?_mergeAll_decoration, SortedMap.get?_empty]
      split
      · next hNone => exact iff_of_false Bool.false_ne_true (not_not_intro hNone)
      · next hSome => exact iff_of_true rfl hSome
    · rw [get?_mergeAll hDecoration, SortedMap.get?_empty, Option.or_none, List.getLast?_isSome]
  last key hKey := by rw [get?_mergeAll hKey, SortedMap.get?_empty, Option.or_none]
  decorations hGiven := by
    rw [get?_mergeAll_decoration, if_neg (exists_key_iff.mp hGiven)]
    rfl

/-- Rules accumulate to no more than one style. -/
theorem Accumulated.unique {rules : List Rule} {style other : StyleMap} (h : Accumulated rules style)
    (h' : Accumulated rules other) : style = other := by
  apply SortedMap.ext_get?
  intro key
  by_cases hDecoration : key = "decoration"
  · subst hDecoration
    by_cases hGiven : ∃ rule ∈ rules, rule.key = "decoration"
    · rw [h.decorations hGiven, h'.decorations hGiven]
    · have hAbsent {style : StyleMap} (h : Accumulated rules style) : style.get? "decoration" = none := by
        have hNot := mt (h.contains_iff "decoration").mp hGiven
        rwa [SortedMap.contains, Option.not_isSome_iff_eq_none] at hNot
      rw [hAbsent h, hAbsent h']
  · rw [h.last key hDecoration, h'.last key hDecoration]

/-- The style that the cascade makes of nothing is the one to which the rules along the path accumulate. -/
theorem eq_cascade_iff_accumulated (styles : DefaultStyles) (last : Scope) (path : List Tag)
    (style : StyleMap) :
    style = cascade styles last path ∅ ↔ Accumulated (listing styles last path) style := by
  have hCascade : Accumulated (listing styles last path) (cascade styles last path ∅) := by
    rw [listing_eq_rulesAlong, cascade]
    exact accumulated_mergeAll (rulesAlong styles last path)
  constructor
  · rintro rfl
    exact hCascade
  · exact fun h => h.unique hCascade

/-- A link in struck red text is blue, and both struck and underlined. -/
example : (cascade .standard .own
      [{ name := "s", attrs := .ofList [("style", "color: red")] }, { name := "a" }] ∅).entries.map
        (fun entry => (entry.1, entry.2.decorations)) =
      [("color", ["blue"]), ("decoration", ["lineThrough", "underline"])] := by
  decide +kernel

end MarkupLayout.Style
