import Mathlib.Data.List.Induction
import MarkupLayout.Style.Defaults

/-!
# Overriding default styles

What the overrides make of the style of a tag depends on this style and on what they say to the tag, in
order. And what they make of a property there depends on its value only, or not even on that. So an
override need not be done where it is done again later, and the overrides of other tags and the order
among different tags do not count.
-/

namespace MarkupLayout

theorem Text.asciiLower_asciiLower (text : String) : asciiLower (asciiLower text) = asciiLower text := by
  rw [← asciiLower_asciiUpper, asciiUpper_asciiLower, asciiLower_asciiUpper]

namespace DefaultStyles

open Style

theorem get?_overrideProperty (style : StyleMap) (entry : String × Json) (property : String) :
    (overrideProperty style entry).get? property =
      if property = entry.1 then
        if deletesProperty entry.2 then none else some (Value.ofJson entry.1 entry.2)
      else style.get? property := by
  rw [overrideProperty]
  split
  · exact SortedMap.get?_erase ..
  · exact SortedMap.get?_insert ..

theorem foldl_overrideProperty_of_not_mem {properties : List (String × Json)} {property : String}
    (h : property ∉ properties.map (·.1)) (style : StyleMap) :
    (properties.foldl overrideProperty style).get? property = style.get? property := by
  induction properties generalizing style with
  | nil => rfl
  | cons entry rest ih =>
    obtain ⟨hEntry, hRest⟩ := List.ne_and_not_mem_of_not_mem_cons h
    rw [List.foldl_cons, ih hRest, get?_overrideProperty, if_neg hEntry]

theorem foldl_overrideProperty_congr {properties : List (String × Json)} {property : String}
    {style other : StyleMap}
    (h : property ∈ properties.map (·.1) ∨ style.get? property = other.get? property) :
    (properties.foldl overrideProperty style).get? property =
      (properties.foldl overrideProperty other).get? property := by
  induction properties generalizing style other with
  | nil => exact h.resolve_left List.not_mem_nil
  | cons entry rest ih =>
    apply ih
    by_cases hRest : property ∈ rest.map (·.1)
    · exact Or.inl hRest
    · right
      rw [get?_overrideProperty, get?_overrideProperty]
      split
      · rfl
      · next hEntry =>
        rcases h with hMem | hSame
        · exact absurd hMem (List.not_mem_cons_of_ne_of_not_mem hEntry hRest)
        · exact hSame

/-- What a value that is said to a tag makes of the style of the tag. -/
def answer (style : Option StyleMap) : Json → Option StyleMap
  | .obj properties => some (properties.foldl overrideProperty (style.getD ∅))
  | value => if deletesTag value then none else style

def mentions : Json → String → Bool
  | .obj properties, property => property ∈ properties.map (·.1)
  | _, _ => false

def valueIn (style : Option StyleMap) (property : String) : Option Value :=
  style.bind (·.get? property)

theorem answer_of_not_obj {value : Json} (h : ∀ properties, value ≠ .obj properties)
    (style : Option StyleMap) : answer style value = if deletesTag value then none else style := by
  cases value with
  | obj properties => exact absurd rfl (h properties)
  | _ => rfl

theorem mentions_of_not_obj {value : Json} (h : ∀ properties, value ≠ .obj properties)
    (property : String) : mentions value property = false := by
  cases value with
  | obj properties => exact absurd rfl (h properties)
  | _ => rfl

theorem answer_cases (value : Json) : (∃ properties, value = .obj properties) ∨
    (deletesTag value ∧ ∀ style, answer style value = none) ∨
      (∀ property, mentions value property = false) ∧ ∀ style, answer style value = style := by
  by_cases hObj : ∃ properties, value = .obj properties
  · exact Or.inl hObj
  · have hNot : ∀ properties, value ≠ .obj properties := not_exists.mp hObj
    right
    by_cases hDeletes : deletesTag value
    · exact Or.inl ⟨hDeletes, fun style => (answer_of_not_obj hNot style).trans (if_pos hDeletes)⟩
    · exact Or.inr ⟨mentions_of_not_obj hNot,
        fun style => (answer_of_not_obj hNot style).trans (if_neg hDeletes)⟩

theorem get?_getD (style : Option StyleMap) (property : String) :
    (style.getD ∅).get? property = valueIn style property := by
  cases style <;> rfl

theorem valueIn_answer_of_not_mentions {value : Json} {property : String}
    (hKept : deletesTag value = false) (h : mentions value property = false) (style : Option StyleMap) :
    valueIn (answer style value) property = valueIn style property := by
  rcases answer_cases value with ⟨properties, rfl⟩ | ⟨hDeletes, -⟩ | ⟨-, hIdle⟩
  · exact (foldl_overrideProperty_of_not_mem (of_decide_eq_false h) _).trans (get?_getD style property)
  · cases hKept.symm.trans hDeletes
  · rw [hIdle]

theorem valueIn_foldl_answer_of_not_mentions {values : List Json} {property : String}
    (h : ∀ value ∈ values, deletesTag value = false ∧ mentions value property = false)
    (style : Option StyleMap) : valueIn (values.foldl answer style) property = valueIn style property := by
  induction values generalizing style with
  | nil => rfl
  | cons value rest ih =>
    obtain ⟨⟨hKept, hSilent⟩, hRest⟩ := List.forall_mem_cons.mp h
    exact (ih hRest _).trans (valueIn_answer_of_not_mentions hKept hSilent style)

theorem valueIn_answer_congr {value : Json} {property : String} {style other : Option StyleMap}
    (h : mentions value property ∨ valueIn style property = valueIn other property) :
    valueIn (answer style value) property = valueIn (answer other value) property := by
  rcases answer_cases value with ⟨properties, rfl⟩ | ⟨-, hNone⟩ | ⟨hSilent, hIdle⟩
  · apply foldl_overrideProperty_congr
    rw [get?_getD, get?_getD]
    exact h.imp_left of_decide_eq_true
  · rw [hNone, hNone]
  · rw [hIdle, hIdle]
    exact h.resolve_left (by simp [hSilent])

theorem valueIn_foldl_answer_congr {property : String} {style other : Option StyleMap}
    (h : valueIn style property = valueIn other property) (values : List Json) :
    valueIn (values.foldl answer style) property = valueIn (values.foldl answer other) property := by
  induction values generalizing style other with
  | nil => exact h
  | cons value rest ih => exact ih (valueIn_answer_congr (Or.inr h))

/-- A value need not be said before it is said again. -/
theorem answer_foldl_answer (value : Json) (values : List Json) (style : Option StyleMap) :
    answer (values.foldl answer (answer style value)) value = answer (values.foldl answer style) value := by
  rcases answer_cases value with ⟨properties, rfl⟩ | ⟨-, hNone⟩ | ⟨-, hIdle⟩
  · apply congrArg some
    apply SortedMap.ext_get?
    intro property
    have hReset : mentions (.obj properties) property ∨
        valueIn (values.foldl answer (answer style (.obj properties))) property =
          valueIn (values.foldl answer style) property := by
      by_cases hMentions : mentions (.obj properties) property
      · exact Or.inl hMentions
      · right
        apply valueIn_foldl_answer_congr
        exact valueIn_answer_of_not_mentions rfl (Bool.eq_false_iff.mpr hMentions) style
    exact valueIn_answer_congr hReset
  · rw [hNone, hNone]
  · rw [hIdle style]

theorem foldl_answer_foldl_answer (values : List Json) (style : Option StyleMap) :
    values.foldl answer (values.foldl answer style) = values.foldl answer style := by
  induction values using List.reverseRecOn with
  | nil => rfl
  | append_singleton values value ih =>
    simp only [List.foldl_append, List.foldl_cons, List.foldl_nil]
    rw [answer_foldl_answer, ih]

/-- What the overrides say to a tag, in order. -/
def said (tag : String) (overrides : List (String × Json)) : List Json :=
  (overrides.filter fun entry => tag = Text.asciiLower entry.1).map (·.2)

theorem get?_overrideTag (styles : DefaultStyles) (entry : String × Json) (tag : String) :
    (styles.overrideTag entry).get? tag =
      if tag = Text.asciiLower entry.1 then answer (styles.get? tag) entry.2 else styles.get? tag := by
  rw [overrideTag]
  split
  · next properties hObj =>
    rw [SortedMap.get?_insert, hObj]
    split
    · next hTag => rw [hTag, answer]
    · rfl
  · next hNot =>
    rw [answer_of_not_obj hNot]
    by_cases hDeletes : deletesTag entry.2
    · rw [if_pos hDeletes, if_pos hDeletes, SortedMap.get?_erase]
    · rw [if_neg hDeletes, if_neg hDeletes, ite_self]

theorem said_cons (tag : String) (entry : String × Json) (rest : List (String × Json)) :
    said tag (entry :: rest) =
      if tag = Text.asciiLower entry.1 then entry.2 :: said tag rest else said tag rest := by
  rw [said, List.filter_cons]
  split
  · next hTag => rw [if_pos (of_decide_eq_true hTag), List.map_cons, said]
  · next hTag => rw [if_neg (mt decide_eq_true hTag), said]

/-- Tags are overridden apart from each other. -/
theorem get?_override (styles : DefaultStyles) (overrides : List (String × Json)) (tag : String) :
    (styles.override overrides).get? tag = (said tag overrides).foldl answer (styles.get? tag) := by
  induction overrides generalizing styles with
  | nil => rfl
  | cons entry rest ih =>
    have hStep : styles.override (entry :: rest) = (styles.overrideTag entry).override rest := rfl
    rw [hStep, ih, get?_overrideTag, said_cons]
    split <;> rfl

theorem exists_of_mem_said {tag : String} {overrides : List (String × Json)} {value : Json}
    (h : value ∈ said tag overrides) :
    ∃ entry ∈ overrides, entry.2 = value ∧ Text.sameIgnoringCase entry.1 tag := by
  obtain ⟨entry, hEntry, rfl⟩ := List.mem_map.mp h
  obtain ⟨hMem, hTag⟩ := List.mem_filter.mp hEntry
  refine ⟨entry, hMem, rfl, ?_⟩
  rw [of_decide_eq_true hTag, Text.sameIgnoringCase, Text.asciiLower_asciiLower]
  exact beq_self_eq_true _

theorem said_eq_of_perm {overrides other : List (String × Json)}
    (hApart : overrides.Pairwise fun a b => ¬Text.sameIgnoringCase a.1 b.1) (hPerm : overrides.Perm other)
    (tag : String) : said tag overrides = said tag other := by
  have hSwap {a b : String × Json} (h : ¬Text.sameIgnoringCase a.1 b.1) :
      ¬Text.sameIgnoringCase b.1 a.1 :=
    fun hBack => h (beq_iff_eq.mpr (beq_iff_eq.mp hBack).symm)
  have hAlone {entries : List (String × Json)}
      (h : entries.Pairwise fun a b => ¬Text.sameIgnoringCase a.1 b.1) :
      (entries.filter fun entry => tag = Text.asciiLower entry.1).Pairwise fun _ _ => False := by
    apply List.Pairwise.imp_of_mem ?_ (h.filter _)
    intro a b ha hb hNot
    have hTagA := of_decide_eq_true (List.mem_filter.mp ha).2
    have hTagB := of_decide_eq_true (List.mem_filter.mp hb).2
    exact hNot (beq_iff_eq.mpr (hTagA.symm.trans hTagB))
  have hSame := List.Perm.eq_of_pairwise (fun _ _ _ _ h _ => h.elim) (hAlone hApart)
    (hAlone ((hPerm.pairwise_iff hSwap).mp hApart)) (hPerm.filter _)
  rw [said, said, hSame]

def property? (styles : DefaultStyles) (tag property : String) : Option Value :=
  valueIn (styles.get? tag) property

theorem override_override (styles : DefaultStyles) (overrides : List (String × Json)) :
    (styles.override overrides).override overrides = styles.override overrides := by
  apply SortedMap.ext_get?
  intro tag
  rw [get?_override, get?_override, foldl_answer_foldl_answer]

theorem get?_override_of_not_named {overrides : List (String × Json)} {tag : String}
    (h : ∀ entry ∈ overrides, ¬Text.sameIgnoringCase entry.1 tag) (styles : DefaultStyles) :
    (styles.override overrides).get? tag = styles.get? tag := by
  have hNone : said tag overrides = [] := by
    apply List.eq_nil_iff_forall_not_mem.mpr
    intro value hValue
    obtain ⟨entry, hEntry, -, hNamed⟩ := exists_of_mem_said hValue
    exact h entry hEntry hNamed
  rw [get?_override, hNone, List.foldl_nil]

theorem property?_override_of_not_mentioned {overrides : List (String × Json)} {tag property : String}
    (h : ∀ entry ∈ overrides, Text.sameIgnoringCase entry.1 tag →
      deletesTag entry.2 = false ∧ mentions entry.2 property = false) (styles : DefaultStyles) :
    (styles.override overrides).property? tag property = styles.property? tag property := by
  have hSaid : ∀ value ∈ said tag overrides, deletesTag value = false ∧ mentions value property = false := by
    intro value hValue
    obtain ⟨entry, hEntry, rfl, hNamed⟩ := exists_of_mem_said hValue
    exact h entry hEntry hNamed
  rw [property?, property?, get?_override, valueIn_foldl_answer_of_not_mentions hSaid]

theorem override_eq_of_perm {overrides other : List (String × Json)}
    (hApart : overrides.Pairwise fun a b => ¬Text.sameIgnoringCase a.1 b.1) (hPerm : overrides.Perm other)
    (styles : DefaultStyles) : styles.override other = styles.override overrides := by
  apply SortedMap.ext_get?
  intro tag
  rw [get?_override, get?_override, said_eq_of_perm hApart hPerm]

/-- Overriding twice is overriding once. A tag that no key names keeps its style, and a property keeps
its value if no object that is said to the tag mentions it and no key for the tag has a value that
deletes. Overrides of different tags can be done in any order. -/
theorem override_idempotent_local_unordered (styles : DefaultStyles) (overrides : List (String × Json)) :
    (styles.override overrides).override overrides = styles.override overrides ∧
      (∀ tag, (∀ entry ∈ overrides, ¬Text.sameIgnoringCase entry.1 tag) →
        (styles.override overrides).get? tag = styles.get? tag) ∧
      (∀ tag property, (∀ entry ∈ overrides, Text.sameIgnoringCase entry.1 tag →
          deletesTag entry.2 = false ∧ mentions entry.2 property = false) →
        (styles.override overrides).property? tag property = styles.property? tag property) ∧
      ((overrides.Pairwise fun a b => ¬Text.sameIgnoringCase a.1 b.1) →
        ∀ other, overrides.Perm other → styles.override other = styles.override overrides) :=
  ⟨override_override styles overrides, fun _ h => get?_override_of_not_named h styles,
    fun _ _ h => property?_override_of_not_mentioned h styles,
    fun hApart _ hPerm => override_eq_of_perm hApart hPerm styles⟩

/-- Overrides that change a heading, drop links, and give a style to a further tag. -/
def sampleOverrides : List (String × Json) :=
  [("H1", .obj [("bold", .str ""), ("color", .str "red")]), ("a", .bool false),
    ("small", .obj [("fontSize", .int 8)])]

theorem standard_override_sampleOverrides :
    (standard.override sampleOverrides).get? "b" = standard.get? "b" ∧
      (standard.override sampleOverrides).property? "h1" "fontSize" = standard.property? "h1" "fontSize" ∧
      standard.override sampleOverrides.reverse = standard.override sampleOverrides := by
  obtain ⟨-, hUnnamed, hUnmentioned, hOrder⟩ :=
    override_idempotent_local_unordered standard sampleOverrides
  refine ⟨hUnnamed "b" ?_, hUnmentioned "h1" "fontSize" ?_,
    hOrder ?_ _ (List.reverse_perm sampleOverrides).symm⟩
  · decide +kernel
  · decide +kernel
  · decide +kernel

end DefaultStyles

end MarkupLayout
