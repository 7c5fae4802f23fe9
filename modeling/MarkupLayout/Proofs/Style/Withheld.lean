import Mathlib.Data.List.Basic
import MarkupLayout.Proofs.Style.BoxLeak
import MarkupLayout.Proofs.Style.StrayBorders

/-!
# What is withheld

Seen from inside, an element makes the same rules as for itself, in the same order, less those about its
margins, its size and the sides of its borders. Which these are can be told from the rules alone, though
their properties are left out before there are any rules: a declared property has no capitals, so that a
key begins like a margin just if its property does.
-/

namespace MarkupLayout.Style

def isMarginKey (key : String) : Bool :=
  Text.startsWith key "margin" && (key.toList.drop 6).head?.all fun c => c == '-' || c.isUpper

def isWithheldKey (key : String) : Bool :=
  isMarginKey key || key == "width" || key == "height"

def Value.isOfSides : Value → Bool
  | .sides _ => true
  | .sideColors _ => true
  | _ => false

/-- A rule that stays with the element that makes it. -/
def Rule.isWithheld (rule : Rule) : Bool :=
  isWithheldKey rule.key || rule.value.isOfSides

section Keys

variable {tag : Tag} {d : Declaration}

theorem camelCase_eq_iff (h : d ∈ declarations tag) (word : String)
    (hWord : camelCase word = word ∧ String.ofList (hyphenated word.toList) = word) :
    camelCase d.property = word ↔ d.property = word := by
  constructor
  · intro hKey
    rw [property_eq_of_camelCase h, hKey, hWord.2]
  · intro hProperty
    rw [hProperty, hWord.1]

theorem head?_camelChars_hyphen (rest : List Char) :
    (camelChars ('-' :: rest)).head?.all fun c => c == '-' || c.isUpper := by
  cases rest with
  | nil => rfl
  | cons b rest =>
    rw [camelChars]
    split
    · next hHyphen =>
      have hLetter := Text.isLower_iff.mp hHyphen.2
      have hShift := Text.toNat_toUpper hHyphen.2
      have hCapital : b.toUpper.isUpper := Text.isUpper_iff.mpr (by omega)
      simp [hCapital]
    · rfl

theorem isMarginKey_camelCase_iff (h : d ∈ declarations tag) : isMarginKey (camelCase d.property) ↔
    d.property = "margin" ∨ Text.startsWith d.property "margin-" := by
  constructor
  · intro hKey
    obtain ⟨hStart, hNext⟩ := Bool.and_eq_true_iff.mp hKey
    obtain ⟨rest, hRest⟩ := List.isPrefixOf_iff_prefix.mp hStart
    have hMargin : hyphenated "margin".toList = "margin".toList := by decide
    have hProperty : d.property = String.ofList ("margin".toList ++ hyphenated rest) := by
      rw [property_eq_of_camelCase h, ← hRest, hyphenated_append, hMargin]
    have hDrop : (camelCase d.property).toList.drop 6 = rest := by
      rw [← hRest]
      rfl
    rw [hDrop] at hNext
    cases rest with
    | nil => exact .inl (hProperty.trans (by decide))
    | cons c rest =>
      have hHyphen : ∃ others, hyphenated (c :: rest) = '-' :: others := by
        rw [hyphenated]
        split
        · exact ⟨_, rfl⟩
        · next hSmall =>
          obtain rfl : c = '-' := by simpa [hSmall] using hNext
          exact ⟨_, rfl⟩
      obtain ⟨others, hOthers⟩ := hHyphen
      refine .inr (List.isPrefixOf_iff_prefix.mpr ⟨others, ?_⟩)
      rw [hProperty, hOthers]
      exact String.toList_ofList.symm
  · rintro (hMargin | hMargin)
    · rw [hMargin]
      decide
    · obtain ⟨rest, hRest⟩ := List.isPrefixOf_iff_prefix.mp hMargin
      have hKey : (camelCase d.property).toList = "margin".toList ++ camelChars ('-' :: rest) := by
        rw [camelCase, ← hRest, String.toList_ofList]
        simp [camelChars]
      rw [isMarginKey, Text.startsWith, hKey, Bool.and_eq_true_iff]
      exact ⟨List.isPrefixOf_iff_prefix.mpr (List.prefix_append _ _), head?_camelChars_hyphen rest⟩

theorem isWithheldKey_camelCase (h : d ∈ declarations tag) :
    isWithheldKey (camelCase d.property) = isBoxProperty d.property := by
  rw [Bool.eq_iff_iff, isWithheldKey, isBoxProperty]
  simp only [Bool.or_eq_true, beq_iff_eq, isMarginKey_camelCase_iff h,
    camelCase_eq_iff h "width" (by decide), camelCase_eq_iff h "height" (by decide)]

theorem isWithheldKey_of_named {property key : String} (h : namedKey? tag property = some key) :
    isWithheldKey key = isBoxProperty property := by
  have hNamed : ∀ named ∈ namedProperties, isWithheldKey named.2 = isBoxProperty named.1 := by decide
  exact hNamed (property, key) (mem_namedProperties h)

end Keys

section Rules

variable {tag : Tag} {d : Declaration} {rule : Rule}

theorem isOfSides_of_plainRule? (h : plainRule? d = some rule) : rule.value.isOfSides = false := by
  rw [plainRule?] at h
  split at h
  · cases h
  · rw [← Option.some.inj h]
    cases length? d.value <;> rfl

theorem Declaration.isOfSides_of_rule? (h : d.rule? tag = some rule) : rule.value.isOfSides = false := by
  rw [rule?] at h
  split at h
  case h_1 =>
    obtain ⟨edges, -, rfl⟩ := Option.map_eq_some_iff.mp h
    rfl
  case h_9 =>
    obtain ⟨indent, -, rfl⟩ := Option.map_eq_some_iff.mp h
    rfl
  case h_11 =>
    split at h
    · cases h
    · exact isOfSides_of_plainRule? h
  all_goals
    first
    | obtain rfl := Option.some.inj h
      rfl
    | split at h
      · obtain rfl := Option.some.inj h
        rfl
      · cases h

/-- Whether the rule of a declaration is withheld, its property tells. -/
theorem Declaration.isWithheld_of_rule? (hd : d ∈ declarations tag) (h : d.rule? tag = some rule) :
    rule.isWithheld = isBoxProperty d.property := by
  rw [Rule.isWithheld, d.isOfSides_of_rule? h, Bool.or_false, d.key_of_rule? h]
  cases hNamed : namedKey? tag d.property with
  | none => exact isWithheldKey_camelCase hd
  | some key => exact isWithheldKey_of_named hNamed

theorem isWithheld_of_mem_sideRules {ds : List Declaration} (h : rule ∈ sideRules ds) :
    rule.isWithheld := by
  have hSides : rule.value.isOfSides := by
    rw [sideRules] at h
    rcases List.mem_append.mp h with h | h
    · obtain ⟨flags, -, rfl⟩ := Option.map_eq_some_iff.mp (Option.mem_toList.mp h)
      rfl
    · obtain ⟨colors, -, rfl⟩ := Option.map_eq_some_iff.mp (Option.mem_toList.mp h)
      rfl
  rw [Rule.isWithheld, hSides, Bool.or_true]

theorem ruleIn?_inherited (hd : d ∈ declarations tag) :
    d.ruleIn? .inherited tag = (d.rule? tag).filter fun rule => !rule.isWithheld := by
  rw [Declaration.ruleIn?]
  cases hRule : d.rule? tag with
  | none => rw [ite_self, Option.filter_none]
  | some rule =>
    rw [Option.filter_some, d.isWithheld_of_rule? hd hRule]
    cases isBoxProperty d.property <;> simp

/-- From inside, an element has the rules that it has for itself, less those that are withheld. -/
theorem rules_inherited_eq_filter (tag : Tag) :
    rules .inherited tag = (rules .own tag).filter fun rule => !rule.isWithheld := by
  have hSides : (sideRules (declarations tag)).filter (fun rule => !rule.isWithheld) = [] := by
    rw [List.filter_eq_nil_iff]
    intro rule hRule
    rw [isWithheld_of_mem_sideRules hRule]
    decide
  rw [rules_own, List.filter_append, hSides, List.append_nil, List.filter_filterMap, rules,
    List.append_nil]
  exact List.filterMap_congr fun d hd => ruleIn?_inherited hd

end Rules

end MarkupLayout.Style
