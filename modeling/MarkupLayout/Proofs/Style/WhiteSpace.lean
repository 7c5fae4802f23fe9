import Mathlib.Data.List.Basic
import MarkupLayout.Proofs.Style.LastRule

/-!
# Two ways to decide on newlines

Whether running text keeps its newlines is decided twice: before the text is cleaned by the first
declaration of an element, from the inside out, and in the style of the text by the last one. The
two agree exactly when the innermost element that declares anything about it does so unanimously.
-/

namespace MarkupLayout.Style

def spacingKey : String := "preserveLeadingSpaces"

/-- What a declaration says about keeping spaces. The name of the key is a property, too, but one
that gives no flag. -/
def Declaration.spacing? (d : Declaration) : Option Value :=
  match d.property with
  | "white-space" => some (.flag (d.value == "break-spaces" || Text.startsWith d.value "pre"))
  | "preserve-leading-spaces" =>
    if d.value = "" then none else some (((length? d.value).map Value.number).getD (.text d.value))
  | _ => none

def spacings (tag : Tag) : List Value :=
  (declarations tag).filterMap Declaration.spacing?

/-- The flag of the innermost tag whose first declaration is one; tags come from the inside out. -/
def firstFlag? (tags : List Tag) : Option Bool :=
  tags.findSome? fun tag => (spacings tag).head?.bind Value.flag?

/-- The innermost tag that declares anything about spaces ends with the flag that the first
declarations decide for. Tags come from the inside out. -/
def Unanimous : List Tag → Prop
  | [] => True
  | tag :: outer =>
    match (spacings tag).getLast? with
    | none => Unanimous outer
    | some last => last = .flag true ↔ firstFlag? (tag :: outer) = some true

theorem spacing?_eq_none {d : Declaration} (hSpace : d.property ≠ "white-space")
    (hKey : d.property ≠ "preserve-leading-spaces") : d.spacing? = none := by
  rw [Declaration.spacing?]
  split
  · next h => exact absurd h hSpace
  · next h => exact absurd h hKey
  · rfl

theorem key_ne_of_rule? {tag : Tag} {d : Declaration} {rule : Rule} (h : d ∈ declarations tag)
    (hSpace : d.property ≠ "white-space") (hKey : d.property ≠ "preserve-leading-spaces")
    (hRule : d.rule? tag = some rule) : rule.key ≠ spacingKey := by
  intro hSpacing
  rcases d.named_or_hyphenated h hRule with hNamed | ⟨-, hProperty⟩
  · have hOnly : ∀ named ∈ namedProperties, named.2 = spacingKey → named.1 = "white-space" := by decide
    exact hSpace (hOnly _ hNamed hSpacing)
  · rw [hSpacing] at hProperty
    exact hKey (hProperty.trans (by decide))

theorem filter_plainRule? {d : Declaration} (hKey : d.property = "preserve-leading-spaces") :
    ((plainRule? d).filter (·.key = spacingKey)).map Rule.value = d.spacing? := by
  have hPadding : Text.startsWith "preserve-leading-spaces" "padding" = false := by decide
  have hCamel : camelCase "preserve-leading-spaces" = spacingKey := by decide
  have hSpacing : d.spacing? = if d.value = "" then none else
      some (((length? d.value).map Value.number).getD (.text d.value)) := by
    rw [Declaration.spacing?, hKey]
    rfl
  rw [plainRule?, hSpacing, hKey, hPadding, hCamel, Bool.false_or]
  by_cases hValue : d.value = ""
  · rw [hValue]
    rfl
  · rw [if_neg (by simpa using hValue), Option.filter_some, if_pos (decide_eq_true rfl), if_neg hValue,
      Option.map_some]

theorem filter_ruleIn? {scope : Scope} {tag : Tag} {d : Declaration} (h : d ∈ declarations tag) :
    ((d.ruleIn? scope tag).filter (·.key = spacingKey)).map Rule.value = d.spacing? := by
  by_cases hSpace : d.property = "white-space"
  · rw [Declaration.ruleIn?, hSpace, if_neg (fun h => absurd h.2 (by decide)), Declaration.rule?,
      hSpace, Declaration.spacing?, hSpace]
    rfl
  by_cases hKey : d.property = "preserve-leading-spaces"
  · have hRule : d.rule? tag = plainRule? d := by
      rw [Declaration.rule?, hKey]
      exact if_neg (by decide)
    rw [Declaration.ruleIn?, hKey, if_neg (fun h => absurd h.2 (by decide)), hRule]
    exact filter_plainRule? hKey
  rw [spacing?_eq_none hSpace hKey, Option.map_eq_none_iff, Option.filter_eq_none_iff]
  intro rule hRule
  rw [Declaration.ruleIn?] at hRule
  split at hRule
  · cases hRule
  · simpa using key_ne_of_rule? h hSpace hKey hRule

theorem valuesOf_rules (scope : Scope) (tag : Tag) :
    valuesOf spacingKey (rules scope tag) = spacings tag := by
  rw [valuesOf_rules_of_not_border (by decide), valuesOf_filterMap, spacings]
  exact List.filterMap_congr fun d h => filter_ruleIn? h

theorem standard_lacks_spacing : ∀ entry ∈ DefaultStyles.standard.entries,
    ∀ property ∈ entry.2.entries, property.1 ≠ spacingKey := by
  decide +kernel

theorem valuesOf_defaultRules (scope : Scope) (tag : Tag) :
    valuesOf spacingKey (defaultRules .standard scope tag) = [] := by
  apply valuesOf_eq_nil
  intro rule hRule
  obtain ⟨⟨entry, hEntry, hMem⟩, -⟩ := entries_of_mem_defaultRules hRule
  exact standard_lacks_spacing entry hEntry _ hMem

theorem valuesOf_rulesAt (scope : Scope) (tag : Tag) :
    valuesOf spacingKey (rulesAt .standard scope tag) = spacings tag := by
  rw [rulesAt, valuesOf_append, valuesOf_defaultRules, List.nil_append, valuesOf_rules]

theorem preservesSpaces_iff (path : List Tag) :
    preservesSpaces path ↔ firstFlag? path.reverse = some true := by
  have hDeclared (tag : Tag) : ((rules .inherited tag).find? (·.key = spacingKey)).bind
      (·.value.flag?) = (spacings tag).head?.bind Value.flag? := by
    rw [← valuesOf_rules .inherited, ← find?_key, Option.bind_map]
    rfl
  have hFirst : (path.reverse.findSome? fun tag => ((rules .inherited tag).find?
      (·.key = spacingKey)).bind (·.value.flag?)) = firstFlag? path.reverse := by
    simp only [hDeclared, firstFlag?]
  have hFlag (flag : Option Bool) : flag.getD false = true ↔ flag = some true := by
    cases flag <;> simp
  rw [← hFirst]
  exact hFlag _

theorem get?_spacing (path : List Tag) :
    (cascade .standard .inherited path ∅).get? spacingKey =
      path.reverse.findSome? fun tag => (spacings tag).getLast? := by
  rw [get?_cascade_inherited (by decide), List.getLast?_flatMap]
  simp only [valuesOf_rulesAt]

theorem agree_iff_unanimous (tags : List Tag) :
    (firstFlag? tags = some true ↔
      (tags.findSome? fun tag => (spacings tag).getLast?) = some (.flag true)) ↔ Unanimous tags := by
  induction tags with
  | nil => exact iff_of_true (iff_of_false nofun nofun) trivial
  | cons tag outer ih =>
    rw [Unanimous, List.findSome?_cons]
    cases hLast : (spacings tag).getLast? with
    | none =>
      have hFirst : firstFlag? (tag :: outer) = firstFlag? outer := by
        rw [firstFlag?, List.findSome?_cons, List.getLast?_eq_none_iff.mp hLast]
        rfl
      rw [hFirst]
      exact ih
    | some last =>
      simp only [Option.some.injEq]
      exact iff_comm

/-- Cleaning and styling of a text agree exactly when the innermost element that declares anything
about spaces is of one mind with the decision of the first declarations. -/
theorem preservesSpaces_agrees_iff_unanimous (path : List Tag) :
    (preservesSpaces path = true ↔
      (cascade .standard .inherited path ∅).get? "preserveLeadingSpaces" = some (.flag true)) ↔
    Unanimous path.reverse := by
  rw [preservesSpaces_iff, ← spacingKey, get?_spacing]
  exact agree_iff_unanimous path.reverse

def twiceDeclared : Tag where
  name := "div"
  attrs := .ofList [("style", "white-space: pre; white-space: normal")]

/-- Its text is cleaned as if newlines counted, and styled as if they did not. -/
theorem twiceDeclared_disagrees : preservesSpaces [twiceDeclared] = true ∧
    (cascade .standard .inherited [twiceDeclared] ∅).get? "preserveLeadingSpaces" ≠
      some (.flag true) := by
  have hLast : ((cascade .standard .inherited [twiceDeclared] ∅).get? "preserveLeadingSpaces").bind
      Value.flag? = some false := by
    decide +kernel
  refine ⟨by decide +kernel, fun hFlag => ?_⟩
  rw [hFlag] at hLast
  cases hLast

end MarkupLayout.Style
