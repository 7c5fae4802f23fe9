import MarkupLayout.Proofs.Style.PropertyName
import MarkupLayout.Style.Border

/-!
# The key of a rule

Ten properties have a key of their own. The rule of any other property is plain: its key is the
property written as one word. All borders together make rules for two keys.
-/

namespace MarkupLayout.Style

/-- The key of a property that has one of its own. -/
def namedKey? (tag : Tag) : String → Option String
  | "margin" => some "margin"
  | "text-align" => some "alignment"
  | "font-weight" => some "bold"
  | "text-decoration" => some "decoration"
  | "font-style" => some "italics"
  | "font-family" => some "font"
  | "color" => some "color"
  | "background-color" => some (backgroundKey tag)
  | "text-indent" => some "leadingIndent"
  | "white-space" => some "preserveLeadingSpaces"
  | _ => none

/-- The properties that have a key of their own, with their keys. A background is a fill in cells. -/
def namedProperties : List (String × String) :=
  [("margin", "margin"), ("text-align", "alignment"), ("font-weight", "bold"),
    ("text-decoration", "decoration"), ("font-style", "italics"), ("font-family", "font"),
    ("color", "color"), ("background-color", "fillColor"), ("background-color", "background"),
    ("text-indent", "leadingIndent"), ("white-space", "preserveLeadingSpaces")]

theorem mem_namedProperties {tag : Tag} {property key : String} (h : namedKey? tag property = some key) :
    (property, key) ∈ namedProperties := by
  rw [namedKey?.eq_def] at h
  split at h
  case h_8 =>
    rw [backgroundKey] at h
    split at h <;> cases h <;> decide
  case h_11 => cases h
  all_goals
    cases h
    decide

theorem key_of_plainRule? {d : Declaration} {rule : Rule} (h : plainRule? d = some rule) :
    rule.key = camelCase d.property := by
  rw [plainRule?] at h
  split at h
  · cases h
  · exact (congrArg Rule.key (Option.some.inj h)).symm

theorem Declaration.rule?_of_unnamed {tag : Tag} {d : Declaration}
    (h : namedKey? tag d.property = none) :
    d.rule? tag = if isBorderProperty d.property then none else plainRule? d := by
  rw [rule?]
  split
  case h_11 => rfl
  all_goals
    next hProperty =>
      rw [hProperty] at h
      cases h

theorem Declaration.key_of_rule? {tag : Tag} {d : Declaration} {rule : Rule}
    (h : d.rule? tag = some rule) :
    rule.key = (namedKey? tag d.property).getD (camelCase d.property) := by
  have hNamed {key : String} {value : Value} (hProperty : namedKey? tag d.property = some key)
      (hRule : some ⟨key, value⟩ = some rule) :
      rule.key = (namedKey? tag d.property).getD (camelCase d.property) := by
    rw [hProperty, ← Option.some.inj hRule]
    rfl
  rw [rule?] at h
  split at h
  case h_1 hProperty =>
    obtain ⟨edges, -, hRule⟩ := Option.map_eq_some_iff.mp h
    exact hNamed (by rw [hProperty]; rfl) (congrArg some hRule)
  case h_9 hProperty =>
    obtain ⟨indent, -, hRule⟩ := Option.map_eq_some_iff.mp h
    exact hNamed (by rw [hProperty]; rfl) (congrArg some hRule)
  case h_11 =>
    split at h
    · cases h
    · rw [key_of_plainRule? h, namedKey?, Option.getD_none] <;> assumption
  all_goals
    next hProperty =>
      first
      | exact hNamed (by rw [hProperty]; rfl) h
      | split at h
        · exact hNamed (by rw [hProperty]; rfl) h
        · cases h

/-- The key of a rule tells its property: it is the key of a property with one of its own, or has a
capital for each hyphen. -/
theorem Declaration.named_or_hyphenated {tag : Tag} {d : Declaration} {rule : Rule}
    (hd : d ∈ declarations tag) (h : d.rule? tag = some rule) :
    (d.property, rule.key) ∈ namedProperties ∨
      namedKey? tag d.property = none ∧ d.property = String.ofList (hyphenated rule.key.toList) := by
  have hKey := d.key_of_rule? h
  cases hNamed : namedKey? tag d.property with
  | some named =>
    rw [hNamed, Option.getD_some] at hKey
    exact .inl (hKey ▸ mem_namedProperties hNamed)
  | none =>
    rw [hNamed, Option.getD_none] at hKey
    exact .inr ⟨rfl, hKey ▸ property_eq_of_camelCase hd⟩

theorem Borders.key_of_mem_rules {borders : Borders} {rule : Rule}
    (h : rule ∈ borders.flagRules ++ borders.colorRules) :
    rule.key = "border" ∨ rule.key = "borderColor" := by
  rw [flagRules, colorRules] at h
  rcases List.mem_append.mp h with h | h
  · split at h
    · rw [List.mem_singleton.mp h]
      exact .inl rfl
    · cases h
  · split at h
    · rw [List.mem_singleton.mp h]
      exact .inr rfl
    · cases h

end MarkupLayout.Style
