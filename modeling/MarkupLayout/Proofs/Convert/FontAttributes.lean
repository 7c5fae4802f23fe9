import MarkupLayout.Proofs.Convert.FontSize
import MarkupLayout.Proofs.Style.PassedOn

/-!
# Font attributes

A font element may give its color and its size by attributes. They enter its style before the cascade, so
they give way to what any tag on its path declares or has by default: the last such value counts, and the
attribute only where there is none.
-/

namespace MarkupLayout.Convert

open Style

/-- What a font element may give by an attribute. -/
inductive FontTrait where
  | color
  | size

namespace FontTrait

def key : FontTrait → String
  | color => "color"
  | size => "fontSize"

def property : FontTrait → String
  | color => "color"
  | size => "font-size"

def attribute? (fonts : FontLadder) (tag : Tag) : FontTrait → Option Value
  | color => (tag.present? "color").map fun color => .text (Style.color color)
  | size => ((tag.present? "size").bind FontLadder.attrSize?).map fun n => .number (fonts.size n)

theorem isPassedOn_key (trait : FontTrait) : isPassedOn trait.key ∧ trait.key ≠ "decoration" := by
  cases trait <;> decide

theorem get?_fontStyle (d : Design) (tag : Tag) (trait : FontTrait) :
    (d.fontStyle tag).get? trait.key = trait.attribute? d.fonts tag := by
  cases trait with
  | color => exact d.get?_fontStyle_color tag
  | size => exact d.get?_fontStyle_size tag

section Rules

variable {tag : Tag} {trait : FontTrait}

theorem property_of_rule? {d : Declaration} (hd : d ∈ declarations tag) {rule : Rule}
    (hRule : d.rule? tag = some rule) (hKey : rule.key = trait.key) : d.property = trait.property := by
  rcases d.named_or_hyphenated hd hRule with hNamed | ⟨-, hProperty⟩
  · have hOnly : ∀ named ∈ namedProperties, named.2 = trait.key → named.1 = trait.property := by
      cases trait <;> decide
    exact hOnly _ hNamed hKey
  · rw [hProperty, hKey]
    cases trait <;> decide

theorem valuesOf_rules_eq_nil (hOwn : ∀ d ∈ declarations tag, d.property ≠ trait.property) :
    valuesOf trait.key ((declarations tag).filterMap (·.rule? tag)) = [] := by
  apply valuesOf_eq_nil
  intro rule hMem hKey
  obtain ⟨d, hd, hRule⟩ := List.mem_filterMap.mp hMem
  exact hOwn d hd (property_of_rule? hd hRule hKey)

theorem passedValues_font (hFont : tag.kind = "font")
    (hOwn : ∀ d ∈ declarations tag, d.property ≠ trait.property) :
    passedValues .standard trait.key tag = [] := by
  have hNone : DefaultStyles.standard.get? "font" = none := by
    rw [← Option.isNone_iff_eq_none]
    decide +kernel
  rw [passedValues, hFont, hNone, valuesOf_rules_eq_nil hOwn]
  rfl

end Rules

end FontTrait

section Draft

variable (d : Design) (outer : List Element) {tag : Tag} {depth : Nat} (children : List Markup)

theorem Design.draft_font (hFont : tag.kind = "font") (hDepth : depth ≤ d.maxDepth) :
    ∃ n, (d.draft outer depth (.element tag children)).1 = .ok (some n) ∧
      n.frame.style = cascade d.styles .own (tags outer ++ [tag]) (d.fontStyle tag) := by
  have hKind : Kind.of tag = .font := by
    rw [Kind.of, hFont]
    rfl
  rw [draft, if_neg (Nat.not_lt.mpr hDepth)]
  simp only [hKind, assemble]
  exact ⟨_, rfl, rfl⟩

theorem Design.get?_style_font (hStyles : d.styles = .standard) (hFont : tag.kind = "font")
    {trait : FontTrait} (hOwn : ∀ declared ∈ declarations tag, declared.property ≠ trait.property) :
    (cascade d.styles .own (tags outer ++ [tag]) (d.fontStyle tag)).get? trait.key =
      ((tags outer).flatMap (passedValues .standard trait.key)).getLast?.or
        (trait.attribute? d.fonts tag) := by
  obtain ⟨hKey, hDecoration⟩ := trait.isPassedOn_key
  rw [get?_cascade_passedOn hKey hDecoration, FontTrait.get?_fontStyle, List.flatMap_append,
    List.flatMap_singleton, hStyles, FontTrait.passedValues_font hFont hOwn, List.append_nil]

/-- The color and the size that a font element has by its attributes give way to all values that the tags
around it give, and the last of these counts. -/
theorem Design.draft_font_attributes (hStyles : d.styles = .standard) (hFont : tag.kind = "font")
    (hDepth : depth ≤ d.maxDepth) (hOwn : ∀ declared ∈ declarations tag,
      declared.property ≠ "color" ∧ declared.property ≠ "font-size") :
    ∃ n, (d.draft outer depth (.element tag children)).1 = .ok (some n) ∧
      (∀ color, tag.attr? "color" = some color → color ≠ "" →
        n.frame.style.get? "color" = ((tags outer).flatMap (passedValues .standard "color")).getLast?.or
          (some (.text (Style.color color)))) ∧
      ∀ text size, tag.attr? "size" = some text → FontLadder.attrSize? text = some size →
        n.frame.style.get? "fontSize" =
          ((tags outer).flatMap (passedValues .standard "fontSize")).getLast?.or
            (some (.number (d.fonts.sizes.get (FontLadder.step size)))) := by
  obtain ⟨n, hDrafted, hStyle⟩ := d.draft_font outer children hFont hDepth
  refine ⟨n, hDrafted, ?_, ?_⟩
  · intro color hColor hSome
    have hAttribute : FontTrait.color.attribute? d.fonts tag = some (.text (Style.color color)) := by
      rw [FontTrait.attribute?, Tag.present?, hColor, Option.filter_some, if_pos (decide_eq_true hSome)]
      rfl
    have hUndeclared : ∀ declared ∈ declarations tag, declared.property ≠ FontTrait.color.property :=
      fun declared h => (hOwn declared h).1
    rw [hStyle, ← hAttribute]
    exact d.get?_style_font outer hStyles hFont hUndeclared
  · intro text size hText hSize
    have hAttribute : FontTrait.size.attribute? d.fonts tag =
        some (.number (d.fonts.sizes.get (FontLadder.step size))) := by
      rw [FontTrait.attribute?, bind_attrSize? hText, hSize, Option.map_some, FontLadder.size_eq]
    have hUndeclared : ∀ declared ∈ declarations tag, declared.property ≠ FontTrait.size.property :=
      fun declared h => (hOwn declared h).2
    rw [hStyle, ← hAttribute]
    exact d.get?_style_font outer hStyles hFont hUndeclared

end Draft

def redFont : Tag where
  name := "font"
  attrs := .ofList [("color", "red"), ("size", "+5"), ("style", "font-style: italic")]

def greenLink : List Element :=
  [{ tag := { name := "div", attrs := .ofList [("style", "color: green; background-color: white")] }
     children := [.element { name := "A" } [.element redFont [.text "x"]]] },
    { tag := { name := "A" }, children := [.element redFont [.text "x"]] }]

/-- The link gives its own color, and nothing gives a font size but the attribute. -/
theorem greenLink_redFont : plainConverter.design.styles = .standard ∧ redFont.kind = "font" ∧
    2 ≤ plainConverter.design.maxDepth ∧ (∀ declared ∈ declarations redFont,
      declared.property ≠ "color" ∧ declared.property ≠ "font-size") ∧
    ∃ n, (plainConverter.design.draft greenLink 2 (.element redFont [.text "x"])).1 = .ok (some n) ∧
      n.frame.style.text? "color" = some "blue" ∧
      n.frame.style.get? "fontSize" = some (.number (plainConverter.design.fonts.sizes.get 4)) := by
  have hFont : redFont.kind = "font" := by decide
  have hDepth : 2 ≤ plainConverter.design.maxDepth := by decide
  have hOwn : ∀ declared ∈ declarations redFont,
      declared.property ≠ "color" ∧ declared.property ≠ "font-size" := by
    decide +kernel
  obtain ⟨n, hDrafted, hColor, hSize⟩ :=
    plainConverter.design.draft_font_attributes greenLink [.text "x"] rfl hFont hDepth hOwn
  have hBlue : ((tags greenLink).flatMap (passedValues .standard "color")).getLast?.bind Value.text? =
      some "blue" := by
    decide +kernel
  have hUnsized : ((tags greenLink).flatMap (passedValues .standard "fontSize")).getLast? = none := by
    rw [← Option.isNone_iff_eq_none]
    decide +kernel
  refine ⟨rfl, hFont, hDepth, hOwn, n, hDrafted, ?_, ?_⟩
  · obtain ⟨value, hLast, hText⟩ := Option.bind_eq_some_iff.mp hBlue
    rw [StyleMap.text?, hColor "red" (by decide) (by decide), hLast]
    exact hText
  · rw [hSize "+5" 5 (by decide) (by decide), hUnsized]
    rfl

def blueFont : Tag where
  name := "font"
  attrs := .ofList [("color", "blue")]

def redDivision : Element where
  tag := { name := "div", attrs := .ofList [("style", "color: red")] }
  children := [.element blueFont [.text "x"]]

/-- What a division declares beats the attribute of a font element in it. -/
theorem redDivision_beats_blueFont : blueFont.kind = "font" ∧ declarations blueFont = [] ∧
    blueFont.attr? "color" = some "blue" ∧
    ∃ n, (plainConverter.design.draft [redDivision] 2 (.element blueFont [.text "x"])).1 = .ok (some n) ∧
      n.frame.style.get? "color" ≠ some (.text (Style.color "blue")) := by
  have hFont : blueFont.kind = "font" := by decide
  have hDepth : 2 ≤ plainConverter.design.maxDepth := by decide
  obtain ⟨n, hDrafted, hStyle⟩ := plainConverter.design.draft_font [redDivision] [.text "x"] hFont hDepth
  refine ⟨hFont, by decide +kernel, by decide, n, hDrafted, ?_⟩
  have hRed : (n.frame.style.get? "color").bind Value.text? = some "red" := by
    rw [hStyle]
    decide +kernel
  intro hBlue
  rw [hBlue] at hRed
  exact absurd hRed (by decide +kernel)

end MarkupLayout.Convert
