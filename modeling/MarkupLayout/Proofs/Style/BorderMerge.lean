import Mathlib.Data.List.Basic
import MarkupLayout.Proofs.Style.StrayBorders

/-!
# Merged borders

A declaration about borders speaks of one side or of all of them, and gives it a flag, a color, both
or neither. Where only such declarations begin like a border, each side comes out with the last flag
and the last color that it is given, whatever the order of shorthands and longhands, and the rules
about borders stand behind all others.
-/

namespace MarkupLayout.Style

def Side.name : Side → String
  | .left => "left"
  | .top => "top"
  | .right => "right"
  | .bottom => "bottom"

/-- A property of one side alone; the ending tells the width, the style and the color apart. -/
def Side.property (side : Side) (ending : String) : String :=
  "border-" ++ side.name ++ ending

def Side.shorthands (side : Side) : List String :=
  ["border", side.property "", side.property "-width"]

/-- The flag that a declaration gives a side. -/
def Side.flag? (side : Side) (d : Declaration) : Option Bool :=
  if d.property ∈ side.shorthands then some ((Text.words d.value.toList).head?.any isVisibleWidth)
  else if d.property = side.property "-style" ∧ (d.value = "none" ∨ d.value = "hidden") then some false
  else none

def thirdOn? (value : String) : Option String :=
  let words := Text.words value.toList
  if 2 < words.length then some (color (String.ofList ([' '].intercalate (words.drop 2)))) else none

/-- The color that a declaration gives a side. -/
def Side.color? (side : Side) (d : Declaration) : Option String :=
  if d.property = side.property "-color" then some (color d.value)
  else if d.property ∈ side.shorthands then thirdOn? d.value
  else none

/-- What comes of the values that the sides are given: nothing if no side is given any, and else for
each side the last one, or the fallback. -/
structure Merged {α : Type} (given : Side → List α) (fallback : α) (sides : Option (Sides α)) : Prop where
  isSome_iff : sides.isSome ↔ ∃ side, given side ≠ []
  last : ∀ shown, sides = some shown → ∀ side, Side.pick shown side = (given side).getLast?.getD fallback

section Names

variable {property : String}

theorem read_of_mem (h : property ∈ borderProperties) (side : Side) :
    (property ∈ side.shorthands ↔ (Side.ofProperty? property).all (· = side) ∧
      ¬Text.endsWith property "-color" ∧ ¬Text.endsWith property "-style") ∧
    (property = side.property "-style" ↔ (Side.ofProperty? property).all (· = side) ∧
      ¬Text.endsWith property "-color" ∧ Text.endsWith property "-style") ∧
    (property = side.property "-color" ↔ (Side.ofProperty? property).all (· = side) ∧
      Text.endsWith property "-color") := by
  revert property
  cases side <;> decide +kernel

theorem border_of_mem (h : property ∈ borderProperties) :
    Text.startsWith property "border" ∧ isBorderProperty property := by
  revert property
  decide +kernel

theorem properties_mem (side : Side) : side.property "-color" ∈ borderProperties ∧
    side.property "-style" ∈ borderProperties ∧ ∀ name ∈ side.shorthands, name ∈ borderProperties := by
  cases side <;> decide +kernel

theorem startsWith_border (h : isBorderProperty property) : Text.startsWith property "border" := by
  rw [isBorderProperty, Bool.or_eq_true, beq_iff_eq, List.any_eq_true] at h
  rcases h with rfl | ⟨start, hStart, hPrefix⟩
  · decide
  · have hBorder : ∀ start ∈ ["border-left", "border-top", "border-right", "border-bottom"],
        "border".toList <+: start.toList := by
      decide
    have hProperty : start.toList <+: property.toList := List.isPrefixOf_iff_prefix.mp hPrefix
    exact List.isPrefixOf_iff_prefix.mpr ((hBorder start hStart).trans hProperty)

end Names

section Given

variable {ds : List Declaration} {d : Declaration} {side : Side}

theorem Side.flag?_of_mem (h : d.property ∈ borderProperties) :
    side.flag? d = if d.means side then d.borderFlag? else none := by
  obtain ⟨hShorthand, hStyle, -⟩ := read_of_mem h side
  rw [flag?, Declaration.borderFlag?, Declaration.means]
  simp only [hShorthand, hStyle]
  cases (Side.ofProperty? d.property).all (· = side) <;> cases Text.endsWith d.property "-color" <;>
    cases Text.endsWith d.property "-style" <;> simp

theorem borderColor?_eq (d : Declaration) : d.borderColor? =
    if Text.endsWith d.property "-color" then some (color d.value)
    else if Text.endsWith d.property "-style" then none else thirdOn? d.value := by
  rw [Declaration.borderColor?, thirdOn?]
  cases hThird : (Text.words d.value.toList).drop 2 with
  | nil =>
    have hFew : ¬2 < (Text.words d.value.toList).length := by simpa using hThird
    rw [if_neg hFew]
  | cons word words =>
    have hMany : 2 < (Text.words d.value.toList).length := by
      have hLength := congrArg List.length hThird
      rw [List.length_drop, List.length_cons] at hLength
      omega
    rw [if_pos hMany]

theorem Side.color?_of_mem (h : d.property ∈ borderProperties) :
    side.color? d = if d.means side then d.borderColor? else none := by
  obtain ⟨hShorthand, -, hColor⟩ := read_of_mem h side
  rw [color?, borderColor?_eq, Declaration.means]
  simp only [hShorthand, hColor]
  cases (Side.ofProperty? d.property).all (· = side) <;> cases Text.endsWith d.property "-color" <;>
    cases Text.endsWith d.property "-style" <;> simp

theorem Side.eq_none_of_not (h : ¬Text.startsWith d.property "border") :
    side.flag? d = none ∧ side.color? d = none := by
  obtain ⟨hColor, hStyle, hShorthands⟩ := properties_mem side
  have hNot {property : String} (hMem : property ∈ borderProperties) : d.property ≠ property := by
    rintro rfl
    exact h (border_of_mem hMem).1
  have hShorthand : d.property ∉ side.shorthands := fun hMem => hNot (hShorthands _ hMem) rfl
  rw [flag?, color?, if_neg hShorthand, if_neg (fun hBoth => hNot hStyle hBoth.1), if_neg (hNot hColor),
    if_neg hShorthand]
  exact ⟨rfl, rfl⟩

theorem given_eq_filterMap {α : Type} {value? : Declaration → Option α}
    {given? : Side → Declaration → Option α}
    (hNames : ∀ d ∈ ds, Text.startsWith d.property "border" → d.property ∈ borderProperties)
    (hMem : ∀ d side, d.property ∈ borderProperties →
      given? side d = if d.means side then value? d else none)
    (hNot : ∀ d side, ¬Text.startsWith d.property "border" → given? side d = none) :
    given value? side ds = ds.filterMap (given? side) := by
  apply List.filterMap_congr
  intro d hd
  by_cases hBorder : Text.startsWith d.property "border"
  · have hName := hNames d hd hBorder
    rw [hMem d side hName]
    simp only [(border_of_mem hName).2, true_and]
  · rw [hNot d side hBorder, if_neg fun h => hBorder (startsWith_border h.1)]

theorem merged_shown? {α : Type} (value? : Declaration → Option α) (fallback : α) :
    Merged (given value? · ds) fallback (shown? value? fallback ds) where
  isSome_iff := by
    rw [← any_latest, shown?]
    split
    · next hAny => exact iff_of_true rfl hAny
    · next hNone => exact iff_of_false Bool.false_ne_true hNone
  last shown hShown side := by
    rw [shown?] at hShown
    split at hShown
    · rw [← Option.some.inj hShown, Side.pick_map, pick_latest]
    · cases hShown

end Given

theorem isOfBorder_eq_false {tag : Tag} (hNames : ∀ d ∈ declarations tag,
      Text.startsWith d.property "border" → d.property ∈ borderProperties) {rule : Rule}
    (h : rule ∈ (declarations tag).filterMap (·.rule? tag)) : rule.isOfBorder = false := by
  obtain ⟨d, hd, hRule⟩ := List.mem_filterMap.mp h
  have hOwn : ownRules tag [d] = [] := by
    rw [ownRules_singleton_eq_nil_iff hd]
    rintro ⟨hProperty, -⟩
    have hName := hNames d hd (by rw [hProperty]; decide)
    rw [hProperty] at hName
    exact absurd hName (by decide)
  rw [ownRules, List.filterMap_cons_some hRule, List.filterMap_nil, List.filter_eq_nil_iff] at hOwn
  exact Bool.eq_false_iff.mpr (hOwn rule (List.mem_singleton_self rule))

/-- The rules of an element end with those about its borders, which are merged side by side. -/
theorem rules_own_merged (tag : Tag) (hNames : ∀ d ∈ declarations tag,
      Text.startsWith d.property "border" → d.property ∈ borderProperties) :
    ∃ others flags colors,
      rules .own tag = others ++ (flags.map fun flags => ⟨"border", .sides flags⟩).toList ++
        (colors.map fun colors => ⟨"borderColor", .sideColors colors⟩).toList ∧
      (∀ rule ∈ others, rule.key ≠ "border" ∧ rule.key ≠ "borderColor") ∧
      Merged (fun side => (declarations tag).filterMap side.flag?) true flags ∧
      Merged (fun side => (declarations tag).filterMap side.color?) "#000000" colors := by
  have hFlags (side : Side) :
      given Declaration.borderFlag? side (declarations tag) = (declarations tag).filterMap side.flag? :=
    given_eq_filterMap hNames (fun _ _ h => Side.flag?_of_mem h) fun _ _ h => (Side.eq_none_of_not h).1
  have hColors (side : Side) :
      given Declaration.borderColor? side (declarations tag) = (declarations tag).filterMap side.color? :=
    given_eq_filterMap hNames (fun _ _ h => Side.color?_of_mem h) fun _ _ h => (Side.eq_none_of_not h).2
  refine ⟨(declarations tag).filterMap (·.rule? tag), shown? Declaration.borderFlag? true (declarations tag),
    shown? Declaration.borderColor? "#000000" (declarations tag), ?_, ?_, ?_, ?_⟩
  · rw [rules_own, sideRules, List.append_assoc]
  · intro rule hRule
    have hOther := isOfBorder_eq_false hNames hRule
    simpa [Rule.isOfBorder] using hOther
  · simp only [← hFlags]
    exact merged_shown? Declaration.borderFlag? true
  · simp only [← hColors]
    exact merged_shown? Declaration.borderColor? "#000000"

def mixedFrame : Tag where
  name := "TD"
  attrs := .ofList [("style", "Border-Left: none solid rgb(255,0,0); color: red; border-top: 1px: red; " ++
    "border-bottom-style: hidden; border-left-color: blue; border-right: 1.5px solid")]

/-- The later color counts on the left, and the sides without a flag have a border. -/
theorem mixedFrame_merged : (∀ d ∈ declarations mixedFrame,
      Text.startsWith d.property "border" → d.property ∈ borderProperties) ∧
    ∃ others, rules .own mixedFrame = others ++ [⟨"border", .sides ⟨false, true, true, false⟩⟩,
        ⟨"borderColor", .sideColors ⟨"blue", "#000000", "#000000", "#000000"⟩⟩] ∧
      ∀ rule ∈ others, rule.key ≠ "border" ∧ rule.key ≠ "borderColor" := by
  have hDeclared : declarations mixedFrame = [⟨"border-left", "none solid rgb(255,0,0)"⟩, ⟨"color", "red"⟩,
      ⟨"border-bottom-style", "hidden"⟩, ⟨"border-left-color", "blue"⟩,
      ⟨"border-right", "1.5px solid"⟩] := by
    decide +kernel
  have hNames : ∀ d ∈ declarations mixedFrame,
      Text.startsWith d.property "border" → d.property ∈ borderProperties := by
    rw [hDeclared]
    decide +kernel
  obtain ⟨others, flags, colors, hRules, hOthers, hFlags, hColors⟩ := rules_own_merged mixedFrame hNames
  rw [hDeclared] at hFlags hColors
  obtain ⟨shownFlags, rfl⟩ := Option.isSome_iff_exists.mp
    (hFlags.isSome_iff.mpr ⟨.left, by decide +kernel⟩)
  obtain ⟨shownColors, rfl⟩ := Option.isSome_iff_exists.mp
    (hColors.isSome_iff.mpr ⟨.left, by decide +kernel⟩)
  have hShownFlags : shownFlags = ⟨false, true, true, false⟩ := by
    apply Side.pick_ext
    intro side
    rw [hFlags.last shownFlags rfl side]
    cases side <;> decide +kernel
  have hShownColors : shownColors = ⟨"blue", "#000000", "#000000", "#000000"⟩ := by
    apply Side.pick_ext
    intro side
    rw [hColors.last shownColors rfl side]
    cases side <;> decide +kernel
  refine ⟨hNames, others, ?_, hOthers⟩
  rw [hRules, hShownFlags, hShownColors, List.append_assoc]
  rfl

end MarkupLayout.Style
