import MarkupLayout.Proofs.Number.Digits
import MarkupLayout.Proofs.Text.Fields
import MarkupLayout.Style.Color

/-!
# Colors in levels

Three levels between brackets are rewritten in hexadecimal. They are runs of digits of any length, with a
comma between two of them and blanks behind a comma only. What the text becomes has no brackets and is no
name of a color, so it is not rewritten again.
-/

namespace MarkupLayout.Style

open Number

structure Levels where
  red : Digits
  green : Digits
  blue : Digits
  beforeGreen : List Char
  beforeBlue : List Char
  blank_green : beforeGreen.all Text.isBlank
  blank_blue : beforeBlue.all Text.isBlank

def levelHex (level : Nat) : List Char :=
  (Nat.toDigits 16 (min 255 level)).leftpad 2 '0'

namespace Levels

variable (l : Levels)

def text : String :=
  "rgb(" ++ String.ofList l.red.chars ++ "," ++ String.ofList l.beforeGreen ++
    String.ofList l.green.chars ++ "," ++ String.ofList l.beforeBlue ++
    String.ofList l.blue.chars ++ ")"

def hex : String :=
  "#" ++ String.ofList (levelHex l.red.value) ++ String.ofList (levelHex l.green.value) ++
    String.ofList (levelHex l.blue.value)

def fields : List (List Char) :=
  [l.red.chars, l.beforeGreen ++ l.green.chars, l.beforeBlue ++ l.blue.chars]

theorem toList_text : l.text.toList = "rgb(".toList ++ [','].intercalate l.fields ++ [')'] := by
  simp [text, fields, List.intercalate]

theorem toList_hex : l.hex.toList =
    '#' :: levelHex l.red.value ++ levelHex l.green.value ++ levelHex l.blue.value := by
  simp [hex]

end Levels

theorem hexByte_eq_leftpad {n : Nat} (h : n < 256) : hexByte n = (Nat.toDigits 16 n).leftpad 2 '0' := by
  have hDigit : ∀ m < 16, hexDigit m = m.digitChar := by
    intro m hm
    rw [hexDigit, Nat.toDigits_of_lt_base hm]
    rfl
  have hHigh : n / 16 < 16 := by omega
  rw [hexByte, hDigit _ hHigh, hDigit _ (Nat.mod_lt n (by decide))]
  by_cases hOne : n < 16
  · rw [Nat.toDigits_of_lt_base hOne, Nat.div_eq_of_lt hOne, Nat.mod_eq_of_lt hOne]
    rfl
  · rw [Nat.toDigits_of_base_le (by decide) (Nat.le_of_not_lt hOne), Nat.toDigits_of_lt_base hHigh]
    rfl

theorem channel?_eq_some_iff {text hex : List Char} :
    channel? text = some hex ↔ ∃ level : Digits, level.chars = text ∧ levelHex level.value = hex := by
  have hHex (level : Digits) : hexByte (min 255 (digitsValue 0 level.chars)) = levelHex level.value := by
    rw [level.digitsValue_chars, hexByte_eq_leftpad (by omega), levelHex]
  rw [channel?]
  constructor
  · intro h
    split at h
    · next hLevel =>
      obtain ⟨level, rfl⟩ := (exists_digits_iff text).mp hLevel
      exact ⟨level, rfl, (hHex level).symm.trans (Option.some.inj h)⟩
    · cases h
  · rintro ⟨level, rfl, rfl⟩
    rw [if_pos ((exists_digits_iff _).mpr ⟨level, rfl⟩), hHex]

theorem trimStart_blanks {blanks : List Char} (hBlanks : blanks.all Text.isBlank) (level : Digits) :
    Text.trimStartBy Text.isBlank (blanks ++ level.chars) = level.chars := by
  refine Text.dropWhile_run (List.all_eq_true.mp hBlanks) fun c hc => not_isBlank_of_isDigit ?_
  exact level.head_isDigit [] c (by rwa [List.append_nil])

theorem channel?_trimStart_eq_some_iff {text hex : List Char} :
    channel? (Text.trimStartBy Text.isBlank text) = some hex ↔ ∃ blanks, ∃ level : Digits,
      blanks.all Text.isBlank ∧ blanks ++ level.chars = text ∧ levelHex level.value = hex := by
  rw [channel?_eq_some_iff]
  constructor
  · rintro ⟨level, hChars, hHex⟩
    refine ⟨text.takeWhile Text.isBlank, level, List.all_takeWhile, ?_, hHex⟩
    rw [hChars]
    exact List.takeWhile_append_dropWhile
  · rintro ⟨blanks, level, hBlanks, rfl, hHex⟩
    exact ⟨level, (trimStart_blanks hBlanks level).symm, hHex⟩

theorem between?_eq_some_iff {opening closing text inner : List Char} :
    between? opening closing text = some inner ↔ text = opening ++ inner ++ closing := by
  rw [between?]
  constructor
  · intro h
    split at h
    · next hOpening =>
      obtain ⟨rest, rfl⟩ := List.isPrefixOf_iff_prefix.mp hOpening
      rw [List.drop_left] at h
      dsimp only at h
      split at h
      · next hClosing =>
        obtain ⟨body, rfl⟩ := List.isSuffixOf_iff_suffix.mp hClosing
        obtain rfl := Option.some.inj h
        rw [List.length_append, Nat.add_sub_cancel, List.take_left, List.append_assoc]
      · cases h
    · cases h
  · rintro rfl
    rw [List.append_assoc, if_pos (List.isPrefixOf_iff_prefix.mpr (List.prefix_append ..)),
      List.drop_left]
    dsimp only
    rw [if_pos (List.isSuffixOf_iff_suffix.mpr (List.suffix_append ..)), List.length_append,
      Nat.add_sub_cancel, List.take_left]

theorem Levels.fields_intercalate (l : Levels) : Text.fields ',' ([','].intercalate l.fields) = l.fields := by
  have hDigits (level : Digits) : ',' ∉ level.chars := fun h => by cases level.isDigit_of_mem ',' h
  refine Text.fields_intercalate (List.cons_ne_nil _ _) ?_
  simp only [fields, List.forall_mem_cons, List.mem_append, not_or]
  refine ⟨hDigits l.red, ⟨fun h => ?_, hDigits l.green⟩, ⟨fun h => ?_, hDigits l.blue⟩, nofun⟩
  · cases List.all_eq_true.mp l.blank_green ',' h
  · cases List.all_eq_true.mp l.blank_blue ',' h

theorem hexOfLevels?_eq_some_iff {text hex : List Char} : hexOfLevels? text = some hex ↔
    ∃ l : Levels, l.text.toList = text ∧ l.hex.toList = hex := by
  rw [hexOfLevels?]
  constructor
  · intro h
    split at h
    · next red green blue hFields =>
      obtain ⟨inner, hInner, hFields⟩ := Option.map_eq_some_iff.mp hFields
      obtain ⟨_, hRed, h⟩ := Option.bind_eq_some_iff.mp h
      obtain ⟨_, hGreenText, h⟩ := Option.bind_eq_some_iff.mp h
      obtain ⟨_, hBlueText, hHex⟩ := Option.bind_eq_some_iff.mp h
      obtain ⟨red, rfl, rfl⟩ := channel?_eq_some_iff.mp hRed
      obtain ⟨beforeGreen, green, hGreen, rfl, rfl⟩ := channel?_trimStart_eq_some_iff.mp hGreenText
      obtain ⟨beforeBlue, blue, hBlue, rfl, rfl⟩ := channel?_trimStart_eq_some_iff.mp hBlueText
      let l : Levels := ⟨red, green, blue, beforeGreen, beforeBlue, hGreen, hBlue⟩
      refine ⟨l, ?_, l.toList_hex.trans (Option.some.inj hHex)⟩
      rw [between?_eq_some_iff.mp hInner, l.toList_text, ← Text.intercalate_fields ',' inner, hFields]
      rfl
    · cases h
  · rintro ⟨l, rfl, rfl⟩
    rw [between?_eq_some_iff.mpr l.toList_text, Option.map_some, l.fields_intercalate, Levels.fields]
    dsimp only
    rw [channel?_eq_some_iff.mpr ⟨l.red, rfl, rfl⟩,
      channel?_trimStart_eq_some_iff.mpr ⟨l.beforeGreen, l.green, l.blank_green, rfl, rfl⟩,
      channel?_trimStart_eq_some_iff.mpr ⟨l.beforeBlue, l.blue, l.blank_blue, rfl, rfl⟩, l.toList_hex]
    rfl

theorem color_text (l : Levels) : color l.text = l.hex := by
  rw [color, hexOfLevels?_eq_some_iff.mpr ⟨l, rfl, rfl⟩]
  exact String.ofList_toList

theorem hexOfLevels?_eq_none_iff {text : String} :
    hexOfLevels? text.toList = none ↔ ∀ l : Levels, text ≠ l.text := by
  rw [Option.eq_none_iff_forall_ne_some]
  constructor
  · rintro h l rfl
    exact h _ (hexOfLevels?_eq_some_iff.mpr ⟨l, rfl, rfl⟩)
  · intro h hex hHex
    obtain ⟨l, hText, -⟩ := hexOfLevels?_eq_some_iff.mp hHex
    exact h l (String.toList_injective hText).symm

theorem color_of_not_levels {text : String} (h : ∀ l : Levels, text ≠ l.text) :
    color text = if text = "transparent" then "white" else text := by
  rw [color, hexOfLevels?_eq_none_iff.mpr h]

theorem ne_text_of_head {text : String} (h : text.toList.head? ≠ some 'r') (l : Levels) :
    text ≠ l.text := by
  rintro rfl
  rw [l.toList_text] at h
  exact h rfl

theorem color_hex (l : Levels) : color l.hex = l.hex := by
  have hHead : l.hex.toList.head? = some '#' := by rw [l.toList_hex]; rfl
  rw [color_of_not_levels (ne_text_of_head (by rw [hHead]; decide)), if_neg]
  intro hSame
  rw [hSame] at hHead
  cases hHead

/-- Levels are rewritten in hexadecimal, the transparent color is white, every other text stays as it
is, and so does what has been rewritten. -/
theorem color_rewrites_levels : (∀ l : Levels, color l.text = l.hex) ∧ color "transparent" = "white" ∧
    (∀ text, text ≠ "transparent" → (∀ l : Levels, text ≠ l.text) → color text = text) ∧
    ∀ text, color (color text) = color text := by
  have hOther : ∀ text, text ≠ "transparent" → (∀ l : Levels, text ≠ l.text) → color text = text := by
    intro text hText hLevels
    rw [color_of_not_levels hLevels, if_neg hText]
  have hTransparent : color "transparent" = "white" := by
    rw [color_of_not_levels (ne_text_of_head (by decide)), if_pos rfl]
  refine ⟨color_text, hTransparent, hOther, fun text => ?_⟩
  by_cases hLevels : ∃ l : Levels, text = l.text
  · obtain ⟨l, rfl⟩ := hLevels
    rw [color_text, color_hex]
  · have hNot := not_exists.mp hLevels
    by_cases hText : text = "transparent"
    · rw [hText, hTransparent]
      exact hOther "white" (by decide) (ne_text_of_head (by decide))
    · rw [hOther text hText hNot, hOther text hText hNot]

/-- The first level does not fit 32 bits. -/
def wideLevels : Levels where
  red := ⟨"4294967596".toList, by decide, by decide⟩
  green := ⟨['0'], by decide, by decide⟩
  blue := ⟨"0016".toList, by decide, by decide⟩
  beforeGreen := ['\t']
  beforeBlue := ['\u3000', ' ']
  blank_green := by decide
  blank_blue := by decide

/-- Levels behind a blank that no comma precedes are none. -/
theorem wideLevels_color : color wideLevels.text = "#ff0010" ∧ "rgb( 1,2,3)" ≠ "transparent" ∧
    (∀ l : Levels, "rgb( 1,2,3)" ≠ l.text) ∧ color "rgb( 1,2,3)" = "rgb( 1,2,3)" := by
  obtain ⟨hLevels, -, hOther, -⟩ := color_rewrites_levels
  have hNot : ∀ l : Levels, "rgb( 1,2,3)" ≠ l.text := hexOfLevels?_eq_none_iff.mp (by decide +kernel)
  exact ⟨(hLevels wideLevels).trans (by decide +kernel), by decide, hNot, hOther _ (by decide) hNot⟩

end MarkupLayout.Style
