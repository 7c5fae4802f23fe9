import MarkupLayout.Convert.Settings
import MarkupLayout.Proofs.Number.Comparison
import MarkupLayout.Proofs.Number.Literals

/-!
# Font sizes

The size attribute of a font element is read from its start, as blanks, a sign and digits. A converter
that was built gives each integer that it reads the entry of its ladder that is nearest in rank, and gives
no size where there are no digits, or where their value does not fit a signed 64-bit word.
-/

namespace MarkupLayout.Convert

open Style

theorem FontLadder.isNaN_size (ladder : FontLadder) {size : Float} (h : size ∈ ladder.sizes.toList) :
    size.isNaN = false := by
  have hPositive := List.all_eq_true.mp ladder.positive size h
  rw [isPositiveSize, Bool.and_eq_true, decide_eq_true_eq] at hPositive
  exact (Number.lt_iff.mp hPositive.2).2.1

theorem FontLadder.isChain_sizes (ladder : FontLadder) : ladder.sizes.toList.IsChain (· < ·) := by
  have hNone := ladder.ascending
  rw [isAscending, Bool.not_eq_true', List.any_eq_false] at hNone
  rw [List.isChain_iff_getElem]
  intro i hi
  have hZip : i < (ladder.sizes.toList.zip ladder.sizes.toList.tail).length := by
    rw [List.length_zip, List.length_tail]
    omega
  have hPair := hNone _ (List.getElem_mem hZip)
  rw [List.getElem_zip, List.getElem_tail, decide_eq_true_eq] at hPair
  exact Number.lt_of_not_le (ladder.isNaN_size (List.getElem_mem _)) (ladder.isNaN_size (List.getElem_mem _))
    hPair

theorem FontLadder.larger_first (ladder : FontLadder) (i : Fin 7) :
    Number.larger (ladder.sizes.get 0) (ladder.sizes.get i) = ladder.sizes.get i := by
  rw [Number.larger]
  cases i using Fin.cases with
  | zero => rw [ite_self, ite_self]
  | succ j =>
    have hPairs := List.pairwise_iff_getElem.mp ladder.isChain_sizes.pairwise
    have hLess := hPairs 0 j.succ (by simp) (by simp; omega) (Nat.succ_pos j)
    rw [Vector.getElem_toList, Vector.getElem_toList] at hLess
    have hIf : ladder.sizes.get 0 < ladder.sizes.get j.succ := hLess
    rw [if_pos hIf, ite_self]

theorem FontLadder.size_eq (ladder : FontLadder) (n : Int) : ladder.size n = ladder.sizes.get (step n) :=
  ladder.larger_first (step n)

theorem FontLadder.step_add_one (n : Int) : (step n : Int) + 1 = max 1 (min 7 n) := by
  rw [step]
  dsimp only
  omega

theorem FontLadder.sizes_of_ofSizes {sizes : Vector Float 7} {ladder : FontLadder}
    (h : ofSizes sizes = .ok ladder) : ladder.sizes = sizes := by
  rw [ofSizes] at h
  split at h
  · split at h
    · obtain rfl := Except.ok.inj h
      rfl
    · cases h
  · cases h

theorem Settings.sizes_of_build {s : Settings} {c : Converter} (h : s.build = .ok c) :
    c.design.fonts.sizes = s.fontSizes := by
  rw [build] at h
  split at h
  · cases h
  · next fonts hFonts =>
    split at h
    · split at h
      · cases h
      · obtain rfl := Except.ok.inj h
        exact FontLadder.sizes_of_ofSizes hFonts
    · cases h

/-- A text in the parts in which a size is read: blanks, a sign, digits and what follows them. -/
structure SizeText where
  blanks : List Char
  sign : List Char
  digits : List Char
  rest : List Char
  blank : blanks.all Text.isBlank
  sign_mem : sign ∈ [[], ['+'], ['-']]
  digit : digits.all Char.isDigit
  digits_end : rest.head?.all (!·.isDigit)
  /-- What follows belongs to none of the parts before it. -/
  bare : sign = [] → digits = [] → rest.head?.all fun c => !Text.isBlank c && c != '+' && c != '-'

namespace SizeText

variable (t : SizeText)

def text : String :=
  String.ofList (t.blanks ++ (t.sign ++ (t.digits ++ t.rest)))

def magnitude : Nat :=
  Nat.ofDigits 10 (t.digits.reverse.map fun c => c.toNat - '0'.toNat)

def value : Int :=
  if t.sign = ['-'] then -t.magnitude else t.magnitude

theorem sign_eq : t.sign = [] ∨ t.sign = ['+'] ∨ t.sign = ['-'] := by
  simpa using t.sign_mem

theorem not_digit_of_start {c : Char} (h : Text.isBlank c ∨ c = '+' ∨ c = '-') : c.isDigit = false := by
  rw [Bool.eq_false_iff]
  intro hDigit
  rcases h with hBlank | hSign
  · cases hBlank.symm.trans (Number.not_isBlank_of_isDigit hDigit)
  · exact hSign.elim (Number.ne_sign_of_isDigit hDigit).2 (Number.ne_sign_of_isDigit hDigit).1

theorem head_unsigned (hSign : t.sign = []) {c : Char} (hc : c ∈ (t.digits ++ t.rest).head?) :
    Text.isBlank c = false ∧ c ≠ '+' ∧ c ≠ '-' := by
  cases hDigits : t.digits with
  | nil =>
    rw [hDigits] at hc
    have hBare := (Option.all_eq_true ..).mp (t.bare hSign hDigits) c hc
    simp only [Bool.and_eq_true, Bool.not_eq_true', bne_iff_ne] at hBare
    exact ⟨hBare.1.1, hBare.1.2, hBare.2⟩
  | cons first others =>
    rw [hDigits] at hc
    obtain rfl := Option.some.inj hc
    have hDigit := List.all_eq_true.mp t.digit first (by rw [hDigits]; exact List.mem_cons_self)
    have hOther (h : Text.isBlank first ∨ first = '+' ∨ first = '-') : False := by
      rw [not_digit_of_start h] at hDigit
      cases hDigit
    exact ⟨Bool.eq_false_iff.mpr fun h => hOther (.inl h), fun h => hOther (.inr (.inl h)),
      fun h => hOther (.inr (.inr h))⟩

theorem trimStart_text : Text.trimStartBy Text.isBlank t.text.toList = t.sign ++ (t.digits ++ t.rest) := by
  have hStart : ∀ c ∈ (t.sign ++ (t.digits ++ t.rest)).head?, Text.isBlank c = false := by
    intro c hc
    rcases t.sign_eq with hNone | hPlus | hMinus
    · rw [hNone] at hc
      exact (t.head_unsigned hNone hc).1
    · rw [hPlus] at hc
      obtain rfl := Option.some.inj hc
      decide
    · rw [hMinus] at hc
      obtain rfl := Option.some.inj hc
      decide
  rw [text, String.toList_ofList]
  exact Text.dropWhile_run (List.all_eq_true.mp t.blank) hStart

theorem splitSign_append : Number.splitSign (t.sign ++ (t.digits ++ t.rest)) =
    (t.sign == ['-'], t.digits ++ t.rest) := by
  rcases t.sign_eq with hNone | hPlus | hMinus
  · rw [hNone]
    exact Number.splitSign_append .none fun c hc => (t.head_unsigned hNone hc).2.symm
  · rw [hPlus]
    rfl
  · rw [hMinus]
    rfl

theorem attrSize?_text : FontLadder.attrSize? t.text =
    if t.digits = [] ∨ 2 ^ 63 ≤ t.magnitude then none else some t.value := by
  rw [FontLadder.attrSize?, trimStart_text, Number.leadingInteger?, splitSign_append]
  have hRest : ∀ c ∈ t.rest.head?, c.isDigit = false := fun c hc =>
    Bool.not_eq_true' _ ▸ (Option.all_eq_true ..).mp t.digits_end c hc
  dsimp only
  rw [Number.splitDigits_append (List.all_eq_true.mp t.digit) hRest, Number.digitsValue_eq_ofDigits]
  simp [magnitude, value]

end SizeText

section FontStyle

variable (d : Design) (tag : Tag)

theorem Design.get?_fontStyle_size : (d.fontStyle tag).get? "fontSize" =
    ((tag.present? "size").bind FontLadder.attrSize?).map fun n => .number (d.fonts.size n) := by
  rw [fontStyle]
  cases (tag.present? "size").bind FontLadder.attrSize? with
  | some n => exact SortedMap.get?_insert_self ..
  | none =>
    cases tag.present? "color" with
    | some color => exact SortedMap.get?_insert_of_ne (by decide) _ _
    | none => rfl

theorem Design.get?_fontStyle_color : (d.fontStyle tag).get? "color" =
    (tag.present? "color").map fun color => .text (Style.color color) := by
  rw [fontStyle]
  cases (tag.present? "size").bind FontLadder.attrSize? with
  | some n =>
    refine (SortedMap.get?_insert_of_ne (by decide) _ _).trans ?_
    cases tag.present? "color" with
    | some color => exact SortedMap.get?_insert_self ..
    | none => rfl
  | none =>
    cases tag.present? "color" with
    | some color => exact SortedMap.get?_insert_self ..
    | none => rfl

theorem Design.get?_fontStyle_of_ne {key : String} (hSize : key ≠ "fontSize") (hColor : key ≠ "color") :
    (d.fontStyle tag).get? key = none := by
  rw [fontStyle]
  cases (tag.present? "size").bind FontLadder.attrSize? with
  | some n =>
    refine (SortedMap.get?_insert_of_ne hSize _ _).trans ?_
    cases tag.present? "color" with
    | some color => exact SortedMap.get?_insert_of_ne hColor _ _
    | none => rfl
  | none =>
    cases tag.present? "color" with
    | some color => exact SortedMap.get?_insert_of_ne hColor _ _
    | none => rfl

variable {d tag}

theorem bind_attrSize? {text : String} (h : tag.attr? "size" = some text) :
    (tag.present? "size").bind FontLadder.attrSize? = FontLadder.attrSize? text := by
  rw [Tag.present?, h, Option.filter_some]
  split
  · rfl
  · next hEmpty =>
    rw [decide_eq_true_eq, not_not] at hEmpty
    rw [hEmpty]
    decide

end FontStyle

/-- The font size that a size attribute asks for is the entry of the ladder whose rank is nearest to the
integer that it spells out. -/
theorem Settings.fontStyle_of_build {s : Settings} {c : Converter} (hBuild : s.build = .ok c) {tag : Tag}
    (hFont : Kind.of tag = .font) {t : SizeText} (hSize : tag.attr? "size" = some t.text) :
    (∀ path children nodes, (c.design.assemble path tag children nodes).map (·.frame.style) =
      .ok (cascade c.design.styles .own path (c.design.fontStyle tag))) ∧
    (t.digits ≠ [] → t.magnitude < 2 ^ 63 → ∃ i : Fin 7, (i : Int) + 1 = max 1 (min 7 t.value) ∧
      (c.design.fontStyle tag).get? "fontSize" = some (.number (s.fontSizes.get i))) ∧
    (t.digits = [] → (c.design.fontStyle tag).get? "fontSize" = none) ∧
    (2 ^ 63 ≤ t.magnitude → (c.design.fontStyle tag).get? "fontSize" = none) := by
  have hGet : (c.design.fontStyle tag).get? "fontSize" =
      (if t.digits = [] ∨ 2 ^ 63 ≤ t.magnitude then none else some t.value).map fun n =>
        .number (c.design.fonts.size n) := by
    rw [Design.get?_fontStyle_size, bind_attrSize? hSize, t.attrSize?_text]
  refine ⟨?_, ?_, ?_, ?_⟩
  · intro path children nodes
    rw [Design.assemble, hFont]
    rfl
  · intro hDigits hFits
    have hRead : ¬(t.digits = [] ∨ 2 ^ 63 ≤ t.magnitude) :=
      not_or.mpr ⟨hDigits, Nat.not_le.mpr hFits⟩
    refine ⟨FontLadder.step t.value, FontLadder.step_add_one t.value, ?_⟩
    rw [hGet, if_neg hRead, Option.map_some, FontLadder.size_eq, Settings.sizes_of_build hBuild]
  · intro hDigits
    rw [hGet, if_pos (.inl hDigits), Option.map_none]
  · intro hLarge
    rw [hGet, if_pos (.inr hLarge), Option.map_none]

def ladderSettings : Settings where
  fontSizes := #v[6.0, 7.5, 9.0, 12.0, 18.0, 24.0, 36.0]
  thumbnailer := fun _ _ _ => .ok ""

theorem ladderSettings_builds : ∃ c, ladderSettings.build = .ok c := by
  have hOk : ladderSettings.build.isOk := by decide +kernel
  cases hBuild : ladderSettings.build with
  | ok c => exact ⟨c, rfl⟩
  | error reason =>
    rw [hBuild] at hOk
    cases hOk

def SizeText.font (t : SizeText) : Tag where
  name := "FONT"
  attrs := .ofList [("size", t.text)]

/-- A size below the ladder, between blanks and a unit. -/
def farBelow : SizeText where
  blanks := [' ', '\u00A0']
  sign := ['-']
  digits := ['0', '4', '2']
  rest := ['p', 't', '9']
  blank := by decide
  sign_mem := by decide
  digit := by decide
  digits_end := by decide
  bare := by decide

theorem farBelow_smallest : ∃ c, ladderSettings.build = .ok c ∧ Kind.of farBelow.font = .font ∧
    farBelow.font.attr? "size" = some farBelow.text ∧ farBelow.value = -42 ∧
    (c.design.fontStyle farBelow.font).get? "fontSize" = some (.number (ladderSettings.fontSizes.get 0)) := by
  obtain ⟨c, hBuild⟩ := ladderSettings_builds
  have hFont : Kind.of farBelow.font = .font := by decide
  have hSize : farBelow.font.attr? "size" = some farBelow.text := by decide
  have hValue : farBelow.value = -42 := by decide
  obtain ⟨-, hLadder, -, -⟩ := Settings.fontStyle_of_build hBuild hFont hSize
  obtain ⟨i, hRank, hGet⟩ := hLadder (by decide) (by decide)
  rw [hValue] at hRank
  have hOne : (i : Int) + 1 = 1 := hRank.trans (by decide)
  have hFirst : i = 0 := Fin.ext (by omega)
  rw [hFirst] at hGet
  exact ⟨c, hBuild, hFont, hSize, hValue, hGet⟩

/-- A size above the ladder, and the first one that does not fit a signed 64-bit word. -/
def farAbove : SizeText where
  blanks := []
  sign := []
  digits := "9223372036854775808".toList
  rest := []
  blank := by decide
  sign_mem := by decide
  digit := by decide
  digits_end := by decide
  bare := by decide

theorem farAbove_ignored : ∃ c, ladderSettings.build = .ok c ∧ Kind.of farAbove.font = .font ∧
    farAbove.font.attr? "size" = some farAbove.text ∧ farAbove.digits ≠ [] ∧
    max 1 (min 7 farAbove.value) = 7 ∧
    (c.design.fontStyle farAbove.font).get? "fontSize" ≠
      some (.number (ladderSettings.fontSizes.get 6)) := by
  obtain ⟨c, hBuild⟩ := ladderSettings_builds
  refine ⟨c, hBuild, by decide, by decide, by decide, by decide +kernel, ?_⟩
  have hUnread : (farAbove.font.present? "size").bind FontLadder.attrSize? = none := by decide +kernel
  rw [Design.get?_fontStyle_size, hUnread]
  exact nofun

end MarkupLayout.Convert
