import MarkupLayout.Text.CaseTable
import MarkupLayout.Text.Word

/-!
# Letter case

Tag names change case in ASCII only, while style declarations are lower-cased as Unicode text.
There a capital sigma becomes the final form at the end of a word, and the dotted capital I
becomes two characters; every other character has at most one lower-case partner.
-/

namespace MarkupLayout.Text

def asciiLower (text : String) : String :=
  String.ofList (text.toList.map Char.toLower)

def asciiUpper (text : String) : String :=
  String.ofList (text.toList.map Char.toUpper)

def sameIgnoringCase (a b : String) : Bool :=
  asciiLower a == asciiLower b

theorem isUpper_iff {c : Char} : c.isUpper ↔ 65 ≤ c.toNat ∧ c.toNat ≤ 90 :=
  decide_eq_true_iff

theorem isLower_iff {c : Char} : c.isLower ↔ 97 ≤ c.toNat ∧ c.toNat ≤ 122 := by
  show (decide _ && decide _) = true ↔ _
  rw [Bool.and_eq_true_iff, decide_eq_true_iff, decide_eq_true_iff]
  rfl

theorem toNat_toUpper {c : Char} (h : c.isLower) : c.toUpper.toNat = c.toNat - 32 := by
  have hLetter := isLower_iff.mp h
  have hIn : 'a'.val ≤ c.val ∧ c.val ≤ 'z'.val := hLetter
  have hVal : c.toUpper.val = c.val + ('A'.val - 'a'.val) := by
    delta Char.toUpper
    rw [dif_pos hIn]
  show c.toUpper.val.toNat = _
  rw [hVal, UInt32.toNat_add]
  show (c.toNat + 4294967264) % 4294967296 = _
  omega

theorem toNat_toLower {c : Char} (h : c.isUpper) : c.toLower.toNat = c.toNat + 32 := by
  have hLetter := isUpper_iff.mp h
  have hIn : 'A'.val ≤ c.val ∧ c.val ≤ 'Z'.val := hLetter
  have hVal : c.toLower.val = c.val + ('a'.val - 'A'.val) := by
    delta Char.toLower
    rw [dif_pos hIn]
  show c.toLower.val.toNat = _
  rw [hVal, UInt32.toNat_add]
  show (c.toNat + 32) % 4294967296 = _
  omega

theorem toUpper_of_not_isLower {c : Char} (h : ¬c.isLower) : c.toUpper = c := by
  have hOut : ¬('a'.val ≤ c.val ∧ c.val ≤ 'z'.val) := fun hIn => h (isLower_iff.mpr hIn)
  exact dif_neg hOut

theorem toLower_of_not_isUpper {c : Char} (h : ¬c.isUpper) : c.toLower = c := by
  have hOut : ¬('A'.val ≤ c.val ∧ c.val ≤ 'Z'.val) := fun hIn => h (isUpper_iff.mpr hIn)
  exact dif_neg hOut

theorem toLower_toUpper (c : Char) : c.toUpper.toLower = c.toLower := by
  by_cases h : c.isLower
  · have hLetter := isLower_iff.mp h
    have hShift := toNat_toUpper h
    have hCapital : c.toUpper.isUpper := isUpper_iff.mpr (by omega)
    have hNot : ¬c.isUpper := fun hUpper => by
      have hRange := isUpper_iff.mp hUpper
      omega
    rw [toLower_of_not_isUpper hNot]
    refine Char.toNat_inj.mp ?_
    rw [toNat_toLower hCapital]
    omega
  · rw [toUpper_of_not_isLower h]

theorem asciiLower_asciiUpper (text : String) : asciiLower (asciiUpper text) = asciiLower text := by
  have hLower : Char.toLower ∘ Char.toUpper = Char.toLower := funext toLower_toUpper
  rw [asciiLower, asciiUpper, String.toList_ofList, List.map_map, hLower, asciiLower]

theorem toUpper_toLower (c : Char) : c.toLower.toUpper = c.toUpper := by
  by_cases h : c.isUpper
  · have hLetter := isUpper_iff.mp h
    have hShift := toNat_toLower h
    have hSmall : c.toLower.isLower := isLower_iff.mpr (by omega)
    have hNot : ¬c.isLower := fun hLower => by
      have hRange := isLower_iff.mp hLower
      omega
    rw [toUpper_of_not_isLower hNot]
    refine Char.toNat_inj.mp ?_
    rw [toNat_toUpper hSmall]
    omega
  · rw [toLower_of_not_isUpper h]

theorem asciiUpper_asciiLower (text : String) : asciiUpper (asciiLower text) = asciiUpper text := by
  have hUpper : Char.toUpper ∘ Char.toLower = Char.toUpper := funext toUpper_toLower
  rw [asciiUpper, asciiLower, String.toList_ofList, List.map_map, hUpper, asciiUpper]

def CaseRun.partner? (run : CaseRun) (code : Nat) : Option Char :=
  if run.first ≤ code && code ≤ run.last && (code - run.first) % run.step == 0 then
    some (Char.ofNat (code + run.shift).toNat)
  else none

def lowerChar (c : Char) : List Char :=
  if c.toNat < 0x80 then [c.toLower]
  else if c = '\u0130' then ['i', '\u0307']
  else [(lowerRuns.findSome? (·.partner? c.toNat)).getD c]

def isCaseIgnorable (c : Char) : Bool :=
  inRanges caseIgnorableRanges c.toNat

def isCased (c : Char) : Bool :=
  inRanges casedRanges c.toNat

/-- Whether the first character that is not passed over is cased. -/
def casedAhead (text : List Char) : Bool :=
  (text.find? fun c => !isCaseIgnorable c).any isCased

/-- Lower-cases the text that follows `before`, which is held in reverse order. -/
def lowerAfter (before : List Char) : List Char → List Char
  | [] => []
  | c :: rest =>
    let lowered :=
      if c = 'Σ' then
        if casedAhead before && !casedAhead rest then ['ς'] else ['σ']
      else lowerChar c
    lowered ++ lowerAfter (c :: before) rest

def lower (text : List Char) : List Char :=
  lowerAfter [] text

end MarkupLayout.Text
