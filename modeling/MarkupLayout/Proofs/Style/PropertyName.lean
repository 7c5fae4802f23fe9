import MarkupLayout.Proofs.Text.Fields
import MarkupLayout.Style.Declaration

/-!
# Names of properties

Properties are lower-cased before they are read, so no capital is left in them. From the key that a
property becomes the property can be read off again: each capital stands for a hyphen and a letter.
-/

namespace MarkupLayout

namespace Text

theorem isUpper_toLower (c : Char) : ¬c.toLower.isUpper := by
  by_cases h : c.isUpper
  · have hLetter := isUpper_iff.mp h
    rw [isUpper_iff, toNat_toLower h]
    omega
  · rwa [toLower_of_not_isUpper h]

theorem lowerRuns_avoid_capitals : ∀ run ∈ lowerRuns,
    (run.last : Int) + run.shift < 65 ∨ 90 < (run.first : Int) + run.shift := by
  decide +kernel

theorem not_isUpper_ofNat {code : Nat} (h : code < 65 ∨ 90 < code) : ¬(Char.ofNat code).isUpper := by
  rw [isUpper_iff]
  by_cases hValid : code.isValidChar
  · have hChar : Char.ofNat code = Char.ofNatAux code hValid := dif_pos hValid
    rw [hChar]
    show ¬(65 ≤ code ∧ code ≤ 90)
    omega
  · have hChar : Char.ofNat code = '\x00' := dif_neg hValid
    rw [hChar]
    decide

theorem not_isUpper_of_partner {run : CaseRun} (hRun : run ∈ lowerRuns) {code : Nat} {c : Char}
    (h : run.partner? code = some c) : ¬c.isUpper := by
  rw [CaseRun.partner?] at h
  split at h
  · next hIn =>
    obtain rfl := Option.some.inj h
    simp only [Bool.and_eq_true, decide_eq_true_iff] at hIn
    have hAvoid := lowerRuns_avoid_capitals run hRun
    exact not_isUpper_ofNat (by omega)
  · cases h

theorem not_isUpper_of_mem_lowerChar {c d : Char} (h : d ∈ lowerChar c) : ¬d.isUpper := by
  rw [lowerChar] at h
  split at h
  · rw [List.mem_singleton.mp h]
    exact isUpper_toLower c
  · next hAscii =>
    split at h
    · rcases List.mem_cons.mp h with rfl | h
      · decide
      · rw [List.mem_singleton.mp h]
        decide
    · rw [List.mem_singleton.mp h]
      cases hPartner : lowerRuns.findSome? (·.partner? c.toNat) with
      | none =>
        rw [Option.getD_none, isUpper_iff]
        omega
      | some partner =>
        obtain ⟨run, hRun, hSome⟩ := List.exists_of_findSome?_eq_some hPartner
        exact not_isUpper_of_partner hRun hSome

theorem not_isUpper_of_mem_lowerAfter {before text : List Char} {c : Char}
    (h : c ∈ lowerAfter before text) : ¬c.isUpper := by
  induction text generalizing before with
  | nil => cases h
  | cons first rest ih =>
    rw [lowerAfter] at h
    rcases List.mem_append.mp h with h | h
    · split at h
      · split at h <;> rw [List.mem_singleton.mp h] <;> decide
      · exact not_isUpper_of_mem_lowerChar h
    · exact ih h

theorem mem_of_mem_trim {text : List Char} {c : Char} (h : c ∈ trim text) : c ∈ text := by
  rw [trim, trimBy, trimEndBy, List.mem_reverse] at h
  have hStart := (List.dropWhile_sublist _).mem h
  rw [List.mem_reverse] at hStart
  exact (List.dropWhile_sublist _).mem hStart

end Text

namespace Style

open Text

def hyphenated : List Char → List Char
  | [] => []
  | c :: rest => if c.isUpper then '-' :: c.toLower :: hyphenated rest else c :: hyphenated rest

theorem hyphenated_camelChars {text : List Char} (h : ∀ c ∈ text, ¬c.isUpper) :
    hyphenated (camelChars text) = text := by
  fun_induction camelChars text with
  | case1 => rfl
  | case2 c => rw [hyphenated, if_neg (h c (List.mem_singleton_self c)), hyphenated]
  | case3 a b rest hHyphen ih =>
    obtain ⟨rfl, hLower⟩ := hHyphen
    have hLetter := isLower_iff.mp hLower
    have hShift := toNat_toUpper hLower
    have hCapital : b.toUpper.isUpper := isUpper_iff.mpr (by omega)
    have hB : ¬b.isUpper := h b (List.mem_cons_of_mem _ (List.mem_cons_self ..))
    rw [hyphenated, if_pos hCapital, toLower_toUpper, toLower_of_not_isUpper hB,
      ih fun c hc => h c (List.mem_cons_of_mem _ (List.mem_cons_of_mem _ hc))]
  | case4 a b rest hHyphen ih =>
    rw [hyphenated, if_neg (h a (List.mem_cons_self ..)),
      ih fun c hc => h c (List.mem_cons_of_mem _ hc)]

theorem not_isUpper_of_mem_property {tag : Tag} {d : Declaration} (h : d ∈ declarations tag) {c : Char}
    (hChar : c ∈ d.property.toList) : ¬c.isUpper := by
  obtain ⟨text, -, hText⟩ := List.mem_filterMap.mp h
  rw [Declaration.ofText?] at hText
  split at hText
  · next property value hFields =>
    simp only [] at hText
    split at hText
    · cases hText
    · obtain rfl := Option.some.inj hText
      rw [String.toList_ofList] at hChar
      have hPart : property ∈ fields ':' (lowerAfter [] text) := hFields ▸ List.mem_cons_self
      exact not_isUpper_of_mem_lowerAfter (mem_of_mem_fields hPart (mem_of_mem_trim hChar))
  · cases hText

/-- A declared property can be read off from its key. -/
theorem property_eq_of_camelCase {tag : Tag} {d : Declaration} (h : d ∈ declarations tag) :
    d.property = String.ofList (hyphenated (camelCase d.property).toList) := by
  rw [camelCase, String.toList_ofList,
    hyphenated_camelChars fun c hc => not_isUpper_of_mem_property h hc, String.ofList_toList]

end Style

end MarkupLayout
