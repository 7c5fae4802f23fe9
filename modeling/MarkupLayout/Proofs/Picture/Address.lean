import Mathlib.Data.List.Basic
import MarkupLayout.Picture.Url
import MarkupLayout.Proofs.Text.Pattern
import MarkupLayout.Proofs.Text.Runs

/-!
# What makes an address valid

Addresses are meant to match a pattern somewhere. Its optional parts can be left out of a match, and of
the long part before the point only the last two characters count, because a match may begin anywhere.
Of the letters behind the point all count, for they have to end where a word ends.
-/

namespace MarkupLayout.Picture

open Text Text.Pattern

def hostClass : CharClass where
  singles := "-@:%._+~#="
  ranges := [('a', 'z'), ('A', 'Z'), ('0', '9')]

def smallLetters : CharClass where
  singles := ""
  ranges := [('a', 'z')]

def pathClass : CharClass where
  singles := "-@:%_+.~#?&/="
  ranges := [('a', 'z'), ('A', 'Z'), ('0', '9')]

def hostPattern : Pattern :=
  optional (literal "http" ++ optional (literal "s") ++ literal "://" ++ anyInLine) ++
    optional (literal "www.") ++ repeated 2 (some 256) (oneOf hostClass) ++ literal "."

/-- The pattern `(https?://.)?(www\.)?[-a-zA-Z0-9@:%._+~#=]{2,256}\.[a-z]{2,6}\b([-a-zA-Z0-9@:%_+.~#?&/=]*)`. -/
def addressPattern : Pattern :=
  hostPattern ++ repeated 2 (some 6) (oneOf smallLetters) ++ wordEdge ++ repeated 0 none (oneOf pathClass)

/-- Two characters of a host name, a point, and two to six small letters which no word goes on with. -/
def HasDomain (text : List Char) : Prop :=
  ∃ before a b letters after, text = before ++ a :: b :: '.' :: (letters ++ after) ∧
    hostClass.has a ∧ hostClass.has b ∧ 2 ≤ letters.length ∧ letters.length ≤ 6 ∧
    (∀ c ∈ letters, smallLetters.has c) ∧ ∀ next ∈ after.head?, isWord next = false

theorem isAlphanum_eq (c : Char) : c.isAlphanum = (c.isUpper || c.isLower || c.isDigit) := rfl

theorem smallLetters_has (c : Char) : smallLetters.has c = c.isLower := by
  have hRange : (decide ('a' ≤ c) && decide (c ≤ 'z')) = c.isLower := rfl
  simp [smallLetters, CharClass.has, hRange]

theorem hostClass_has (c : Char) : hostClass.has c = isHostChar c := by
  have hLower : (decide ('a' ≤ c) && decide (c ≤ 'z')) = c.isLower := rfl
  have hUpper : (decide ('A' ≤ c) && decide (c ≤ 'Z')) = c.isUpper :=
    (Bool.decide_and _ _).symm
  have hDigit : (decide ('0' ≤ c) && decide (c ≤ '9')) = c.isDigit := rfl
  have hRanges : (hostClass.ranges.any fun range => range.1 ≤ c && c ≤ range.2) = c.isAlphanum := by
    simp only [hostClass, List.any_cons, List.any_nil, hLower, hUpper, hDigit, Bool.or_false, isAlphanum_eq]
    rw [← Bool.or_assoc, Bool.or_comm c.isLower]
  rw [CharClass.has, hRanges, Bool.or_comm]
  rfl

theorem isWord_of_isLower {c : Char} (hc : c.isLower) : isWord c := by
  have hAscii : c.toNat < 0x80 := by
    obtain ⟨-, hUpTo⟩ := Bool.and_eq_true_iff.mp hc
    exact Nat.lt_of_le_of_lt (UInt32.le_iff_toNat_le.mp (of_decide_eq_true hUpTo)) (by decide)
  rw [isWord, if_pos hAscii, isAlphanum_eq, hc, Bool.or_true, Bool.true_or, Bool.true_or]

theorem isWordEdge_letters {before letters after : List Char} (hLength : 2 ≤ letters.length)
    (hLetters : ∀ c ∈ letters, smallLetters.has c) :
    isWordEdge (before ++ letters) after ↔ ∀ next ∈ after.head?, isWord next = false := by
  have hSome : letters ≠ [] := by
    rintro rfl
    cases hLength
  have hLast : letters.getLast hSome ∈ letters := List.getLast_mem hSome
  have hWord : isWord (letters.getLast hSome) :=
    isWord_of_isLower ((smallLetters_has _).symm.trans (hLetters _ hLast))
  rw [← List.dropLast_concat_getLast hSome, ← List.append_assoc]
  exact isWordEdge_iff hWord

theorem exists_append_two {text : List Char} (h : 2 ≤ text.length) : ∃ front a b, text = front ++ [a, b] := by
  have hLength : (text.drop (text.length - 2)).length = 2 := by
    rw [List.length_drop]
    omega
  obtain ⟨a, b, hLast⟩ := List.length_eq_two.mp hLength
  exact ⟨text.take (text.length - 2), a, b, hLast ▸ (List.take_append_drop _ text).symm⟩

theorem exists_of_matches_hostPattern {before part after : List Char}
    (h : hostPattern.Matches before part after) :
    ∃ front a b, part = front ++ [a, b, '.'] ∧ hostClass.has a ∧ hostClass.has b := by
  obtain ⟨toHost, point, rfl, ⟨start, host, rfl, -, hHost⟩, rfl⟩ := h
  obtain ⟨hLength, -, hChars⟩ := (matches_repeated_oneOf ..).mp hHost
  obtain ⟨front, a, b, rfl⟩ := exists_append_two hLength
  refine ⟨start ++ front, a, b, by simp, hChars a ?_, hChars b ?_⟩ <;> simp

theorem matches_hostPattern {a b : Char} (ha : hostClass.has a) (hb : hostClass.has b)
    (before after : List Char) : hostPattern.Matches before [a, b, '.'] after := by
  have hNone : (optional (literal "http" ++ optional (literal "s") ++ literal "://" ++ anyInLine) ++
      optional (literal "www.")).Matches before [] (a :: b :: '.' :: after) :=
    ⟨[], [], rfl, matches_repeated_zero .., matches_repeated_zero ..⟩
  have hHost : (repeated 2 (some 256) (oneOf hostClass)).Matches before [a, b] ('.' :: after) := by
    rw [matches_repeated_oneOf]
    simp [ha, hb]
  exact ⟨[a, b], ['.'], rfl, ⟨[], [a, b], rfl, hNone, (List.append_nil before).symm ▸ hHost⟩, rfl⟩

theorem hasDomain_of_occursIn {text : List Char} (h : addressPattern.OccursIn text) : HasDomain text := by
  obtain ⟨before, part, after, rfl, hMatch⟩ := h
  obtain ⟨toEdge, path, rfl, ⟨toLetters, edge, rfl, hToLetters, rfl, hEdge⟩, -⟩ := hMatch
  obtain ⟨toPoint, letters, rfl, hToPoint, hLetters⟩ := hToLetters
  obtain ⟨hLeast, hMost, hSmall⟩ := (matches_repeated_oneOf ..).mp hLetters
  obtain ⟨front, a, b, rfl, ha, hb⟩ := exists_of_matches_hostPattern hToPoint
  rw [← List.append_assoc, isWordEdge_letters hLeast hSmall] at hEdge
  exact ⟨before ++ front, a, b, letters, path ++ after, by simp, ha, hb, hLeast, hMost 6 rfl, hSmall, hEdge⟩

theorem occursIn_of_hasDomain {text : List Char} (h : HasDomain text) : addressPattern.OccursIn text := by
  obtain ⟨before, a, b, letters, after, rfl, ha, hb, hLeast, hMost, hSmall, hEnd⟩ := h
  have hLetters (before after : List Char) :
      (repeated 2 (some 6) (oneOf smallLetters)).Matches before letters after := by
    rw [matches_repeated_oneOf]
    exact ⟨hLeast, fun m hm => Option.some.inj hm ▸ hMost, hSmall⟩
  have hEdge : isWordEdge (before ++ ([a, b, '.'] ++ letters)) after := by
    rw [← List.append_assoc, isWordEdge_letters hLeast hSmall]
    exact hEnd
  refine ⟨before, [a, b, '.'] ++ letters, after, by simp, ?_⟩
  refine ⟨_, [], (List.append_nil _).symm, ?_, matches_repeated_zero ..⟩
  refine ⟨_, [], (List.append_nil _).symm, ?_, rfl, hEdge⟩
  exact ⟨[a, b, '.'], letters, rfl, matches_hostPattern ha hb .., hLetters ..⟩

theorem startsWithTopLevel_iff (text : List Char) : startsWithTopLevel text ↔
    ∃ letters after, text = letters ++ after ∧ 2 ≤ letters.length ∧ letters.length ≤ 6 ∧
      (∀ c ∈ letters, smallLetters.has c) ∧ ∀ next ∈ after.head?, isWord next = false := by
  have hOption (next : Option Char) : (next.all fun c => !isWord c) ↔ ∀ c ∈ next, isWord c = false := by
    cases next <;> simp
  rw [startsWithTopLevel, Bool.and_eq_true, Bool.and_eq_true, decide_eq_true_eq, decide_eq_true_eq, hOption]
  constructor
  · rintro ⟨⟨hLeast, hMost⟩, hEnd⟩
    refine ⟨_, _, List.takeWhile_append_dropWhile.symm, hLeast, hMost, ?_, hEnd⟩
    intro c hc
    rw [smallLetters_has]
    exact List.mem_takeWhile_imp hc
  · rintro ⟨letters, after, rfl, hLeast, hMost, hSmall, hEnd⟩
    have hLower : ∀ c ∈ letters, c.isLower := fun c hc => smallLetters_has c ▸ hSmall c hc
    have hStop : ∀ c ∈ after.head?, c.isLower = false := by
      intro c hc
      refine Bool.eq_false_iff.mpr fun hNext => ?_
      cases (hEnd c hc).symm.trans (isWord_of_isLower hNext)
    rw [takeWhile_run hLower hStop, dropWhile_run hLower hStop]
    exact ⟨⟨hLeast, hMost⟩, hEnd⟩

theorem startsWithDomain_iff (text : List Char) : startsWithDomain text ↔
    ∃ a b rest, text = a :: b :: '.' :: rest ∧ hostClass.has a ∧ hostClass.has b ∧
      startsWithTopLevel rest := by
  constructor
  · intro h
    rw [startsWithDomain.eq_def] at h
    split at h
    · next a b rest =>
      rw [Bool.and_eq_true, Bool.and_eq_true, ← hostClass_has, ← hostClass_has] at h
      exact ⟨a, b, rest, rfl, h.1.1, h.1.2, h.2⟩
    · cases h
  · rintro ⟨a, b, rest, rfl, ha, hb, hRest⟩
    rw [startsWithDomain, ← hostClass_has, ← hostClass_has, ha, hb, hRest]
    rfl

theorem containsDomain_iff_exists (text : List Char) :
    containsDomain text ↔ ∃ before rest, text = before ++ rest ∧ startsWithDomain rest := by
  induction text with
  | nil =>
    constructor
    · nofun
    · rintro ⟨before, rest, hText, hRest⟩
      rw [(List.append_eq_nil_iff.mp hText.symm).2] at hRest
      cases hRest
  | cons c text ih =>
    rw [containsDomain, Bool.or_eq_true, ih]
    constructor
    · rintro (hHere | ⟨before, rest, rfl, hRest⟩)
      · exact ⟨[], c :: text, rfl, hHere⟩
      · exact ⟨c :: before, rest, rfl, hRest⟩
    · rintro ⟨before, rest, hText, hRest⟩
      cases before with
      | nil => exact Or.inl (hText ▸ hRest)
      | cons d before => exact Or.inr ⟨before, rest, (List.cons.inj hText).2, hRest⟩

theorem containsDomain_iff (text : List Char) : containsDomain text ↔ HasDomain text := by
  rw [containsDomain_iff_exists]
  constructor
  · rintro ⟨before, rest, rfl, hRest⟩
    obtain ⟨a, b, behind, rfl, ha, hb, hBehind⟩ := (startsWithDomain_iff rest).mp hRest
    obtain ⟨letters, after, rfl, hLetters⟩ := (startsWithTopLevel_iff behind).mp hBehind
    exact ⟨before, a, b, letters, after, rfl, ha, hb, hLetters⟩
  · rintro ⟨before, a, b, letters, after, rfl, ha, hb, hLetters⟩
    have hBehind := (startsWithTopLevel_iff (letters ++ after)).mpr ⟨letters, after, rfl, hLetters⟩
    exact ⟨before, _, rfl, (startsWithDomain_iff _).mpr ⟨a, b, _, rfl, ha, hb, hBehind⟩⟩

/-- An address is valid exactly if the pattern occurs in it, and that is if it has a domain. -/
theorem isValidUrl_iff (url : String) : (isValidUrl url ↔ addressPattern.OccursIn url.toList) ∧
    (isValidUrl url ↔ HasDomain url.toList) := by
  have hDomain : isValidUrl url ↔ HasDomain url.toList := containsDomain_iff url.toList
  exact ⟨hDomain.trans ⟨occursIn_of_hasDomain, hasDomain_of_occursIn⟩, hDomain⟩

example : isValidUrl "ab.comé" = false ∧ isValidUrl "a:b.com/é" = true := by decide +kernel

end MarkupLayout.Picture
