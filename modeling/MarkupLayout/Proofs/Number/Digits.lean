import Mathlib.Data.List.TakeDrop
import Mathlib.Data.Nat.Digits.Defs
import MarkupLayout.Number.Literal
import MarkupLayout.Proofs.Text.Runs

/-!
# Runs of digits

Digits are neither blank nor signs, so a run of them ends where something else begins. Its value is that
of its digits to the base ten.
-/

namespace MarkupLayout.Number

theorem isDigit_iff {c : Char} : c.isDigit ↔ 48 ≤ c.toNat ∧ c.toNat ≤ 57 := by
  show (decide _ && decide _) = true ↔ _
  rw [Bool.and_eq_true_iff, decide_eq_true_iff, decide_eq_true_iff]
  rfl

theorem not_isBlank_of_isDigit {c : Char} (h : c.isDigit) : Text.isBlank c = false := by
  have hRange := isDigit_iff.mp h
  by_contra hBlank
  simp only [Text.isBlank, Bool.not_eq_false, Bool.and_eq_true, Bool.or_eq_true, decide_eq_true_eq,
    beq_iff_eq] at hBlank
  omega

theorem digitsValue_eq_ofDigits (digits : List Char) : digitsValue 0 digits =
    Nat.ofDigits 10 (digits.reverse.map fun c => c.toNat - '0'.toNat) := by
  rw [Nat.ofDigits_eq_foldr, digitsValue, List.foldr_map, List.foldr_reverse]
  simp only [Nat.cast_id, Nat.add_comm]

theorem splitDigits_append {digits rest : List Char} (hDigits : ∀ c ∈ digits, c.isDigit)
    (hRest : ∀ c ∈ rest.head?, c.isDigit = false) : splitDigits (digits ++ rest) = (digits, rest) := by
  rw [splitDigits, List.span_eq_takeWhile_dropWhile, Text.takeWhile_run hDigits hRest,
    Text.dropWhile_run hDigits hRest]

theorem splitDigits_eq (text : List Char) : ∃ digits rest, splitDigits text = (digits, rest) ∧
    text = digits ++ rest ∧ ∀ c ∈ digits, c.isDigit := by
  refine ⟨text.takeWhile Char.isDigit, text.dropWhile Char.isDigit, ?_, ?_, ?_⟩
  · rw [splitDigits, List.span_eq_takeWhile_dropWhile]
  · exact List.takeWhile_append_dropWhile.symm
  · exact fun c hc => List.mem_takeWhile_imp hc

/-- A run of at least one digit. -/
structure Digits where
  chars : List Char
  ne_nil : chars ≠ []
  digit : chars.all Char.isDigit

def Digits.value (digits : Digits) : Nat :=
  Nat.ofDigits 10 (digits.chars.reverse.map fun c => c.toNat - '0'.toNat)

theorem Digits.digitsValue_chars (digits : Digits) : digitsValue 0 digits.chars = digits.value :=
  digitsValue_eq_ofDigits digits.chars

theorem Digits.isDigit_of_mem (digits : Digits) : ∀ c ∈ digits.chars, c.isDigit :=
  List.all_eq_true.mp digits.digit

theorem Digits.head_isDigit (digits : Digits) (rest : List Char) :
    ∀ c ∈ (digits.chars ++ rest).head?, c.isDigit := by
  obtain ⟨first, others, hChars⟩ := List.exists_cons_of_ne_nil digits.ne_nil
  intro c hc
  rw [hChars] at hc
  obtain rfl := Option.some.inj hc
  exact digits.isDigit_of_mem first (hChars ▸ List.mem_cons_self)

theorem exists_digits_iff (text : List Char) :
    (text ≠ [] ∧ text.all Char.isDigit) ↔ ∃ digits : Digits, digits.chars = text := by
  constructor
  · rintro ⟨hSome, hAll⟩
    exact ⟨⟨text, hSome, hAll⟩, rfl⟩
  · rintro ⟨digits, rfl⟩
    exact ⟨digits.ne_nil, digits.digit⟩

end MarkupLayout.Number
