import MarkupLayout.Proofs.Number.PlainDecimal
import MarkupLayout.Style.Length

/-!
# Which texts are lengths

Between blanks, a length is a literal with a finite value or a measure: a plain decimal and directly behind
it a unit. Literals of every kind are read first, but no measure is one.
-/

namespace MarkupLayout.Style

open Number

def LengthUnit.name : LengthUnit → String
  | pt => "pt"
  | px => "px"
  | rem => "rem"
  | cm => "cm"
  | mm => "mm"
  | inch => "in"

structure Measure where
  number : PlainDecimal
  unit : LengthUnit

namespace Measure

def chars (m : Measure) : List Char :=
  m.number.chars ++ m.unit.name.toList

def points (m : Measure) : Float :=
  m.unit.points m.number.value

end Measure

namespace LengthUnit

theorem ofText?_eq_some_iff {text : List Char} {unit : LengthUnit} :
    ofText? text = some unit ↔ unit.name.toList = text := by
  have hName (name : String) : String.ofList text = name ↔ name.toList = text := by
    rw [← String.toList_inj, String.toList_ofList, eq_comm]
  constructor
  · intro h
    rw [ofText?] at h
    split at h
    all_goals
      cases h
    all_goals
      rename_i hText
      exact (hName _).mp hText
  · rintro rfl
    cases unit <;> rfl

theorem head_name (unit : LengthUnit) : ∀ c ∈ unit.name.toList.head?, c.isDigit = false ∧ c ≠ '.' := by
  intro c hc
  cases unit <;> obtain rfl := Option.some.inj hc <;> decide

theorem exponent?_name (unit : LengthUnit) : exponent? unit.name.toList = none := by
  cases unit <;> rfl

end LengthUnit

theorem literal?_measure (m : Measure) : literal? m.chars = none :=
  m.number.literal?_append_eq_none m.unit.head_name m.unit.exponent?_name

theorem unitLength?_eq_some_iff {text : List Char} {x : Float} :
    unitLength? text = some x ↔ ∃ m : Measure, m.chars = text ∧ m.points = x := by
  rw [unitLength?, List.span_eq_takeWhile_dropWhile]
  constructor
  · intro h
    dsimp only at h
    split at h
    · next hPlain =>
      obtain ⟨number, hNumber⟩ := (isPlainDecimal_iff _).mp hPlain
      obtain ⟨y, hValue, h⟩ := Option.bind_eq_some_iff.mp h
      obtain ⟨unit, hUnit, hPoints⟩ := Option.bind_eq_some_iff.mp h
      rw [← hNumber, number.literal?_chars] at hValue
      obtain rfl := Option.some.inj hValue
      refine ⟨⟨number, unit⟩, ?_, Option.some.inj hPoints⟩
      rw [Measure.chars, hNumber, LengthUnit.ofText?_eq_some_iff.mp hUnit,
        List.takeWhile_append_dropWhile]
    · cases h
  · rintro ⟨m, rfl, rfl⟩
    have hEnd : ∀ c ∈ m.unit.name.toList.head?, (c.isDigit || c == '.') = false := by
      intro c hc
      obtain ⟨hDigit, hPoint⟩ := m.unit.head_name c hc
      rw [hDigit, Bool.false_or, beq_eq_false_iff_ne]
      exact hPoint
    rw [Measure.chars, Text.takeWhile_run m.number.isDigit_or_point hEnd,
      Text.dropWhile_run m.number.isDigit_or_point hEnd]
    dsimp only
    rw [if_pos ((isPlainDecimal_iff _).mpr ⟨m.number, rfl⟩), m.number.literal?_chars,
      LengthUnit.ofText?_eq_some_iff.mpr rfl]
    rfl

theorem length?_eq_some_iff {text : String} {x : Float} : length? text = some x ↔
    (literal? (Text.trim text.toList) = some x ∧ x.isFinite) ∨
      ∃ m : Measure, m.chars = Text.trim text.toList ∧ m.points = x := by
  rw [length?]
  cases hRead : literal? (Text.trim text.toList) with
  | some y =>
    have hNone : ¬∃ m : Measure, m.chars = Text.trim text.toList ∧ m.points = x := by
      rintro ⟨m, hChars, -⟩
      rw [← hChars, literal?_measure] at hRead
      cases hRead
    rw [or_iff_left hNone]
    dsimp only
    split
    · next hFinite =>
      constructor
      · intro h
        obtain rfl := Option.some.inj h
        exact ⟨rfl, hFinite⟩
      · exact And.left
    · next hInfinite =>
      refine iff_of_false nofun ?_
      rintro ⟨h, hFinite⟩
      obtain rfl := Option.some.inj h
      exact hInfinite hFinite
  | none =>
    dsimp only
    rw [unitLength?_eq_some_iff, or_iff_right]
    exact fun h => nomatch h.1

/-- A text has a length exactly if without the blanks around it, it is a literal with a finite value, which
is the length, or a measure. No measure is a literal, and what is read as a literal are just these. -/
theorem length?_of_literal_or_measure (text : String) :
    (∀ x, length? text = some x ↔ ∃ body, Text.Trimmed text.toList body ∧
      ((literal? body = some x ∧ x.isFinite) ∨ ∃ m : Measure, m.chars = body ∧ m.points = x)) ∧
    (∀ m : Measure, literal? m.chars = none) ∧
    ∀ body x, literal? body = some x ↔ ∃ l : Literal, l.chars = body ∧ l.value = x := by
  refine ⟨fun x => ?_, literal?_measure, fun body x => literal?_eq_some_iff⟩
  rw [length?_eq_some_iff]
  constructor
  · exact fun h => ⟨_, Text.trimmed_trim text.toList, h⟩
  · rintro ⟨body, hBody, h⟩
    rwa [hBody.trim_eq]

example : (length? " -.5E+1\u00A0").isSome ∧ (length? "007.50mm").isSome ∧ length? "1.px" = none ∧
    length? "1e2pt" = none ∧ length? "iNF" = none := by
  decide +kernel

end MarkupLayout.Style
