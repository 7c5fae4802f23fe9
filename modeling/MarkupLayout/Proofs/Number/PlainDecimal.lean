import MarkupLayout.Proofs.Number.Literals

/-!
# Plain decimals

Digits, or digits on both sides of a point, are literals. In front of something else than a digit, a point
or a power of ten they are none, so a unit behind them keeps them from being read as a number.
-/

namespace MarkupLayout.Number

/-- Digits, with a point only where digits follow it as well. -/
structure PlainDecimal where
  whole : Digits
  fraction : Option Digits

namespace PlainDecimal

def chars (d : PlainDecimal) : List Char :=
  d.whole.chars ++ d.fraction.elim [] fun fraction => '.' :: fraction.chars

def mantissa (d : PlainDecimal) : Mantissa where
  whole := d.whole.chars
  fraction := d.fraction.map Digits.chars
  ne_nil := List.append_ne_nil_of_left_ne_nil d.whole.ne_nil _
  digit := by
    refine List.forall_mem_append.mpr ⟨d.whole.isDigit_of_mem, ?_⟩
    cases d.fraction with
    | none => exact nofun
    | some fraction => exact fraction.isDigit_of_mem

def value (d : PlainDecimal) : Float :=
  d.mantissa.value false 0

theorem chars_mantissa (d : PlainDecimal) : d.mantissa.chars = d.chars := by
  obtain ⟨whole, fraction⟩ := d
  cases fraction <;> rfl

theorem isDigit_or_point (d : PlainDecimal) : ∀ c ∈ d.chars, c.isDigit || c == '.' := by
  intro c hc
  rw [Bool.or_eq_true, beq_iff_eq]
  rcases List.mem_append.mp hc with hWhole | hFraction
  · exact .inl (d.whole.isDigit_of_mem c hWhole)
  · cases hSome : d.fraction with
    | none =>
      rw [hSome] at hFraction
      cases hFraction
    | some fraction =>
      rw [hSome] at hFraction
      exact (List.mem_cons.mp hFraction).symm.imp_left (fraction.isDigit_of_mem c)

theorem literal?_chars (d : PlainDecimal) : literal? d.chars = some d.value := by
  have hLiteral := Number.literal?_chars (.number .none d.mantissa none)
  rwa [Literal.chars, Option.elim_none, List.append_nil, d.chars_mantissa] at hLiteral

theorem literal?_append_eq_none (d : PlainDecimal) {rest : List Char}
    (hRest : ∀ c ∈ rest.head?, c.isDigit = false ∧ c ≠ '.') (hPower : exponent? rest = none) :
    literal? (d.chars ++ rest) = none := by
  have hRead := literal?_of_number .none (d.mantissa.head_chars rest)
  rw [unsigned?_append _ d.mantissa hRest, hPower, d.chars_mantissa] at hRead
  exact hRead

end PlainDecimal

theorem isPlainDecimal_iff (text : List Char) :
    isPlainDecimal text ↔ ∃ d : PlainDecimal, d.chars = text := by
  rw [isPlainDecimal]
  constructor
  · obtain ⟨whole, rest, hSplit, rfl, hWhole⟩ := splitDigits_eq text
    rw [hSplit]
    intro h
    dsimp only at h
    obtain ⟨hSome, hRest⟩ := Bool.and_eq_true_iff.mp h
    have hDigits : whole ≠ [] := by simpa using hSome
    split at hRest
    · exact ⟨⟨⟨whole, hDigits, List.all_eq_true.mpr hWhole⟩, none⟩, rfl⟩
    · next fraction =>
      obtain ⟨hSome, hFraction⟩ := Bool.and_eq_true_iff.mp hRest
      obtain ⟨digits, rfl⟩ := (exists_digits_iff fraction).mp ⟨by simpa using hSome, hFraction⟩
      exact ⟨⟨⟨whole, hDigits, List.all_eq_true.mpr hWhole⟩, some digits⟩, rfl⟩
    · cases hRest
  · rintro ⟨⟨whole, fraction⟩, rfl⟩
    have hWhole : !whole.chars.isEmpty := by simpa using whole.ne_nil
    cases fraction with
    | none =>
      have hEnd : ∀ c ∈ ([] : List Char).head?, c.isDigit = false := by simp
      rw [PlainDecimal.chars, Option.elim_none, splitDigits_append whole.isDigit_of_mem hEnd]
      exact Bool.and_eq_true_iff.mpr ⟨hWhole, rfl⟩
    | some fraction =>
      have hPoint : ∀ c ∈ ('.' :: fraction.chars).head?, c.isDigit = false := by
        rintro c hc
        obtain rfl := Option.some.inj hc
        decide
      have hFraction : !fraction.chars.isEmpty := by simpa using fraction.ne_nil
      rw [PlainDecimal.chars, Option.elim_some, splitDigits_append whole.isDigit_of_mem hPoint]
      exact Bool.and_eq_true_iff.mpr
        ⟨hWhole, Bool.and_eq_true_iff.mpr ⟨hFraction, fraction.digit⟩⟩

end MarkupLayout.Number
