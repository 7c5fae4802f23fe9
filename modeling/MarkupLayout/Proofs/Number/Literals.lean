import MarkupLayout.Proofs.Number.Digits
import MarkupLayout.Text.Lowercase

/-!
# What reads as a number

Behind an optional sign a literal is a word for infinity or for not a number, or it is digits with a point
among or around them and an optional power of ten. The texts of literals are exactly those that are read,
and what is read is the value of the literal.
-/

namespace MarkupLayout.Number

inductive Sign where
  | none
  | plus
  | minus
deriving DecidableEq

def Sign.chars : Sign → List Char
  | none => []
  | plus => ['+']
  | minus => ['-']

def Sign.isMinus (sign : Sign) : Bool :=
  sign = minus

/-- At least one digit, with an optional point. -/
structure Mantissa where
  whole : List Char
  fraction : Option (List Char)
  ne_nil : whole ++ fraction.getD [] ≠ []
  digit : ∀ c ∈ whole ++ fraction.getD [], c.isDigit

namespace Mantissa

def digits (m : Mantissa) : Digits :=
  ⟨m.whole ++ m.fraction.getD [], m.ne_nil, List.all_eq_true.mpr m.digit⟩

def chars (m : Mantissa) : List Char :=
  m.whole ++ m.fraction.elim [] ('.' :: ·)

/-- The double nearest to the mantissa times a power of ten. -/
def value (m : Mantissa) (negative : Bool) (exponent : Int) : Float :=
  nearest negative m.digits.value (exponent - (m.fraction.getD []).length)

theorem value_eq (m : Mantissa) (negative : Bool) (exponent : Int) : m.value negative exponent =
    nearest negative (digitsValue 0 (m.whole ++ m.fraction.getD []))
      (exponent - (m.fraction.getD []).length) := by
  rw [value, ← m.digits.digitsValue_chars, digits]

end Mantissa

structure Power where
  mark : Char
  sign : Sign
  digits : Digits
  isMark : mark = 'e' ∨ mark = 'E'

namespace Power

def chars (power : Power) : List Char :=
  power.mark :: (power.sign.chars ++ power.digits.chars)

def exponent (power : Power) : Int :=
  if power.sign.isMinus then -power.digits.value else power.digits.value

end Power

inductive Word where
  | inf
  | infinity
  | nan
deriving DecidableEq

namespace Word

def name : Word → String
  | inf => "inf"
  | infinity => "infinity"
  | nan => "nan"

def value (negative : Bool) : Word → Float
  | inf | infinity => if negative then -1.0 / 0.0 else 1.0 / 0.0
  | nan => 0.0 / 0.0

end Word

/-- The letters of a word may be capitals. -/
inductive Literal where
  | word (sign : Sign) (word : Word) (letters : List Char)
      (h : letters.map Char.toLower = word.name.toList)
  | number (sign : Sign) (mantissa : Mantissa) (power : Option Power)

namespace Literal

def chars : Literal → List Char
  | .word sign _ letters _ => sign.chars ++ letters
  | .number sign mantissa power => sign.chars ++ (mantissa.chars ++ power.elim [] Power.chars)

def value : Literal → Float
  | .word sign spelled _ _ => spelled.value sign.isMinus
  | .number sign mantissa power => mantissa.value sign.isMinus (power.elim 0 Power.exponent)

end Literal

theorem splitSign_eq (text : List Char) :
    ∃ sign : Sign, ∃ rest, splitSign text = (sign.isMinus, rest) ∧ text = sign.chars ++ rest := by
  unfold splitSign
  split
  · next rest => exact ⟨.minus, rest, rfl, rfl⟩
  · next rest => exact ⟨.plus, rest, rfl, rfl⟩
  · exact ⟨.none, text, rfl, rfl⟩

theorem splitSign_append (sign : Sign) {rest : List Char} (h : ∀ c ∈ rest.head?, c ≠ '-' ∧ c ≠ '+') :
    splitSign (sign.chars ++ rest) = (sign.isMinus, rest) := by
  cases sign with
  | none =>
    show splitSign rest = (false, rest)
    unfold splitSign
    split
    · exact absurd rfl (h '-' rfl).1
    · exact absurd rfl (h '+' rfl).2
    · rfl
  | plus => rfl
  | minus => rfl

theorem ne_sign_of_isDigit {c : Char} (h : c.isDigit) : c ≠ '-' ∧ c ≠ '+' := by
  constructor
  · rintro rfl
    cases h
  · rintro rfl
    cases h

theorem exponent?_chars (power : Option Power) :
    exponent? (power.elim [] Power.chars) = some (power.elim 0 Power.exponent) := by
  cases power with
  | none => rfl
  | some power =>
    have hHead : ∀ c ∈ power.digits.chars.head?, c ≠ '-' ∧ c ≠ '+' := fun c hc =>
      ne_sign_of_isDigit (power.digits.head_isDigit [] c (List.append_nil _ ▸ hc))
    have hDigits := (exists_digits_iff power.digits.chars).mpr ⟨power.digits, rfl⟩
    simp only [Option.elim_some, Power.chars, exponent?]
    rw [if_pos power.isMark, splitSign_append power.sign hHead]
    dsimp only
    rw [if_pos hDigits, power.digits.digitsValue_chars, Power.exponent]

theorem exists_of_exponent? {text : List Char} {n : Int} (h : exponent? text = some n) :
    ∃ power : Option Power, power.elim [] Power.chars = text ∧ power.elim 0 Power.exponent = n := by
  cases text with
  | nil => exact ⟨none, rfl, Option.some.inj h⟩
  | cons mark rest =>
    simp only [exponent?] at h
    split at h
    · next hMark =>
      obtain ⟨sign, tail, hSplit, rfl⟩ := splitSign_eq rest
      rw [hSplit] at h
      dsimp only at h
      split at h
      · next hDigits =>
        obtain ⟨digits, rfl⟩ := (exists_digits_iff tail).mp hDigits
        rw [digits.digitsValue_chars] at h
        exact ⟨some ⟨mark, sign, digits, hMark⟩, rfl, Option.some.inj h⟩
      · cases h
    · cases h

section Unsigned

variable (negative : Bool)

theorem unsigned?_point {text whole rest : List Char} (hSplit : splitDigits text = (whole, '.' :: rest)) :
    unsigned? negative text =
      if whole.isEmpty && (splitDigits rest).1.isEmpty then none
      else (exponent? (splitDigits rest).2).map fun exponent =>
        nearest negative (digitsValue 0 (whole ++ (splitDigits rest).1))
          (exponent - (splitDigits rest).1.length) := by
  rw [unsigned?, hSplit]
  rfl

theorem unsigned?_pointless {text whole rest : List Char} (hSplit : splitDigits text = (whole, rest))
    (h : rest.head? ≠ some '.') : unsigned? negative text =
      if whole.isEmpty then none
      else (exponent? rest).map fun exponent => nearest negative (digitsValue 0 whole) exponent := by
  rw [unsigned?, hSplit]
  dsimp only
  split
  · exact absurd rfl h
  · simp

theorem unsigned?_append (m : Mantissa) {rest : List Char}
    (hRest : ∀ c ∈ rest.head?, c.isDigit = false ∧ c ≠ '.') :
    unsigned? negative (m.chars ++ rest) = (exponent? rest).map (m.value negative) := by
  have hEnd : ∀ c ∈ rest.head?, c.isDigit = false := fun c hc => (hRest c hc).1
  rw [funext (m.value_eq negative)]
  obtain ⟨whole, fraction, hSome, hDigit⟩ := m
  cases fraction with
  | none =>
    rw [Option.getD_none, List.append_nil] at hSome hDigit
    have hSplit : splitDigits (whole ++ [] ++ rest) = (whole, rest) := by
      rw [List.append_nil, splitDigits_append hDigit hEnd]
    have hPoint : rest.head? ≠ some '.' := fun h => (hRest '.' h).2 rfl
    have hWhole : ¬whole.isEmpty := by simpa using hSome
    rw [Mantissa.chars, Option.elim_none, unsigned?_pointless negative hSplit hPoint, if_neg hWhole]
    simp
  | some fraction =>
    rw [Option.getD_some] at hSome hDigit
    obtain ⟨hWhole, hFraction⟩ := List.forall_mem_append.mp hDigit
    have hSplit : splitDigits (whole ++ '.' :: fraction ++ rest) = (whole, '.' :: (fraction ++ rest)) := by
      rw [List.append_assoc, List.cons_append, splitDigits_append hWhole]
      rintro c hc
      obtain rfl := Option.some.inj hc
      decide
    have hBoth : ¬(whole.isEmpty && fraction.isEmpty) := by simpa using hSome
    rw [Mantissa.chars, Option.elim_some, unsigned?_point negative hSplit,
      splitDigits_append hFraction hEnd, if_neg hBoth]
    rfl

theorem unsigned?_chars (m : Mantissa) (power : Option Power) :
    unsigned? negative (m.chars ++ power.elim [] Power.chars) =
      some (m.value negative (power.elim 0 Power.exponent)) := by
  rw [unsigned?_append, exponent?_chars, Option.map_some]
  intro c hc
  cases power with
  | none => cases hc
  | some power =>
    obtain rfl := Option.some.inj hc
    rcases power.isMark with hMark | hMark <;> rw [hMark] <;> decide

variable {negative}

theorem exists_of_unsigned? {text : List Char} {x : Float} (h : unsigned? negative text = some x) :
    ∃ (m : Mantissa) (power : Option Power), m.chars ++ power.elim [] Power.chars = text ∧
      m.value negative (power.elim 0 Power.exponent) = x := by
  obtain ⟨whole, rest, hSplit, rfl, hWhole⟩ := splitDigits_eq text
  by_cases hPoint : rest.head? = some '.'
  · obtain ⟨tail, rfl⟩ := List.head?_eq_some_iff.mp hPoint
    obtain ⟨fraction, tail, hTail, rfl, hFraction⟩ := splitDigits_eq tail
    rw [unsigned?_point negative hSplit, hTail] at h
    split at h
    · cases h
    · next hSome =>
      obtain ⟨n, hExponent, hValue⟩ := Option.map_eq_some_iff.mp h
      obtain ⟨power, rfl, rfl⟩ := exists_of_exponent? hExponent
      let m : Mantissa := ⟨whole, some fraction, by simpa using hSome,
        List.forall_mem_append.mpr ⟨hWhole, hFraction⟩⟩
      refine ⟨m, power, ?_, (m.value_eq negative _).trans hValue⟩
      simp [m, Mantissa.chars]
  · rw [unsigned?_pointless negative hSplit hPoint] at h
    split at h
    · cases h
    · next hSome =>
      obtain ⟨n, hExponent, hValue⟩ := Option.map_eq_some_iff.mp h
      obtain ⟨power, rfl, rfl⟩ := exists_of_exponent? hExponent
      let m : Mantissa := ⟨whole, none, by simpa using hSome, by simpa using hWhole⟩
      refine ⟨m, power, ?_, (m.value_eq negative _).trans ?_⟩
      · simp [m, Mantissa.chars]
      · simpa [m] using hValue

end Unsigned

theorem not_word_of_head {text : List Char} (hHead : ∀ c ∈ text.head?, c.isDigit ∨ c = '.') (word : Word) :
    text.map Char.toLower ≠ word.name.toList := by
  intro hWord
  cases text with
  | nil => cases word <;> cases hWord
  | cons c rest =>
    have hLower : c.toLower = c := by
      refine Text.toLower_of_not_isUpper fun hUpper => ?_
      have hRange := Text.isUpper_iff.mp hUpper
      rcases hHead c rfl with hDigit | rfl
      · have := isDigit_iff.mp hDigit
        omega
      · cases hUpper
    rw [List.map_cons, hLower] at hWord
    have hLetter : c = 'i' ∨ c = 'n' := by
      cases word with
      | inf => exact .inl (List.cons.inj hWord).1
      | infinity => exact .inl (List.cons.inj hWord).1
      | nan => exact .inr (List.cons.inj hWord).1
    rcases hLetter with rfl | rfl <;> rcases hHead _ rfl with hDigit | hPoint <;> contradiction

theorem literal?_of_splitSign {text body : List Char} {sign : Sign}
    (hSplit : splitSign text = (sign.isMinus, body)) : literal? text =
      if body.map Char.toLower = Word.inf.name.toList ∨ body.map Char.toLower = Word.infinity.name.toList
      then some (Word.inf.value sign.isMinus)
      else if body.map Char.toLower = Word.nan.name.toList then some (Word.nan.value sign.isMinus)
      else unsigned? sign.isMinus body := by
  have hName (name : String) : String.ofList (body.map Char.toLower) = name ↔
      body.map Char.toLower = name.toList := by
    rw [← String.toList_inj, String.toList_ofList]
  rw [literal?, hSplit]
  simp only [hName]
  rfl

theorem literal?_of_number {body : List Char} (sign : Sign)
    (hHead : ∀ c ∈ body.head?, c.isDigit ∨ c = '.') :
    literal? (sign.chars ++ body) = unsigned? sign.isMinus body := by
  have hSign : ∀ c ∈ body.head?, c ≠ '-' ∧ c ≠ '+' := by
    intro c hc
    rcases hHead c hc with hDigit | rfl
    · exact ne_sign_of_isDigit hDigit
    · decide
  rw [literal?_of_splitSign (splitSign_append sign hSign),
    if_neg (not_or.mpr ⟨not_word_of_head hHead _, not_word_of_head hHead _⟩),
    if_neg (not_word_of_head hHead _)]

theorem Mantissa.head_chars (m : Mantissa) (rest : List Char) :
    ∀ c ∈ (m.chars ++ rest).head?, c.isDigit ∨ c = '.' := by
  obtain ⟨whole, fraction, hSome, hDigit⟩ := m
  intro c hc
  cases whole with
  | cons first whole =>
    obtain rfl := Option.some.inj hc
    exact .inl (hDigit first (List.mem_cons_self ..))
  | nil =>
    cases fraction with
    | none => exact absurd rfl hSome
    | some fraction =>
      obtain rfl := Option.some.inj hc
      exact .inr rfl

theorem literal?_chars (l : Literal) : literal? l.chars = some l.value := by
  cases l with
  | word sign spelled letters hLetters =>
    have hSign : ∀ c ∈ letters.head?, c ≠ '-' ∧ c ≠ '+' := by
      intro c hc
      obtain ⟨rest, rfl⟩ := List.head?_eq_some_iff.mp hc
      constructor
      · rintro rfl
        cases spelled <;> cases hLetters
      · rintro rfl
        cases spelled <;> cases hLetters
    rw [Literal.chars, literal?_of_splitSign (splitSign_append sign hSign), hLetters]
    cases spelled <;> rfl
  | number sign m power =>
    rw [Literal.chars, literal?_of_number sign (m.head_chars _), unsigned?_chars]
    rfl

/-- What is read are the values of literals. -/
theorem literal?_eq_some_iff {text : List Char} {x : Float} :
    literal? text = some x ↔ ∃ l : Literal, l.chars = text ∧ l.value = x := by
  constructor
  · intro h
    obtain ⟨sign, body, hSplit, rfl⟩ := splitSign_eq text
    rw [literal?_of_splitSign hSplit] at h
    split at h
    · next hInfinite =>
      have hValue := Option.some.inj h
      rcases hInfinite with hWord | hWord
      · exact ⟨.word sign .inf body hWord, rfl, hValue⟩
      · exact ⟨.word sign .infinity body hWord, rfl, hValue⟩
    · split at h
      · next hWord => exact ⟨.word sign .nan body hWord, rfl, Option.some.inj h⟩
      · obtain ⟨m, power, rfl, hValue⟩ := exists_of_unsigned? h
        exact ⟨.number sign m power, rfl, hValue⟩
  · rintro ⟨l, rfl, rfl⟩
    exact literal?_chars l

end MarkupLayout.Number
