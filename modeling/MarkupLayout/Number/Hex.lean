/-!
# Hexadecimal digits

Numbers to the base sixteen: one digit at a time in both directions, a byte in its two lower-case
digits, and the value of a run of digits.
-/

namespace MarkupLayout.Number

def hexDigit (n : Nat) : Char :=
  (Nat.toDigits 16 n).getD 0 '0'

/-- A number of at most 255 in two digits. -/
def hexByte (n : Nat) : List Char :=
  [hexDigit (n / 16), hexDigit (n % 16)]

def hexValue? (c : Char) : Option Nat :=
  if c.isDigit then some (c.toNat - '0'.toNat)
  else if 'a' ≤ c ∧ c ≤ 'f' then some (c.toNat - 'a'.toNat + 10)
  else if 'A' ≤ c ∧ c ≤ 'F' then some (c.toNat - 'A'.toNat + 10)
  else none

def hexNumber (digits : List Char) : Nat :=
  digits.foldl (fun value c => 16 * value + (hexValue? c).getD 0) 0

end MarkupLayout.Number
