/-!
# Decimal literals

The numbers that attributes and style text may spell out: an optional sign, digits with an
optional point among or around them, and an optional power of ten; or one of the words for
infinity and for not a number. A literal denotes the double nearest to it.
-/

namespace MarkupLayout.Number

def digitsValue (start : Nat) (digits : List Char) : Nat :=
  digits.foldl (fun value c => 10 * value + (c.toNat - '0'.toNat)) start

/-- The double nearest to `± significand · 10 ^ exponent`; far out of range it is not computed
through the power. -/
def nearest (negative : Bool) (significand : Nat) (exponent : Int) : Float :=
  let magnitude := (Nat.toDigits 10 significand).length + exponent
  let absolute :=
    if significand = 0 ∨ magnitude < -330 then 0.0
    else if 310 < magnitude then 1.0 / 0.0
    else Float.ofScientific significand (exponent < 0) exponent.natAbs
  if negative then -absolute else absolute

/-- Splits off a leading sign; the flag says that it was a minus. -/
def splitSign : List Char → Bool × List Char
  | '-' :: rest => (true, rest)
  | '+' :: rest => (false, rest)
  | text => (false, text)

def splitDigits (text : List Char) : List Char × List Char :=
  text.span Char.isDigit

def exponent? (text : List Char) : Option Int :=
  match text with
  | [] => some 0
  | mark :: rest =>
    if mark = 'e' ∨ mark = 'E' then
      let (negative, digits) := splitSign rest
      if digits ≠ [] ∧ digits.all Char.isDigit then
        let size := digitsValue 0 digits
        some (if negative then -(size : Int) else size)
      else none
    else none

def unsigned? (negative : Bool) (text : List Char) : Option Float :=
  let (whole, rest) := splitDigits text
  let (fraction, rest) := match rest with
    | '.' :: rest => splitDigits rest
    | _ => ([], rest)
  if whole.isEmpty && fraction.isEmpty then none
  else (exponent? rest).map fun exponent =>
    nearest negative (digitsValue 0 (whole ++ fraction)) (exponent - fraction.length)

def literal? (text : List Char) : Option Float :=
  let (negative, body) := splitSign text
  let word := String.ofList (body.map Char.toLower)
  if word = "inf" ∨ word = "infinity" then
    some (if negative then -1.0 / 0.0 else 1.0 / 0.0)
  else if word = "nan" then some (0.0 / 0.0)
  else unsigned? negative body

def isPlainDecimal (text : List Char) : Bool :=
  let (whole, rest) := splitDigits text
  !whole.isEmpty && match rest with
    | [] => true
    | '.' :: fraction => !fraction.isEmpty && fraction.all Char.isDigit
    | _ => false

/-- The integer at the start of a text: an optional sign and at least one digit. One whose digits
do not fit a signed 64-bit word is not read. -/
def leadingInteger? (text : List Char) : Option Int :=
  let (negative, rest) := splitSign text
  let digits := (splitDigits rest).1
  let size := digitsValue 0 digits
  if digits.isEmpty || 0x8000000000000000 ≤ size then none
  else some (if negative then -(size : Int) else size)

/-- A number below `2 ^ 32`, written in digits with an optional plus. -/
def count32? (text : List Char) : Option Nat :=
  let digits := match text with
    | '+' :: rest => rest
    | _ => text
  let size := digitsValue 0 digits
  if digits.isEmpty || !digits.all Char.isDigit || 0x100000000 ≤ size then none else some size

end MarkupLayout.Number
