import MarkupLayout.Number.Exact
import MarkupLayout.Number.Literal
import MarkupLayout.Text.Blank

/-!
# Lengths in points

A length is a bare number, taken as points, or digits with a unit. Pixels, centimetres and
millimetres are rounded to whole points; signs, percentages and other units have no length.
-/

namespace MarkupLayout.Style

inductive LengthUnit where
  | pt
  | px
  | rem
  | cm
  | mm
  | inch
deriving DecidableEq, Repr

namespace LengthUnit

def ofText? (text : List Char) : Option LengthUnit :=
  match String.ofList text with
  | "pt" => some pt
  | "px" => some px
  | "rem" => some rem
  | "cm" => some cm
  | "mm" => some mm
  | "in" => some inch
  | _ => none

def points (x : Float) : LengthUnit → Float
  | pt => x
  | px => Number.round (x * 0.75292857248934)
  | rem => x * 12.0
  | cm => Number.round (x * 28.34646)
  | mm => Number.round (x * 2.834646)
  | inch => x * 72.0

end LengthUnit

def unitLength? (text : List Char) : Option Float :=
  let (number, unit) := text.span fun c => c.isDigit || c == '.'
  if Number.isPlainDecimal number then do
    let x ← Number.literal? number
    let unit ← LengthUnit.ofText? unit
    some (unit.points x)
  else none

def length? (text : String) : Option Float :=
  let text := Text.trim text.toList
  match Number.literal? text with
  | some x => if x.isFinite then some x else none
  | none => unitLength? text

end MarkupLayout.Style
