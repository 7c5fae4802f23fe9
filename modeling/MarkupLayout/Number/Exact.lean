/-!
# What a double denotes

A double is read off its bits as not a number, an infinity or `± significand · 2 ^ exponent`.
Integral values and rounding are computed on that exact form, since both have to hold for every
double and not only for those that fit a machine word.
-/

namespace MarkupLayout.Number

inductive Exact where
  | notANumber
  | infinite (negative : Bool)
  | finite (negative : Bool) (significand : Nat) (exponent : Int)
deriving DecidableEq, Repr

def Exact.ofFloat (x : Float) : Exact :=
  let bits := x.toBits.toNat
  let negative := bits / 0x8000000000000000 == 1
  let biased : Nat := bits / 0x10000000000000 % 2048
  let fraction : Nat := bits % 0x10000000000000
  if biased = 2047 then
    if fraction = 0 then .infinite negative else .notANumber
  else if biased = 0 then .finite negative fraction (-1074)
  else .finite negative (0x10000000000000 + fraction) ((biased : Int) - 1075)

def integer? (x : Float) : Option Int :=
  match Exact.ofFloat x with
  | .finite negative significand exponent =>
    let signed (n : Nat) : Int := if negative then -(n : Int) else n
    if 0 ≤ exponent then some (signed (significand <<< exponent.toNat))
    else
      let scale := 1 <<< (-exponent).toNat
      if significand % scale = 0 then some (signed (significand / scale)) else none
  | _ => none

/-- The nearest integer as a double; a half goes away from zero. -/
def round (x : Float) : Float :=
  match Exact.ofFloat x with
  | .finite negative significand exponent =>
    if 0 ≤ exponent then x
    else
      let scale := 1 <<< (-exponent).toNat
      let nearest := Float.ofNat ((2 * significand + scale) / (2 * scale))
      if negative then -nearest else nearest
  | _ => x

/-- The larger of two doubles; a value that is not a number gives way to the other. -/
def larger (x y : Float) : Float :=
  if x.isNaN then y else if x < y then y else x

end MarkupLayout.Number
