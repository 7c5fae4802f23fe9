import MarkupLayout.Number.Exact

/-!
# The shortest decimal of a double

Among the decimals that read back to a given double, those with the fewest digits are wanted, and
of these the nearest. The reals that round to `significand · 2 ^ exponent` form an interval, whose
ends belong to it exactly when the significand is even. Ever finer decimal grids are tried; on
each it is enough to look at the two neighbours of the value.
-/

namespace MarkupLayout.Number

/-- The decimal `digits · 10 ^ exponent`. -/
structure Decimal where
  digits : Nat
  exponent : Int
deriving DecidableEq, Repr

/-- An interval of reals and a point in it, as numerators over one denominator. -/
structure Rounding where
  low : Nat
  value : Nat
  high : Nat
  denominator : Nat
  closed : Bool

/-- The reals that round to `significand · 2 ^ exponent`. Below a power of two the doubles are
twice as dense, save at the least exponent. -/
def Rounding.of (significand : Nat) (exponent : Int) : Rounding :=
  let below := if significand = 0x10000000000000 ∧ exponent ≠ -1074 then 1 else 2
  let scale := if 2 ≤ exponent then 1 <<< (exponent - 2).toNat else 1
  { low := (4 * significand - below) * scale
    value := 4 * significand * scale
    high := (4 * significand + 2) * scale
    denominator := if 2 ≤ exponent then 1 else 1 <<< (2 - exponent).toNat
    closed := significand % 2 = 0 }

/-- The multiple of `10 ^ grid` in the interval that is nearest to its value; of two at the same
distance the even one. -/
def Rounding.onGrid? (interval : Rounding) (grid : Int) : Option Decimal :=
  let up := if grid < 0 then Nat.pow 10 (-grid).toNat else 1
  let unit := interval.denominator * (if grid < 0 then 1 else Nat.pow 10 grid.toNat)
  let value := interval.value * up
  let below := value / unit
  let inside (k : Nat) : Bool :=
    if interval.closed then interval.low * up ≤ k * unit && k * unit ≤ interval.high * up
    else interval.low * up < k * unit && k * unit < interval.high * up
  let gap := 2 * (value - below * unit)
  let preferAbove := unit < gap || (unit == gap && below % 2 == 1)
  if inside below && !(preferAbove && inside (below + 1)) then some ⟨below, grid⟩
  else if inside (below + 1) then some ⟨below + 1, grid⟩
  else none

def Decimal.trim : Nat → Decimal → Decimal
  | 0, d => d
  | fuel + 1, d =>
    if d.digits ≠ 0 ∧ d.digits % 10 = 0 then trim fuel ⟨d.digits / 10, d.exponent + 1⟩ else d

/-- The shortest decimal that reads back to `significand · 2 ^ exponent`. The first grid tried is
never finer than one digit, and seventeen digits always suffice. -/
def shortest (significand : Nat) (exponent : Int) : Decimal :=
  let interval := Rounding.of significand exponent
  let magnitude := (exponent + significand.log2) * 30103 / 100000 + 1
  let found := (List.range 20).findSome? fun (n : Nat) => interval.onGrid? (magnitude - n)
  (found.getD ⟨significand, 0⟩).trim 20

end MarkupLayout.Number
