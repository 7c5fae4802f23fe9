import MarkupLayout.Json.Basic
import MarkupLayout.Json.Outline

/-!
# Reading JSON values

An outline denotes a value if every escaped unit is a character or half of a pair, no number
overflows, and arrays and objects are nested at most `maxNesting` deep. An integer that fits 64
bits stays an integer; every other number is a double.
-/

namespace MarkupLayout.Json

def maxNesting : Nat := 127

def wordLimit : Nat := 0x10000000000000000

/-- The text that pieces denote; the halves of a surrogate pair must stand side by side. -/
def decodePieces : List Piece → Option (List Char)
  | [] => some []
  | .char c :: rest => (decodePieces rest).map (c :: ·)
  | .unit high :: .unit low :: rest =>
    if 0xD800 ≤ high ∧ high < 0xDC00 then
      if 0xDC00 ≤ low ∧ low < 0xE000 then
        let code := 0x10000 + (high - 0xD800) * 0x400 + (low - 0xDC00)
        (decodePieces rest).map (Char.ofNat code :: ·)
      else none
    else if 0xDC00 ≤ high ∧ high < 0xE000 then none
    else (decodePieces (.unit low :: rest)).map (Char.ofNat high :: ·)
  | .unit code :: rest =>
    if 0xD800 ≤ code ∧ code < 0xE000 then none
    else (decodePieces rest).map (Char.ofNat code :: ·)

/-- Takes digits into a significand as long as it fits 64 bits, and returns the digits left. -/
def absorb (significand : Nat) : List Char → Nat × List Char
  | [] => (significand, [])
  | c :: rest =>
    let next := 10 * significand + (c.toNat - '0'.toNat)
    if next < wordLimit then absorb next rest else (significand, c :: rest)

/-- `x · 10 ^ exponent` by one scaling; a scale beyond the greatest power of ten among the doubles
is divided out in steps of that power. -/
def scaled? (x : Float) (exponent : Int) : Option Float :=
  if 308 < exponent then
    if x == 0.0 then some x else none
  else if 0 ≤ exponent then
    let y := x * Float.ofScientific 1 false exponent.toNat
    if y.isInf then none else some y
  else if -308 ≤ exponent then some (x / Float.ofScientific 1 false exponent.natAbs)
  else if x == 0.0 then some x
  else scaled? (x / 1e308) (exponent + 308)
termination_by (-exponent).toNat

def Numeral.value? (n : Numeral) : Option Json :=
  let (significand, left) := absorb 0 n.whole
  let signed (x : Float) : Json := .float (if n.negative then -x else x)
  if left.isEmpty && n.fraction.isNone && n.power.isNone then
    if !n.negative then some (.int significand)
    else if significand = 0 ∨ 0x8000000000000000 < significand then some (signed (Float.ofNat significand))
    else some (.int (-significand))
  else
    let digits := n.fraction.getD []
    let (significand, rest) := absorb significand digits
    let exponent : Int := left.length - (digits.length - rest.length : Nat)
    let power := n.power.getD (false, [])
    let size := Number.digitsValue 0 power.2
    if 0x80000000 ≤ size then
      if significand ≠ 0 ∧ !power.1 then none else some (signed 0.0)
    else
      let exponent := if power.1 then exponent - size else exponent + size
      (scaled? (Float.ofNat significand) exponent).map signed

mutual

/-- The value of an outline that may nest `depth` levels deep. -/
def Outline.decode (depth : Nat) : Outline → Option Json
  | .null => some .null
  | .bool value => some (.bool value)
  | .number numeral => numeral.value?
  | .text pieces => (decodePieces pieces).map fun text => .str (String.ofList text)
  | .list items =>
    match depth with
    | 0 => none
    | depth + 1 => (decodeItems depth items).map .arr
  | .record members =>
    match depth with
    | 0 => none
    | depth + 1 => (decodeMembers depth members).map fun members =>
        .ofMap (SortedMap.ofList members)

def Outline.decodeItems (depth : Nat) : List Outline → Option (List Json)
  | [] => some []
  | item :: rest => do
    let value ← item.decode depth
    let values ← decodeItems depth rest
    some (value :: values)

def Outline.decodeMembers (depth : Nat) :
    List (List Piece × Outline) → Option (List (String × Json))
  | [] => some []
  | (key, item) :: rest => do
    let key ← decodePieces key
    let value ← item.decode depth
    let values ← decodeMembers depth rest
    some ((String.ofList key, value) :: values)

end

def parse? (text : String) : Option Json :=
  (Outline.ofText? text).bind (Outline.decode maxNesting)

end MarkupLayout.Json
