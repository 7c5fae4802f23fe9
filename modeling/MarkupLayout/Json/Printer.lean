import MarkupLayout.Json.Basic
import MarkupLayout.Number.Hex
import MarkupLayout.Number.Shortest

/-!
# JSON text

Values are written without spaces. A double has the fewest digits that read back, always with a
point or an exponent; the exponent is used from ten to the sixteenth up and below a hundred
thousandth, and is always signed.
-/

namespace MarkupLayout.Json

def quotedChar (c : Char) : List Char :=
  if c = '"' then ['\\', '"']
  else if c = '\\' then ['\\', '\\']
  else if 0x20 ≤ c.toNat then [c]
  else match c.toNat with
    | 8 => ['\\', 'b']
    | 9 => ['\\', 't']
    | 10 => ['\\', 'n']
    | 12 => ['\\', 'f']
    | 13 => ['\\', 'r']
    | code => ['\\', 'u', '0', '0'] ++ Number.hexByte code

def writeText (out : String) (text : String) : String :=
  (text.foldl (fun out c => (quotedChar c).foldl String.push out) (out.push '"')).push '"'

/-- A decimal in positional form when `10 ^ exponent` of its first digit allows, else with one
digit before the point. -/
def decimalText (d : Number.Decimal) : String :=
  let digits := Nat.toDigits 10 d.digits
  let point : Int := digits.length + d.exponent
  let text : List Char :=
    if 0 ≤ d.exponent ∧ point ≤ 16 then
      digits ++ List.replicate d.exponent.toNat '0' ++ ['.', '0']
    else if 0 < point ∧ point ≤ 16 then
      digits.take point.toNat ++ '.' :: digits.drop point.toNat
    else if -5 < point ∧ point ≤ 0 then
      ['0', '.'] ++ List.replicate (-point).toNat '0' ++ digits
    else
      let mantissa := match digits with
        | first :: second :: rest => first :: '.' :: second :: rest
        | short => short
      mantissa ++ ['e', if point ≤ 0 then '-' else '+'] ++ Nat.toDigits 10 (point - 1).natAbs
  String.ofList text

def floatText (x : Float) : String :=
  match Number.Exact.ofFloat x with
  | .finite negative significand exponent =>
    let absolute :=
      if significand = 0 then "0.0" else decimalText (Number.shortest significand exponent)
    if negative then "-" ++ absolute else absolute
  | _ => "null"

mutual

def write (out : String) : Json → String
  | .null => out ++ "null"
  | .bool value => out ++ if value then "true" else "false"
  | .int value => out ++ toString value
  | .float value => out ++ floatText value
  | .str value => writeText out value
  | .arr [] => out ++ "[]"
  | .arr (first :: rest) => (writeItems (write (out.push '[') first) rest).push ']'
  | .obj [] => out ++ "\x7b\x7d"
  | .obj ((key, value) :: rest) =>
    (writeMembers (write ((writeText (out.push '\x7b') key).push ':') value) rest).push '\x7d'

def writeItems (out : String) : List Json → String
  | [] => out
  | item :: rest => writeItems (write (out.push ',') item) rest

def writeMembers (out : String) : List (String × Json) → String
  | [] => out
  | (key, value) :: rest =>
    writeMembers (write ((writeText (out.push ',') key).push ':') value) rest

end

def render (value : Json) : String :=
  write "" value

end MarkupLayout.Json
