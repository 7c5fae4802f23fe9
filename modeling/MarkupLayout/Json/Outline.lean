import MarkupLayout.Number.Hex
import MarkupLayout.Number.Literal

/-!
# The outline of a JSON text

A text is first read by the grammar alone: numbers stay in digits and quoted texts in characters
and escapes, so that whatever nobody asks for is never decoded. An outline exists exactly for the
texts of the grammar; whether it denotes a value is settled when it is decoded.
-/

namespace MarkupLayout.Json

structure Numeral where
  negative : Bool
  whole : List Char
  fraction : Option (List Char)
  power : Option (Bool × List Char)

/-- A piece of a quoted text: a character, or a 16-bit unit given in hexadecimal digits. -/
inductive Piece where
  | char (c : Char)
  | unit (code : Nat)

inductive Outline where
  | null
  | bool (value : Bool)
  | number (numeral : Numeral)
  | text (pieces : List Piece)
  | list (items : List Outline)
  | record (members : List (List Piece × Outline))

/-! The readers below return what they read together with the text after it. -/

namespace Grammar

def skipSpace (text : List Char) : List Char :=
  text.dropWhile fun c => c == ' ' || c == '\t' || c == '\n' || c == '\r'

def word (expected : List Char) (value : Outline) (text : List Char) :
    Option (Outline × List Char) :=
  if expected.isPrefixOf text then some (value, text.drop expected.length) else none

def someDigits (text : List Char) : Option ((List Char) × List Char) :=
  let (digits, rest) := Number.splitDigits text
  if digits.isEmpty then none else some (digits, rest)

def wholePart : List Char → Option ((List Char) × List Char)
  | '0' :: rest => if (rest.head?.any Char.isDigit) then none else some (['0'], rest)
  | text => someDigits text

def fractionPart : List Char → Option ((Option (List Char)) × List Char)
  | '.' :: rest => (someDigits rest).map fun (digits, rest) => (some digits, rest)
  | text => some (none, text)

def powerPart : List Char → Option ((Option (Bool × List Char)) × List Char)
  | [] => some (none, [])
  | mark :: rest =>
    if mark = 'e' ∨ mark = 'E' then
      let (negative, rest) := Number.splitSign rest
      (someDigits rest).map fun (digits, rest) => (some (negative, digits), rest)
    else some (none, mark :: rest)

def numeral (text : List Char) : Option (Outline × List Char) := do
  let (negative, text) := match text with
    | '-' :: rest => (true, rest)
    | _ => (false, text)
  let (whole, text) ← wholePart text
  let (fraction, text) ← fractionPart text
  let (power, text) ← powerPart text
  some (.number ⟨negative, whole, fraction, power⟩, text)

def escaped? (c : Char) : Option Char :=
  if c = '"' ∨ c = '\\' ∨ c = '/' then some c
  else if c = 'b' then some '\x08'
  else if c = 'f' then some '\x0c'
  else if c = 'n' then some '\n'
  else if c = 'r' then some '\r'
  else if c = 't' then some '\t'
  else none

def quoted : List Char → Option ((List Piece) × List Char)
  | [] => none
  | '"' :: rest => some ([], rest)
  | '\\' :: 'u' :: a :: b :: c :: d :: rest => do
    let digits ← [a, b, c, d].mapM Number.hexValue?
    let code := digits.foldl (fun value digit => 16 * value + digit) 0
    let (pieces, rest) ← quoted rest
    some (.unit code :: pieces, rest)
  | '\\' :: letter :: rest => do
    let c ← escaped? letter
    let (pieces, rest) ← quoted rest
    some (.char c :: pieces, rest)
  | c :: rest =>
    if c = '\\' ∨ c.toNat < 0x20 then none
    else do
      let (pieces, rest) ← quoted rest
      some (.char c :: pieces, rest)

mutual

/-- Reads a value. Every call of these readers takes a character of the text first, so its length
bounds them. -/
def value : Nat → List Char → Option (Outline × List Char)
  | 0, _ => none
  | fuel + 1, text =>
    match skipSpace text with
    | '[' :: rest => firstItem fuel rest
    | '\x7b' :: rest => firstMember fuel rest
    | '"' :: rest => (quoted rest).map fun (pieces, rest) => (.text pieces, rest)
    | 'n' :: rest => word ['u', 'l', 'l'] .null rest
    | 't' :: rest => word ['r', 'u', 'e'] (.bool true) rest
    | 'f' :: rest => word ['a', 'l', 's', 'e'] (.bool false) rest
    | rest => numeral rest

def firstItem : Nat → List Char → Option (Outline × List Char)
  | 0, _ => none
  | fuel + 1, text =>
    match skipSpace text with
    | ']' :: rest => some (.list [], rest)
    | rest => do
      let (item, rest) ← value fuel rest
      let (items, rest) ← moreItems fuel rest
      some (.list (item :: items), rest)

def moreItems : Nat → List Char → Option ((List Outline) × List Char)
  | 0, _ => none
  | fuel + 1, text =>
    match skipSpace text with
    | ']' :: rest => some ([], rest)
    | ',' :: rest => do
      let (item, rest) ← value fuel rest
      let (items, rest) ← moreItems fuel rest
      some (item :: items, rest)
    | _ => none

def firstMember : Nat → List Char → Option (Outline × List Char)
  | 0, _ => none
  | fuel + 1, text =>
    match skipSpace text with
    | '\x7d' :: rest => some (.record [], rest)
    | rest => do
      let (entry, rest) ← member fuel rest
      let (members, rest) ← moreMembers fuel rest
      some (.record (entry :: members), rest)

def moreMembers : Nat → List Char → Option ((List (List Piece × Outline)) × List Char)
  | 0, _ => none
  | fuel + 1, text =>
    match skipSpace text with
    | '\x7d' :: rest => some ([], rest)
    | ',' :: rest => do
      let (entry, rest) ← member fuel rest
      let (members, rest) ← moreMembers fuel rest
      some (entry :: members, rest)
    | _ => none

def member : Nat → List Char → Option ((List Piece × Outline) × List Char)
  | 0, _ => none
  | fuel + 1, text =>
    match skipSpace text with
    | '"' :: rest => do
      let (key, rest) ← quoted rest
      match skipSpace rest with
      | ':' :: rest =>
        let (item, rest) ← value fuel rest
        some ((key, item), rest)
      | _ => none
    | _ => none

end

end Grammar

def Outline.ofText? (text : String) : Option Outline :=
  match Grammar.value (2 * text.length + 2) text.toList with
  | some (outline, rest) => if (Grammar.skipSpace rest).isEmpty then some outline else none
  | none => none

end MarkupLayout.Json
