import MarkupLayout.Html.NamedCharacter
import MarkupLayout.Html.Source
import MarkupLayout.Number.Literal

/-!
# Character references

A reference names a character after an ampersand, by a word or by its number. An ampersand that
begins no reference stands for itself. Inside an attribute a word without its semicolon is no
reference when an equals sign, a letter or a digit follows it.
-/

namespace MarkupLayout.Html

structure Reference where
  chars : List Char
  /-- Whether a number lacks its semicolon. -/
  isFaulty : Bool := false
  rest : Source

/-- The characters for the numbers from 0x80 on, where pages count in an older code. -/
def olderCode : List Nat := [
  0x20AC, 0x81, 0x201A, 0x192, 0x201E, 0x2026, 0x2020, 0x2021, 0x2C6, 0x2030, 0x160, 0x2039,
  0x152, 0x8D, 0x17D, 0x8F, 0x90, 0x2018, 0x2019, 0x201C, 0x201D, 0x2022, 0x2013, 0x2014, 0x2DC,
  0x2122, 0x161, 0x203A, 0x153, 0x9D, 0x17E, 0x178]

/-- The character with a number; numbers without a character give the replacement character. -/
def numberedChar (number : Nat) : Char :=
  if number = 0 ∨ 0x10FFFF < number ∨ (0xD800 ≤ number ∧ number ≤ 0xDFFF) then '\uFFFD'
  else if 0x80 ≤ number then Char.ofNat (olderCode.getD (number - 0x80) number)
  else Char.ofNat number

namespace NamedCharacter

/-- The length of the spelling of the name that begins the text. -/
def spelled? (named : NamedCharacter) (text : List Char) : Option Nat :=
  if named.name.isPrefixOf text then
    if (text.drop named.name.length).head? == some ';' then some (named.name.length + 1)
    else if named.bare then some named.name.length
    else none
  else none

/-- Whether the name counts in an attribute, where other names may run on. -/
def standsAlone (named : NamedCharacter) (text : List Char) : Bool :=
  !(text.drop named.name.length).head?.any fun c => c == '=' || c.isAlphanum

def longest? (names : List NamedCharacter) (text : List Char) : Option (NamedCharacter × Nat) :=
  names.foldl (fun best named =>
    match named.spelled? text, best with
    | none, _ => best
    | some size, none => some (named, size)
    | some size, some (_, other) => if other < size then some (named, size) else best)
    none

def agreement : List Char → List Char → Nat
  | a :: first, b :: second => if a = b then agreement first second + 1 else 0
  | _, _ => 0

def reach (names : List NamedCharacter) (text : List Char) : Nat :=
  names.foldl (fun reach named => max reach (agreement (named.name ++ [';']) text)) 0

end NamedCharacter

namespace Reference

/-- The text after a search over some characters, which takes one character more to find its end.
A carriage return taken so is put back as a line feed. -/
def searched (count : Nat) (text : List Char) : Source :=
  match text.drop count with
  | '\r' :: rest => ⟨text.take count ++ '\n' :: rest, true⟩
  | _ => ⟨text, false⟩

def named (names : List NamedCharacter) (inAttribute : Bool) (text : List Char) : Reference :=
  let reach := NamedCharacter.reach names text
  match NamedCharacter.longest? names text with
  | some (found, size) =>
    let rest := searched reach text
    if inAttribute && !found.standsAlone text then { chars := ['&'], rest }
    else { chars := found.chars, rest := { rest with text := rest.text.drop size } }
  | none =>
    let word := (text.drop reach).takeWhile Char.isAlphanum
    { chars := ['&'], rest := searched (reach + word.length) text }

def numbered? (isHex : Bool) (text : List Char) : Option Reference :=
  let digits := text.takeWhile fun c => if isHex then (Number.hexValue? c).isSome else c.isDigit
  let number := if isHex then Number.hexNumber digits else Number.digitsValue 0 digits
  if digits.isEmpty then none
  else match text.drop digits.length with
    | ';' :: rest => some { chars := [numberedChar number], rest := ⟨rest, false⟩ }
    | rest => some { chars := [numberedChar number], isFaulty := true, rest := ⟨rest, false⟩ }

def read (names : List NamedCharacter) (inAttribute : Bool) (text : List Char) : Reference :=
  let nothing : Reference := { chars := ['&'], rest := ⟨text, false⟩ }
  match text with
  | '#' :: 'x' :: rest => (numbered? true rest).getD nothing
  | '#' :: 'X' :: rest => (numbered? true rest).getD nothing
  | '#' :: rest => (numbered? false rest).getD nothing
  | _ => named names inAttribute text

theorem length_searched (count : Nat) (text : List Char) :
    (searched count text).text.length = text.length := by
  unfold searched
  split
  · next rest heq =>
    have := congrArg List.length (List.take_append_drop count text)
    rw [heq] at this
    simpa using this
  · rfl

theorem length_named (names : List NamedCharacter) (inAttribute : Bool) (text : List Char) :
    (named names inAttribute text).rest.text.length ≤ text.length := by
  have hsearched (count : Nat) := length_searched count text
  unfold named
  split
  · split <;> simp [hsearched]
  · simp [hsearched]

theorem length_numbered? {isHex : Bool} {text : List Char} {reference : Reference}
    (h : numbered? isHex text = some reference) : reference.rest.text.length ≤ text.length := by
  simp only [numbered?, Option.ite_none_left_eq_some] at h
  obtain ⟨-, h⟩ := h
  split at h
  · next digits rest heq =>
    have := congrArg List.length heq
    simp at h this
    rw [← h]
    simp only
    omega
  · simp at h
    rw [← h]
    simp

theorem length_read (names : List NamedCharacter) (inAttribute : Bool) (text : List Char) :
    (read names inAttribute text).rest.text.length ≤ text.length := by
  let nothing : Reference := { chars := ['&'], rest := ⟨text, false⟩ }
  have hnumbered (isHex : Bool) (digits : List Char) (h : digits.length ≤ text.length) :
      ((numbered? isHex digits).getD nothing).rest.text.length ≤ text.length := by
    cases hread : numbered? isHex digits with
    | none => simp [nothing]
    | some reference => exact Nat.le_trans (length_numbered? hread) h
  unfold read
  split
  · exact hnumbered _ _ (by simp; omega)
  · exact hnumbered _ _ (by simp; omega)
  · exact hnumbered _ _ (by simp)
  · exact length_named _ _ _

end Reference

end MarkupLayout.Html
