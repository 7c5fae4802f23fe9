import MarkupLayout.Number.Hex
import MarkupLayout.Number.Literal
import MarkupLayout.Text.Split

/-!
# Colors

Red, green and blue levels are rewritten in hexadecimal, and a transparent color becomes white.
Everything else is taken to be a color already and stays as it is.
-/

namespace MarkupLayout.Style

/-- The digits of one level in hexadecimal; a level above 255 counts as 255. -/
def channel? (digits : List Char) : Option (List Char) :=
  if digits ≠ [] ∧ digits.all Char.isDigit then
    some (Number.hexByte (min 255 (Number.digitsValue 0 digits)))
  else none

def between? (opening closing text : List Char) : Option (List Char) :=
  if opening.isPrefixOf text then
    let inner := text.drop opening.length
    if closing.isSuffixOf inner then some (inner.take (inner.length - closing.length)) else none
  else none

/-- The hexadecimal form of `rgb(…)`; blanks may follow a comma. -/
def hexOfLevels? (text : List Char) : Option (List Char) :=
  match (between? "rgb(".toList [')'] text).map (Text.fields ',') with
  | some [red, green, blue] => do
    let red ← channel? red
    let green ← channel? (Text.trimStartBy Text.isBlank green)
    let blue ← channel? (Text.trimStartBy Text.isBlank blue)
    some ('#' :: red ++ green ++ blue)
  | _ => none

def color (text : String) : String :=
  match hexOfLevels? text.toList with
  | some hex => String.ofList hex
  | none => if text = "transparent" then "white" else text

end MarkupLayout.Style
