import MarkupLayout.Text.Split

/-!
# Names in style text

Hyphenated names are joined with capitals. Of a list of font families the first is taken, without
its quotes and with its words joined in the same way.
-/

namespace MarkupLayout.Style

/-- Drops each hyphen before a small letter and makes that letter a capital. -/
def camelChars : List Char → List Char
  | [] => []
  | [c] => [c]
  | a :: b :: rest =>
    if a = '-' ∧ b.isLower then b.toUpper :: camelChars rest else a :: camelChars (b :: rest)

def camelCase (text : String) : String :=
  String.ofList (camelChars text.toList)

def joinWords : List Char → List Char
  | [] => []
  | [c] => [c]
  | a :: b :: rest =>
    if a = ' ' ∧ b.isLower then b.toUpper :: joinWords rest else a :: joinWords (b :: rest)

def capitalize : List Char → List Char
  | [] => []
  | c :: rest => if c.isLower then c.toUpper :: joinWords rest else joinWords (c :: rest)

def unquote (text : List Char) : List Char :=
  let text := if text.head? = some '\x27' then text.tail else text
  if text.getLast? = some '\x27' then text.dropLast else text

def fontFamily (text : String) : String :=
  let first := ((Text.fields ',' text.toList).headD []).filter (· ≠ '"')
  String.ofList (capitalize (Text.trim (unquote (Text.trim first))))

end MarkupLayout.Style
