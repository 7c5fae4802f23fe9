import MarkupLayout.Text.Word

/-!
# Addresses of pictures

An address is taken for valid if it contains something like a domain: two characters of a host
name, a point, and two to six small letters at whose end a word ends. Nothing is asked of the rest.
-/

namespace MarkupLayout.Picture

def isHostChar (c : Char) : Bool :=
  c.isAlphanum || ['-', '@', ':', '%', '.', '_', '+', '~', '#', '='].contains c

/-- Whether a text begins with two to six small letters that end a word. -/
def startsWithTopLevel (text : List Char) : Bool :=
  let letters := text.takeWhile Char.isLower
  2 ≤ letters.length && letters.length ≤ 6 &&
    (text.dropWhile Char.isLower).head?.all fun c => !Text.isWord c

def startsWithDomain : List Char → Bool
  | a :: b :: '.' :: rest => isHostChar a && isHostChar b && startsWithTopLevel rest
  | _ => false

def containsDomain : List Char → Bool
  | [] => false
  | c :: rest => startsWithDomain (c :: rest) || containsDomain rest

def isValidUrl (url : String) : Bool :=
  containsDomain url.toList

end MarkupLayout.Picture
