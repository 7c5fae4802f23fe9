import MarkupLayout.Text.Lowercase

/-!
# Document type declarations

A declaration decides whether a page is read by the current rules or by those for the pages of
earlier days, where a table does not end the paragraph before it. Only that decision is kept.
-/

namespace MarkupLayout.Html

/-- The white space of a page, which also separates the parts of tags and declarations. -/
def isSpace (c : Char) : Bool :=
  c == ' ' || c == '\t' || c == '\n' || c == '\r' || c == '\x0c'

structure Doctype where
  /-- The public identifier. -/
  identifier : Option String := none
  /-- The system identifier. -/
  address : Option String := none

namespace Doctype

def afterWord? (word : String) (text : List Char) : Option (List Char) :=
  let head := String.ofList (text.take word.length)
  if Text.sameIgnoringCase head word then some (text.drop word.length) else none

def isQuote (c : Char) : Bool :=
  c == '"' || c == '\x27'

def quoted? (text : List Char) : Option (String × List Char) :=
  match text.dropWhile isSpace with
  | [] => none
  | mark :: rest =>
    if isQuote mark then
      match rest.dropWhile (· ≠ mark) with
      | [] => none
      | _ :: after => some (String.ofList (rest.takeWhile (· ≠ mark)), after)
    else none

def public? (text : List Char) : Option Doctype := do
  let (identifier, rest) ← quoted? text
  if (rest.dropWhile isSpace).isEmpty then some { identifier }
  else
    let (address, _) ← quoted? rest
    some { identifier, address }

def system? (text : List Char) : Option Doctype :=
  (quoted? text).map fun (address, _) => { address }

/-- Whether a line end of two characters is all that separates a keyword from the text before it.
The keyword is not looked for there. -/
def hidesKeyword (gap : List Char) : Bool :=
  ['\n', '\r'].isPrefixOf gap.reverse

/-- Reads a declaration from its name to before its end mark; none if it is malformed or does not
name HTML. -/
def read? (text : List Char) : Option Doctype :=
  let text := text.dropWhile isSpace
  let name := text.takeWhile fun c => !isSpace c
  let gap := (text.drop name.length).takeWhile isSpace
  let rest := (text.drop name.length).dropWhile isSpace
  if !Text.sameIgnoringCase (String.ofList name) "html" then none
  else if rest.isEmpty then some {}
  else if hidesKeyword gap then none
  else match afterWord? "public" rest with
    | some rest => public? rest
    | none => (afterWord? "system" rest).bind system?

/-- The owners of document types of earlier days, each with its types. -/
def earlierTypes : List (String × List String) := [
  ("advasoft ltd", ["html 3.0 aswedit + extensions"]),
  ("as", ["html 3.0 aswedit + extensions"]),
  ("ietf", [
    "html 2.0 level 1", "html 2.0 level 2", "html 2.0 strict level 1", "html 2.0 strict level 2",
    "html 2.0 strict", "html 2.0", "html 2.1e", "html 3.0", "html 3.2 final", "html 3.2", "html 3",
    "html level 0", "html level 1", "html level 2", "html level 3", "html strict level 0",
    "html strict level 1", "html strict level 2", "html strict level 3", "html strict", "html"]),
  ("metrius", ["metrius presentational"]),
  ("microsoft", [
    "internet explorer 2.0 html strict", "internet explorer 2.0 html",
    "internet explorer 2.0 tables", "internet explorer 3.0 html strict",
    "internet explorer 3.0 html", "internet explorer 3.0 tables"]),
  ("netscape comm. corp.", ["html", "strict html"]),
  ("o'reilly and associates", ["html 2.0", "html extended 1.0", "html extended relaxed 1.0"]),
  ("silmaril", ["html pro v0r11 19970101"]),
  ("softquad", ["hotmetal pro 4.0::19971010::extensions to html 4.0"]),
  ("softquad software", ["hotmetal pro 6.0::19990601::extensions to html 4.0"]),
  ("spyglass", ["html 2.0 extended"]),
  ("sq", ["html 2.0 hotmetal + extensions"]),
  ("sun microsystems corp.", ["hotjava html", "hotjava strict html"]),
  ("w3c", [
    "html 3 1995-03-24", "html 3.2 draft", "html 3.2 final", "html 3.2", "html 3.2s draft",
    "html 4.0 frameset", "html 4.0 transitional", "html experimental 19960712",
    "html experimental 970421", "w3 html"]),
  ("w3o", ["w3 html 3.0"]),
  ("webtechs", ["mozilla html 2.0", "mozilla html"])]

/-- Identifiers of earlier days that follow no pattern. -/
def earlierIdentifiers : List String :=
  ["-//w3o//dtd w3 html strict 3.0//en//", "-/w3c/dtd html 4.0 transitional/en", "html"]

/-- The types that count as of earlier days where no address is given. -/
def addressedTypes : List (String × List String) :=
  [("w3c", ["html 4.01 frameset", "html 4.01 transitional"])]

def earlierAddress : String :=
  "http:" ++ "//www.ibm.com/data/dtd/v11/ibmxhtml1-transitional.dtd"

/-- Whether an identifier in small letters names one of the types, in any language. -/
def namesOne (types : List (String × List String)) (identifier : String) : Bool :=
  types.any fun (owner, names) => names.any fun name =>
    ("-//" ++ owner ++ "//dtd " ++ name ++ "//").toList.isPrefixOf identifier.toList

def isEarlier (doctype : Doctype) : Bool :=
  (doctype.identifier.map Text.asciiLower).any (fun identifier =>
    earlierIdentifiers.contains identifier || namesOne earlierTypes identifier ||
      (doctype.address.isNone && namesOne addressedTypes identifier)) ||
  (doctype.address.map Text.asciiLower).any (· == earlierAddress)

/-- Whether a declaration, given from its name to before its end mark, asks for the current
rules. -/
def isCurrent (text : List Char) : Bool :=
  (read? text).any fun doctype => !doctype.isEarlier

end Doctype

end MarkupLayout.Html
