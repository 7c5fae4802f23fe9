import MarkupLayout.Markup.Basic

/-!
# Markup written as XML

Pictures drawn in markup are handed on as XML text. Attributes stand in key order, the five
reserved characters are escaped where they have to be, and a drawing names its namespace.
-/

namespace MarkupLayout.Markup

def escapedInText (c : Char) : List Char :=
  if c = '&' then "&amp;".toList
  else if c = '<' then "&lt;".toList
  else if c = '>' then "&gt;".toList
  else [c]

/-- A character in an attribute value, where quotes are reserved too. -/
def escapedInAttr (c : Char) : List Char :=
  if c = '"' then "&quot;".toList
  else if c = '\x27' then "&apos;".toList
  else escapedInText c

def attrXml (entry : String × String) : List Char :=
  ' ' :: entry.1.toList ++ ['=', '"'] ++ entry.2.toList.flatMap escapedInAttr ++ ['"']

def namespaceXml (tag : Tag) : List Char :=
  if tag.is "svg" && !tag.attrs.keys.any (Text.sameIgnoringCase · "xmlns") then
    attrXml ("xmlns", "http://www.w3.org/2000/svg")
  else []

def openingXml (tag : Tag) : List Char :=
  '<' :: tag.name.toList ++ tag.attrs.entries.flatMap attrXml ++ namespaceXml tag ++ ['>']

def closingXml (tag : Tag) : List Char :=
  ['<', '/'] ++ tag.name.toList ++ ['>']

mutual

/-- The XML of a node at a depth; elements too deep are written without their children. -/
def xml (depth : Nat) : Markup → List Char
  | .text content => content.toList.flatMap escapedInText
  | .element tag children =>
    openingXml tag ++ (if depth < pruneDepth then xmlAll (depth + 1) children else [])
      ++ closingXml tag

def xmlAll (depth : Nat) : List Markup → List Char
  | [] => []
  | child :: rest => xml depth child ++ xmlAll depth rest

end

end MarkupLayout.Markup

namespace MarkupLayout

def Element.xml (e : Element) : List Char :=
  e.toMarkup.xml 0

end MarkupLayout
