import MarkupLayout.SortedMap
import MarkupLayout.Text.Lowercase
import MarkupLayout.Text.Split

/-!
# Markup trees

A tree of elements and text. An element is its tag, that is its name and attributes, and a list of
children. Of the elements on the way down to a node styles see the tags, and text hooks the whole.
-/

namespace MarkupLayout

structure Tag where
  name : String
  attrs : SortedMap String := ∅
deriving DecidableEq, Inhabited

inductive Markup where
  | text (content : String)
  | element (tag : Tag) (children : List Markup)
deriving Inhabited

structure Element where
  tag : Tag
  children : List Markup
deriving Inhabited

def Element.toMarkup (e : Element) : Markup :=
  .element e.tag e.children

namespace Tag

/-- The name by which an element's kind is known, whatever its case. -/
def kind (tag : Tag) : String :=
  Text.asciiLower tag.name

def is (tag : Tag) (name : String) : Bool :=
  Text.sameIgnoringCase tag.name name

def attr? (tag : Tag) (key : String) : Option String :=
  tag.attrs.get? key

def present? (tag : Tag) (key : String) : Option String :=
  (tag.attr? key).filter (· ≠ "")

def classes (tag : Tag) : List String :=
  ((Text.fields ' ' ((tag.attr? "class").getD "").toList).filter (· ≠ [])).map String.ofList

end Tag

namespace Markup

/-- The depth below the body up to which elements are converted. -/
def depthLimit : Nat := 128

/-- Elements at this depth keep no children when markup is read or written out. -/
def pruneDepth : Nat := depthLimit + 1

mutual

/-- Takes the children from every element at `pruneDepth`; the root is at `depth`. -/
def prune (depth : Nat) : Markup → Markup
  | .text content => .text content
  | .element tag children =>
    .element tag (if depth < pruneDepth then pruneAll (depth + 1) children else [])

def pruneAll (depth : Nat) : List Markup → List Markup
  | [] => []
  | child :: rest => prune depth child :: pruneAll depth rest

end

end Markup

def Element.prune (e : Element) : Element :=
  ⟨e.tag, Markup.pruneAll 1 e.children⟩

end MarkupLayout
