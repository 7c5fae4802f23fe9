import MarkupLayout.Style.Border
import MarkupLayout.Style.Defaults

/-!
# The cascade

The style of a node is gathered along the path of tags from the body down to it: at each tag first
the default style and then the inline style, the last rule winning. What concerns the box of an
ancestor stays with the ancestor, except that cells take everything from their row. The class list
of a node names its tags from the inside out and then the classes of all of them.
-/

namespace MarkupLayout.Style

/-- Keys of default styles that concern the box of the element itself. -/
def isBoxKey (key : String) : Bool :=
  Text.contains key "margin" || Text.contains key "border"

def defaultRules (styles : DefaultStyles) (scope : Scope) (tag : Tag) : List Rule :=
  (((styles.get? tag.kind).getD ∅).entries.filter fun entry =>
    scope = .own || !isBoxKey entry.1).map fun entry => ⟨entry.1, entry.2⟩

def inlineScope (scope : Scope) (tag : Tag) : Scope :=
  if tag.kind = "tr" then .own else scope

def rulesAt (styles : DefaultStyles) (scope : Scope) (tag : Tag) : List Rule :=
  defaultRules styles scope tag ++ rules (inlineScope scope tag) tag

/-- All rules along a path, outermost first; `last` is the scope of the innermost tag. -/
def rulesAlong (styles : DefaultStyles) (last : Scope) : List Tag → List Rule
  | [] => []
  | [tag] => rulesAt styles last tag
  | tag :: inner :: rest =>
    rulesAt styles .inherited tag ++ rulesAlong styles last (inner :: rest)

def cascade (styles : DefaultStyles) (last : Scope) (path : List Tag) (style : StyleMap) :
    StyleMap :=
  style.mergeAll (rulesAlong styles last path)

def themeClass (tag : Tag) : String :=
  "html-" ++ tag.kind

/-- Adds a tag to a class list: its theme class in front, unless the list has it, and its own
classes at the end. -/
def addClasses (classes : List String) (tag : Tag) : List String :=
  (if tag.kind ≠ "body" ∧ themeClass tag ∉ classes then themeClass tag :: classes else classes)
    ++ tag.classes

def classesAlong (path : List Tag) : List String :=
  path.foldl addClasses []

end MarkupLayout.Style
