import MarkupLayout.Style.Declaration

/-!
# Borders

The declarations about borders collect a flag and a color for each side, a later one replacing an
earlier one. Once any side has a flag the others have a border, and once any side has a color the
others are black.
-/

namespace MarkupLayout.Style

inductive Side where
  | left
  | top
  | right
  | bottom
deriving DecidableEq, Repr

/-- The side that a property names; without one all sides are meant. -/
def Side.ofProperty? (property : String) : Option Side :=
  if Text.contains property "-left" then some .left
  else if Text.contains property "-top" then some .top
  else if Text.contains property "-right" then some .right
  else if Text.contains property "-bottom" then some .bottom
  else none

def setSides {α : Type} (side : Option Side) (value : α) (sides : Sides α) : Sides α :=
  match side with
  | some .left => { sides with left := value }
  | some .top => { sides with top := value }
  | some .right => { sides with right := value }
  | some .bottom => { sides with bottom := value }
  | none => .all value

def isVisibleWidth (width : List Char) : Bool :=
  ((Number.literal? (width.takeWhile fun c => c.isDigit || c == '.')).any fun x => 0.0 < x)

/-- Whether a declaration gives its side a border, if it decides on that. -/
def Declaration.borderFlag? (d : Declaration) : Option Bool :=
  if Text.endsWith d.property "-color" then none
  else if Text.endsWith d.property "-style" then
    if d.value = "none" ∨ d.value = "hidden" then some false else none
  else some ((Text.words d.value.toList).head?.any isVisibleWidth)

/-- The color that a declaration gives its side, if any: in a shorthand all that follows the
width and the style. -/
def Declaration.borderColor? (d : Declaration) : Option String :=
  if Text.endsWith d.property "-color" then some (color d.value)
  else if Text.endsWith d.property "-style" then none
  else match (Text.words d.value.toList).drop 2 with
    | [] => none
    | words => some (color (String.ofList ([' '].intercalate words)))

structure Borders where
  flags : Sides (Option Bool) := .all none
  colors : Sides (Option String) := .all none
deriving Repr

namespace Borders

def add (borders : Borders) (d : Declaration) : Borders :=
  let side := Side.ofProperty? d.property
  { flags := match d.borderFlag? with
      | some flag => setSides side (some flag) borders.flags
      | none => borders.flags
    colors := match d.borderColor? with
      | some color => setSides side (some color) borders.colors
      | none => borders.colors }

def ofDeclarations (ds : List Declaration) : Borders :=
  (ds.filter fun d => isBorderProperty d.property).foldl add {}

def flagRules (borders : Borders) : List Rule :=
  if borders.flags.toList.any Option.isSome then
    [⟨"border", .sides (borders.flags.map (·.getD true))⟩]
  else []

def colorRules (borders : Borders) : List Rule :=
  if borders.colors.toList.any Option.isSome then
    [⟨"borderColor", .sideColors (borders.colors.map (·.getD "#000000"))⟩]
  else []

end Borders

/-- The rules that an element declares: one by one in order, and then those of its borders. -/
def rules (scope : Scope) (tag : Tag) : List Rule :=
  let ds := declarations tag
  ds.filterMap (·.ruleIn? scope tag) ++
    match scope with
    | .own => (Borders.ofDeclarations ds).flagRules ++ (Borders.ofDeclarations ds).colorRules
    | .inherited => []

/-- Whether running text under a path of tags keeps its newlines. The innermost tag whose first
declaration about it is a flag decides. -/
def preservesSpaces (path : List Tag) : Bool :=
  let declared (tag : Tag) : Option Bool :=
    ((rules .inherited tag).find? (·.key = "preserveLeadingSpaces")).bind (·.value.flag?)
  (path.reverse.findSome? declared).getD false

end MarkupLayout.Style
