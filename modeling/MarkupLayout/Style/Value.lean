import MarkupLayout.Json.Basic

/-!
# Style values and style maps

A style maps keys to values of a few kinds. Values come from declarations, from the default
styles, or from JSON that a caller supplies; JSON of no other kind is kept as it is.
-/

namespace MarkupLayout

structure Sides (α : Type) where
  left : α
  top : α
  right : α
  bottom : α
deriving DecidableEq, Repr, Inhabited

namespace Sides

variable {α β : Type}

def all (value : α) : Sides α :=
  ⟨value, value, value, value⟩

def map (f : α → β) (sides : Sides α) : Sides β :=
  ⟨f sides.left, f sides.top, f sides.right, f sides.bottom⟩

def toList (sides : Sides α) : List α :=
  [sides.left, sides.top, sides.right, sides.bottom]

def ofList? : List α → Option (Sides α)
  | [left, top, right, bottom] => some ⟨left, top, right, bottom⟩
  | _ => none

end Sides

namespace Style

inductive Value where
  | flag (value : Bool)
  | number (value : Float)
  | text (value : String)
  | edges (value : Sides Float)
  | sides (value : Sides Bool)
  | sideColors (value : Sides String)
  | list (items : List String)
  | raw (value : Json)
deriving Inhabited, Repr

namespace Value

/-- Four lengths, or two for the horizontal and the vertical edges. -/
def ofNumbers? : List Float → Option Value
  | [left, top, right, bottom] => some (.edges ⟨left, top, right, bottom⟩)
  | [horizontal, vertical] => some (.edges ⟨horizontal, vertical, horizontal, vertical⟩)
  | _ => none

def ofTexts (key : String) (texts : List String) : Value :=
  match Sides.ofList? texts with
  | some colors => if key = "borderColor" then .sideColors colors else .list texts
  | none => .list texts

/-- The kind of an array goes by its members; the key matters only for the colors of a border. -/
def ofItems (key : String) (items : List Json) : Value :=
  ((items.mapM Json.number?).bind ofNumbers?).getD <|
    ((items.mapM Json.bool?).bind Sides.ofList?).elim
      (((items.mapM Json.str?).map (ofTexts key)).getD (.raw (.arr items))) .sides

def ofJson (key : String) : Json → Value
  | .bool value => .flag value
  | .int value => .number (Float.ofInt value)
  | .float value => .number value
  | .str value => .text value
  | .arr items => ofItems key items
  | json => .raw json

def toJson : Value → Json
  | .flag value => .bool value
  | .number value => .ofNumber value
  | .text value => .str value
  | .edges value => .arr (value.toList.map .ofNumber)
  | .sides value => .arr (value.toList.map .bool)
  | .sideColors value => .ofStrings value.toList
  | .list items => .ofStrings items
  | .raw value => value

def number? : Value → Option Float
  | .number value => some value
  | .raw value => value.number?
  | _ => none

def text? : Value → Option String
  | .text value => some value
  | .raw value => value.str?
  | _ => none

def flag? : Value → Option Bool
  | .flag value => some value
  | _ => none

def decorations : Value → List String
  | .text value => [value]
  | .list items => items
  | _ => []

end Value

structure Rule where
  key : String
  value : Value
deriving Inhabited, Repr

end Style

abbrev StyleMap := SortedMap Style.Value

namespace StyleMap

def number? (style : StyleMap) (key : String) : Option Float :=
  (style.get? key).bind Style.Value.number?

def text? (style : StyleMap) (key : String) : Option String :=
  (style.get? key).bind Style.Value.text?

/-- Lets a rule take effect: decorations add up, and any other value replaces the one before. -/
def merge (style : StyleMap) (rule : Style.Rule) : StyleMap :=
  if rule.key = "decoration" then
    let earlier := match style.get? rule.key with
      | some (.list items) => items
      | _ => []
    style.insert rule.key (.list (earlier ++ rule.value.decorations))
  else style.insert rule.key rule.value

def mergeAll (style : StyleMap) (rules : List Style.Rule) : StyleMap :=
  rules.foldl merge style

def toJsonEntries (style : StyleMap) : List (String × Json) :=
  style.entries.map fun entry => (entry.1, entry.2.toJson)

end StyleMap

end MarkupLayout
