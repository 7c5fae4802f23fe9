import MarkupLayout.Number.Exact
import MarkupLayout.SortedMap

/-!
# JSON values

Numbers are integers of 64 bits or doubles, and the two stay apart. The members of an object are
kept in ascending key order; the reader and every constructor used by this library see to that.
-/

namespace MarkupLayout

inductive Json where
  | null
  | bool (value : Bool)
  | int (value : Int)
  | float (value : Float)
  | str (value : String)
  | arr (items : List Json)
  | obj (members : List (String × Json))
deriving Inhabited, Repr

namespace Json

def ofMap (members : SortedMap Json) : Json :=
  .obj members.entries

def members? : Json → Option (SortedMap Json)
  | .obj members => some (SortedMap.ofList members)
  | _ => none

def bool? : Json → Option Bool
  | .bool value => some value
  | _ => none

def str? : Json → Option String
  | .str value => some value
  | _ => none

def number? : Json → Option Float
  | .int value => some (Float.ofInt value)
  | .float value => some value
  | _ => none

/-- A double as JSON, which has no infinity and no value that is not a number. -/
def ofFloat (x : Float) : Json :=
  if x.isFinite then .float x else .null

/-- A double as JSON, written as an integer when it is integral and well within the range where
every integer is a double. -/
def ofNumber (x : Float) : Json :=
  match Number.integer? x with
  | some n => if n.natAbs < 9000000000000000 then .int n else ofFloat x
  | none => ofFloat x

def ofStrings (texts : List String) : Json :=
  .arr (texts.map .str)

end Json

end MarkupLayout
