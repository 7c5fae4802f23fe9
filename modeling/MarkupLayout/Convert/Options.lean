import MarkupLayout.Json.Reader
import MarkupLayout.Picture.Resolver

/-!
# Options

Settings may be given as JSON: an object of named options, or an array of options in a fixed order.
An option that is absent or null is unset. Unknown names are passed over without being decoded,
while a known one must be of its type and may not come twice.
-/

namespace MarkupLayout.Convert

open Json

structure Options where
  defaultStyles : Option (List (String × Json)) := none
  tableAutoSize : Option Bool := none
  ttl : Option UInt64 := none
  ttlEmpty : Option UInt64 := none
  placeholder : Option String := none
  fontSizes : Option (Vector Float 7) := none
  tolerantImages : Option Bool := none
  expiry : Option Picture.Expiry := none

namespace Options

inductive Field where
  | defaultStyles
  | tableAutoSize
  | ttl
  | ttlEmpty
  | placeholder
  | fontSizes
  | tolerantImages
  | expiry
deriving DecidableEq, Repr

/-- All fields, in the order in which an array gives them. -/
def Field.all : List Field :=
  [.defaultStyles, .tableAutoSize, .ttl, .ttlEmpty, .placeholder, .fontSizes, .tolerantImages,
    .expiry]

def Field.name : Field → String
  | defaultStyles => "defaultStyles"
  | tableAutoSize => "tableAutoSize"
  | ttl => "ttl"
  | ttlEmpty => "ttlEmpty"
  | placeholder => "placeholder"
  | fontSizes => "fontSizes"
  | tolerantImages => "tolerantImages"
  | expiry => "expiry"

def Field.ofName? (name : String) : Option Field :=
  Field.all.find? (·.name = name)

def textOf? : Outline → Option String
  | .text pieces => (decodePieces pieces).map String.ofList
  | _ => none

def boolOf? : Outline → Option Bool
  | .bool value => some value
  | _ => none

def numberOf? : Outline → Option Float
  | .number numeral => numeral.value?.bind Json.number?
  | _ => none

def millisOf? : Outline → Option UInt64
  | .number numeral =>
    match numeral.value? with
    | some (.int n) => if 0 ≤ n then some (UInt64.ofNat n.toNat) else none
    | _ => none
  | _ => none

def sizesOf? : Outline → Option (Vector Float 7)
  | .list items => do
    let sizes ← items.mapM numberOf?
    if h : sizes.toArray.size = 7 then some ⟨sizes.toArray, h⟩ else none
  | _ => none

/-- The members of an object that stands one level deep. -/
def stylesOf? (outline : Outline) : Option (List (String × Json)) :=
  match outline.decode (maxNesting - 1) with
  | some (.obj members) => some members
  | _ => none

def expiryOfName? (name : String) : Option Picture.Expiry :=
  if name = "sliding" then some .sliding
  else if name = "fixed" then some .fixed
  else none

/-- A policy by its name, alone or as the only key of an object, where its value is null. -/
def expiryOf? : Outline → Option Picture.Expiry
  | .record [(key, .null)] => (decodePieces key).bind fun name => expiryOfName? (String.ofList name)
  | outline => (textOf? outline).bind expiryOfName?

/-- Sets a field to a value; null leaves it unset. -/
def set (o : Options) (field : Field) : Outline → Option Options
  | .null => some o
  | value =>
    match field with
    | .defaultStyles => (stylesOf? value).map fun v => { o with defaultStyles := some v }
    | .tableAutoSize => (boolOf? value).map fun v => { o with tableAutoSize := some v }
    | .ttl => (millisOf? value).map fun v => { o with ttl := some v }
    | .ttlEmpty => (millisOf? value).map fun v => { o with ttlEmpty := some v }
    | .placeholder => (textOf? value).map fun v => { o with placeholder := some v }
    | .fontSizes => (sizesOf? value).map fun v => { o with fontSizes := some v }
    | .tolerantImages => (boolOf? value).map fun v => { o with tolerantImages := some v }
    | .expiry => (expiryOf? value).map fun v => { o with expiry := some v }

/-- Sets fields by name; `seen` are the fields that came before. -/
def setNamed (o : Options) (seen : List Field) : List (List Piece × Outline) → Option Options
  | [] => some o
  | (key, value) :: rest => do
    let name ← decodePieces key
    match Field.ofName? (String.ofList name) with
    | none => setNamed o seen rest
    | some field =>
      if field ∈ seen then none
      else
        let o ← o.set field value
        setNamed o (field :: seen) rest

def setInOrder (o : Options) : List Field → List Outline → Option Options
  | _, [] => some o
  | [], _ :: _ => none
  | field :: fields, value :: values => do
    let o ← o.set field value
    setInOrder o fields values

def ofText? (text : String) : Option Options := do
  match ← Outline.ofText? text with
  | .record members => setNamed {} [] members
  | .list items => setInOrder {} Field.all items
  | _ => none

end Options

end MarkupLayout.Convert
