import MarkupLayout.Html.Kind
import MarkupLayout.Html.RawText

/-!
# A page as far as it has been read

The open elements, the formatting that is still to be carried into the next block, and the place
in the page, which decides on the rules for the next token. The operations here are those that
all rules share.
-/

namespace MarkupLayout.Html

inductive Mode where
  | start
  | beforeHead
  | head
  | afterHead
  | body
  | table
  | caption
  | columns
  | tableSection
  | row
  | cell
  | select
  | selectInTable
  | template
  | afterBody
deriving DecidableEq

/-- A formatting element, by the frame it was last opened as. -/
structure Formatting where
  serial : Nat
  tag : Tag

structure Page where
  mode : Mode := .start
  frames : List Frame := [{ serial := 0, tag := ⟨"html", ∅⟩ }]
  /-- The formatting elements not yet closed, newest first; `none` where it began anew. -/
  formatting : List (Option Formatting) := []
  /-- The modes of the open templates, innermost first. -/
  templates : List Mode := []
  nextSerial : Nat := 1
  /-- The open form, by its serial. -/
  form : Option Nat := none
  mayBeFrameset : Bool := true
  /-- Whether the page is a frameset, which has no body. -/
  isFrameset : Bool := false
  currentRules : Bool := false
  /-- Whether content goes before a table instead of into one of its frames. -/
  besideTable : Bool := false
  /-- Text found between the parts of a table, in reverse order. -/
  tableText : List Char := []
  /-- Whether a line break that follows at once is dropped. -/
  skipsBreak : Bool := false
  raw : Option RawText := none

namespace Page

def currentIs (names : List String) (page : Page) : Bool :=
  page.frames.head?.any (·.isOne names)

def reaches (names : List String) (bound : Frame → Bool) (page : Page) : Bool :=
  Frames.reaches (·.isOne names) bound page.frames

def hasOpen (name : String) (page : Page) : Bool :=
  Frames.any (·.is name) page.frames

def placesBeside (page : Page) : Bool :=
  page.besideTable && page.currentIs Kind.tableFrame

def add (page : Page) (piece : Piece) : Page :=
  { page with frames :=
      if page.placesBeside then Frames.addBeforeTable piece page.frames
      else Frames.add piece page.frames }

def addChar (page : Page) (c : Char) : Page :=
  page.add (.chars [c])

def insertIn (page : Page) (vocabulary : Vocabulary) (tag : Tag) : Page :=
  let beforeTable := page.placesBeside
  { page with
    frames := { serial := page.nextSerial, vocabulary, tag, beforeTable } :: page.frames
    nextSerial := page.nextSerial + 1 }

def insert (page : Page) (tag : Tag) : Page :=
  page.insertIn .html tag

def insertImplied (page : Page) (name : String) : Page :=
  page.insert ⟨name, ∅⟩

def close (page : Page) : Page :=
  { page with frames := Frames.close page.frames }

def insertEmpty (page : Page) (tag : Tag) : Page :=
  (page.insert tag).close

def insertRaw (page : Page) (tag : Tag) (raw : RawText) : Page :=
  { page.insert tag with raw := some raw }

def closeWhile (page : Page) (test : Frame → Bool) : Page :=
  { page with frames := Frames.closeWhile test page.frames }

def closeTo (page : Page) (names : List String) : Page :=
  page.closeWhile fun frame => !frame.isOne names

def closeThrough (page : Page) (names : List String) : Page :=
  { page with frames := Frames.closeThrough (·.isOne names) page.frames }

def closeSerial (page : Page) (serial : Nat) : Page :=
  { page with frames := Frames.closeThrough (·.serial == serial) page.frames }

def closeImplied (page : Page) (except : String) : Page :=
  page.closeWhile fun frame => frame.isOne Kind.impliedEnd && !frame.is except

def closeParagraph (page : Page) : Page :=
  (page.closeImplied "p").closeThrough ["p"]

def endParagraph (page : Page) : Page :=
  if page.reaches ["p"] Kind.boundsParagraph then page.closeParagraph else page

def withoutFrameset (page : Page) : Page :=
  { page with mayBeFrameset := false }

/-- The formatting elements since formatting last began anew, newest first. -/
def recent (page : Page) : List Formatting :=
  (page.formatting.takeWhile Option.isSome).filterMap id

def beginFormatting (page : Page) : Page :=
  { page with formatting := none :: page.formatting }

def endFormatting (page : Page) : Page :=
  { page with formatting := (page.formatting.dropWhile Option.isSome).tail }

def known? (page : Page) (serial : Nat) : Option Formatting :=
  (page.formatting.filterMap id).find? (·.serial == serial)

def forget (page : Page) (serial : Nat) : Page :=
  { page with formatting := page.formatting.filter fun entry => !entry.any (·.serial == serial) }

def isOpen (page : Page) (serial : Nat) : Bool :=
  Frames.any (·.serial == serial) page.frames

def remember (page : Page) (tag : Tag) : Page :=
  { page with formatting := some ⟨page.nextSerial, tag⟩ :: page.formatting }

/-- Opens a formatting element. Of equal ones at most three are remembered. -/
def insertFormatting (page : Page) (tag : Tag) : Page :=
  let page := match page.recent.filter (·.tag = tag) with
    | _ :: _ :: oldest :: _ => page.forget oldest.serial
    | _ => page
  (page.remember tag).insert tag

def reopenFormatting (page : Page) : Page :=
  let isClosed (known : Formatting) : Bool := !page.isOpen known.serial
  let closed := page.formatting.takeWhile (·.any isClosed)
  (closed.filterMap id).reverse.foldl
    (fun page known => (page.remember known.tag).insert known.tag)
    { page with formatting := page.formatting.drop closed.length }

def modeFor (templates : List Mode) : List Frame → Mode
  | [] => .body
  | frame :: around =>
    if frame.vocabulary ≠ .html || !frame.counts then modeFor templates around
    else match frame.tag.name with
      | "select" =>
        match around.find? fun other => other.counts && other.isOne ["template", "table"] with
        | some other => if other.is "table" then .selectInTable else .select
        | none => .select
      | "td" | "th" => .cell
      | "tr" => .row
      | "tbody" | "tfoot" | "thead" => .tableSection
      | "caption" => .caption
      | "colgroup" => .columns
      | "table" => .table
      | "template" => templates.head?.getD .body
      | "head" => .head
      | "body" => .body
      | "html" => .afterHead
      | _ => modeFor templates around

def resetMode (page : Page) : Page :=
  { page with mode := modeFor page.templates page.frames }

def insertOfHead (page : Page) (tag : Tag) : Page :=
  match tag.name with
  | "title" => page.insertRaw tag .referring
  | "script" => page.insertRaw tag .script
  | "noframes" | "style" | "noscript" => page.insertRaw tag .literal
  | "template" =>
    let page := (page.insert tag).beginFormatting.withoutFrameset
    { page with mode := .template, templates := .template :: page.templates }
  | _ => page.insertEmpty tag

def closeTemplate (page : Page) : Page :=
  if page.hasOpen "template" then
    let page := page.closeWhile (·.isOne Kind.impliedEndInTemplate)
    let page := (page.closeThrough ["template"]).endFormatting
    { page with templates := page.templates.tail }.resetMode
  else page

/-- Gives the open body the attributes that it does not have yet. -/
def addToBody (page : Page) (attrs : SortedMap String) : Page :=
  { page with frames := page.frames.map fun frame =>
      if frame.is "body" then
        { frame with tag.attrs := attrs.insertAll frame.tag.attrs.entries }
      else frame }

end Page

/-- What a rule makes of a page: it is done with the token, or the token is to be looked at again
by the rules for the page as it is now. -/
inductive Outcome where
  | done (page : Page)
  | again (page : Page)

namespace Outcome

def map (f : Page → Page) : Outcome → Outcome
  | .done page => .done (f page)
  | .again page => .again (f page)

end Outcome

end MarkupLayout.Html
