import MarkupLayout.Html.Item
import MarkupLayout.Html.Rules.Foreign
import MarkupLayout.Html.Rules.Head
import MarkupLayout.Html.Rules.Select
import MarkupLayout.Html.Rules.Table

/-!
# HTML documents

A document is read item by item from its text; the result is its body, however little of it the
text spells out. Only a frameset has no body.
-/

namespace MarkupLayout.Html

namespace Page

def rules (page : Page) : Token → Page → Outcome :=
  match page.mode with
  | .start => Rules.start
  | .beforeHead => Rules.beforeHead
  | .head => Rules.head
  | .afterHead => Rules.afterHead
  | .body => Rules.body
  | .table => Rules.table
  | .caption => Rules.caption
  | .columns => Rules.columns
  | .tableSection => Rules.tableSection
  | .row => Rules.row
  | .cell => Rules.cell
  | .select => Rules.select
  | .selectInTable => Rules.selectInTable
  | .template => Rules.template
  | .afterBody => Rules.afterBody

/-- Applies the rules until one is done with the token. Each time a frame is closed or the place
changes, so that a few more attempts than there are frames suffice. -/
def settle (token : Token) : Nat → Page → Page
  | 0, page => page
  | attempts + 1, page =>
    let outcome :=
      if Rules.isForeign token page then Rules.foreign page.rules token page
      else page.rules token page
    match outcome with
    | .done page => page
    | .again page => settle token attempts page

/-- Takes one token. Text between the parts of a table is placed before any other token. -/
def takeToken (page : Page) (token : Token) : Page :=
  let page := match token with
    | .char _ => page
    | _ => if page.tableText.isEmpty then page else Rules.placeTableText page
  settle token (2 * page.frames.length + 8) page

/-- Takes one item. A declaration counts only before anything else. -/
def take (page : Page) (item : Item) : Page :=
  let next := { page with skipsBreak := false }
  match item with
  | .fault => next
  | .doctype current =>
    if page.mode = .start then { next with currentRules := current, mode := .beforeHead } else next
  | .token (.char '\n') => if page.skipsBreak then next else next.takeToken (.char '\n')
  | .token token => next.takeToken token

def withoutBreak : List Item → List Item
  | .token (.char '\n') :: rest => rest
  | items => items

def takeRaw (page : Page) (items : List Item) : Page :=
  let items := if page.skipsBreak then withoutBreak items else items
  { ((items.filterMap Item.char?).foldl addChar page).close with raw := none, skipsBreak := false }

def inForeign (page : Page) : Bool :=
  page.frames.head?.any (·.vocabulary ≠ .html)

def currentName (page : Page) : List Char :=
  (page.frames.head?.map (·.tag.name.toList)).getD []

def dropByteOrderMark : List Char → List Char
  | '\uFEFF' :: rest => rest
  | text => text

theorem length_dropByteOrderMark (text : List Char) :
    (dropByteOrderMark text).length ≤ text.length := by
  unfold dropByteOrderMark
  split <;> simp

/-- The text behind raw text and its end tag. Behind a script reading begins anew, as at the
beginning of a page. -/
def behindRaw (raw : RawText) (text : List Char) : List Char :=
  let rest := (Item.read false text).2
  if raw = .script then dropByteOrderMark rest else rest

theorem length_behindRaw (raw : RawText) (text : List Char) :
    (behindRaw raw text).length ≤ text.length := by
  have hread := Item.length_read_le false text
  unfold behindRaw
  split
  · exact Nat.le_trans (length_dropByteOrderMark _) hread
  · exact hread

def readAll (page : Page) : List Char → Page
  | [] => page
  | c :: rest =>
    if page.isFrameset then page
    else
      let step := Item.read page.inForeign (c :: rest)
      let next := step.1.foldl take page
      match next.raw with
      | none => next.readAll step.2
      | some .endless =>
        (RawText.endless.read [] step.2).1.foldl take { next with raw := none }
      | some raw =>
        let inside := raw.read next.currentName step.2
        (next.takeRaw inside.1).readAll (behindRaw raw inside.2)
termination_by text => text.length
decreasing_by
  · exact Nat.lt_succ_of_le (Item.length_read page.inForeign c rest)
  · exact Nat.lt_succ_of_le (Nat.le_trans (length_behindRaw raw inside.2)
      (Nat.le_trans (raw.length_read next.currentName step.2)
        (Item.length_read page.inForeign c rest)))

/-- Closes all elements; the outermost one is left. -/
def closeAll (page : Page) : Page :=
  (if page.tableText.isEmpty then page else Rules.placeTableText page).closeWhile fun _ => true

def bodyIn? : Markup → Option Element
  | .text _ => none
  | .element tag children => if tag.name = "body" then some ⟨tag, children⟩ else none

def body (page : Page) : Element :=
  ((page.closeAll.frames.flatMap Frame.children).findSome? bodyIn?).getD ⟨⟨"body", ∅⟩, []⟩

end Page

/-- The body of a document, without what is nested too deep; none if it is a frameset. -/
def bodyOf? (html : String) : Option Element :=
  let page := Page.readAll {} (Page.dropByteOrderMark html.toList)
  if page.isFrameset then none else some page.body.prune

end MarkupLayout.Html
