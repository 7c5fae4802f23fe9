import MarkupLayout.Html.Rules.Body

/-!
# In tables

The rules for the tokens in a table and its parts. A table holds its parts only: other content
goes before it, apart from white space.
-/

namespace MarkupLayout.Html.Rules

def beside (rule : Page → Outcome) (page : Page) : Outcome :=
  (rule { page with besideTable := true }).map fun page => { page with besideTable := false }

def besideChar (page : Page) (c : Char) : Page :=
  { bodyChar c { page with besideTable := true } with besideTable := false }

/-- Places the text found between the parts of a table: white space stays, other text goes before
the table. -/
def placeTableText (page : Page) : Page :=
  let text := page.tableText.reverse
  let page := { page with tableText := [] }
  if text.all isSpace then text.foldl Page.addChar page else text.foldl besideChar page

def tableOpening (tag : Tag) (empty : Bool) (page : Page) : Outcome :=
  let cleared := page.closeWhile fun frame => !Kind.boundsTable frame
  match tag.name with
  | "caption" => .done { cleared.beginFormatting.insert tag with mode := .caption }
  | "colgroup" => .done { cleared.insert tag with mode := .columns }
  | "col" => .again { cleared.insertImplied "colgroup" with mode := .columns }
  | "tbody" | "tfoot" | "thead" => .done { cleared.insert tag with mode := .tableSection }
  | "td" | "th" | "tr" => .again { cleared.insertImplied "tbody" with mode := .tableSection }
  | "table" =>
    if page.reaches ["table"] Kind.boundsTable then
      .again (page.closeThrough ["table"]).resetMode
    else .done page
  | "style" | "script" | "template" => .done (page.insertOfHead tag)
  | "form" =>
    if page.form.isSome || page.hasOpen "template" then .done page
    else .done { page.insertEmpty tag with form := some page.nextSerial }
  | _ =>
    if tag.name = "input" && isHidden tag then .done (page.insertEmpty tag)
    else beside (body (.opening tag empty)) page

def table (token : Token) (page : Page) : Outcome :=
  match token with
  | .comment => .done (page.add .comment)
  | .char c =>
    if !page.currentIs Kind.tableFrame then .done (besideChar page c)
    else if c = '\x00' then .done page
    else .done { page with tableText := c :: page.tableText }
  | .opening tag empty => tableOpening tag empty page
  | .closing name =>
    if name = "table" then
      if page.reaches ["table"] Kind.boundsTable then
        .done (page.closeThrough ["table"]).resetMode
      else .done page
    else if Kind.tablePart.contains name || name = "body" || name = "html" then .done page
    else if name = "template" then .done page.closeTemplate
    else beside (body token) page

def caption (token : Token) (page : Page) : Outcome :=
  let isOpen := page.reaches ["caption"] Kind.boundsTable
  let left : Page :=
    { ((page.closeImplied "").closeThrough ["caption"]).endFormatting with mode := .table }
  match token with
  | .opening tag _ =>
    if Kind.tablePart.contains tag.name then if isOpen then .again left else .done page
    else body token page
  | .closing name =>
    if name = "caption" then .done (if isOpen then left else page)
    else if name = "table" then if isOpen then .again left else .done page
    else if Kind.tablePart.contains name || name = "body" || name = "html" then .done page
    else body token page
  | _ => body token page

def columns (token : Token) (page : Page) : Outcome :=
  let isCurrent := page.currentIs ["colgroup"]
  let left : Page := { page.close with mode := .table }
  let leave := if isCurrent then Outcome.again left else .done page
  match token with
  | .comment => .done (page.add .comment)
  | .char c => if isSpace c then .done (page.addChar c) else leave
  | .opening tag _ =>
    match tag.name with
    | "html" => .done page
    | "col" => .done (page.insertEmpty tag)
    | "template" => .done (page.insertOfHead tag)
    | _ => leave
  | .closing name =>
    match name with
    | "colgroup" => .done (if isCurrent then left else page)
    | "col" => .done page
    | "template" => .done page.closeTemplate
    | _ => leave

def tableSection (token : Token) (page : Page) : Outcome :=
  let cleared := page.closeTo (Kind.tableSection ++ ["template", "html"])
  let left : Page := { cleared.close with mode := .table }
  let leave :=
    if page.reaches ["table", "tbody", "tfoot"] Kind.boundsTable then Outcome.again left
    else .done page
  match token with
  | .opening tag _ =>
    match tag.name with
    | "tr" => .done { cleared.insert tag with mode := .row }
    | "td" | "th" => .again { cleared.insertImplied "tr" with mode := .row }
    | "caption" | "col" | "colgroup" | "tbody" | "tfoot" | "thead" => leave
    | _ => table token page
  | .closing name =>
    if Kind.tableSection.contains name then
      .done (if page.reaches [name] Kind.boundsTable then left else page)
    else if name = "table" then leave
    else table token page
  | _ => table token page

def row (token : Token) (page : Page) : Outcome :=
  let cleared := page.closeTo ["tr", "template", "html"]
  let isOpen := page.reaches ["tr"] Kind.boundsTable
  let left : Page := { cleared.close with mode := .tableSection }
  let leave := if isOpen then Outcome.again left else .done page
  match token with
  | .opening tag _ =>
    if Kind.cell.contains tag.name then
      .done { (cleared.insert tag).beginFormatting with mode := .cell }
    else if Kind.tablePart.contains tag.name then leave
    else table token page
  | .closing name =>
    if name = "tr" then .done (if isOpen then left else page)
    else if name = "table" then leave
    else if Kind.tableSection.contains name then
      if page.reaches [name] Kind.boundsTable then leave else .done page
    else table token page
  | _ => table token page

def cell (token : Token) (page : Page) : Outcome :=
  let left (names : List String) : Page :=
    { ((page.closeImplied "").closeThrough names).endFormatting with mode := .row }
  match token with
  | .opening tag _ =>
    if Kind.tablePart.contains tag.name then
      if page.reaches Kind.cell Kind.boundsTable then .again (left Kind.cell) else .done page
    else body token page
  | .closing name =>
    let isOpen := page.reaches [name] Kind.boundsTable
    if Kind.cell.contains name then .done (if isOpen then left [name] else page)
    else if Kind.tableFrame.contains name then
      if isOpen then .again (left Kind.cell) else .done page
    else if ["body", "caption", "col", "colgroup", "html"].contains name then .done page
    else body token page
  | _ => body token page

end MarkupLayout.Html.Rules
