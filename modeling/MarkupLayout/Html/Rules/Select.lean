import MarkupLayout.Html.Rules.Body

/-!
# In lists of choices and templates

The rules for the tokens in a list of choices, which holds choices and their groups only, and for
those directly in a template, where the first tag decides what the template holds.
-/

namespace MarkupLayout.Html.Rules

def leftSelect (page : Page) : Page :=
  (page.closeThrough ["select"]).resetMode

def closeCurrent (name : String) (page : Page) : Page :=
  if page.currentIs [name] then page.close else page

def selectOpening (tag : Tag) (page : Page) : Outcome :=
  let isOpen := page.reaches ["select"] Kind.boundsSelect
  match tag.name with
  | "option" => .done ((closeCurrent "option" page).insert tag)
  | "optgroup" => .done ((closeCurrent "optgroup" (closeCurrent "option" page)).insert tag)
  | "select" => .done (if isOpen then leftSelect page else page)
  | "input" | "keygen" | "textarea" => if isOpen then .again (leftSelect page) else .done page
  | "script" | "template" => .done (page.insertOfHead tag)
  | _ => .done page

def selectClosing (name : String) (page : Page) : Page :=
  match name with
  | "option" => closeCurrent "option" page
  | "optgroup" =>
    let inGroup := (page.frames.tail.find? (·.counts)).any (·.is "optgroup")
    closeCurrent "optgroup" (if inGroup then closeCurrent "option" page else page)
  | "select" => if page.reaches ["select"] Kind.boundsSelect then leftSelect page else page
  | "template" => page.closeTemplate
  | _ => page

def select (token : Token) (page : Page) : Outcome :=
  match token with
  | .comment => .done (page.add .comment)
  | .char c => .done (if c = '\x00' then page else page.addChar c)
  | .opening tag _ => selectOpening tag page
  | .closing name => .done (selectClosing name page)

/-- A list of choices in a table ends where the table goes on. -/
def selectInTable (token : Token) (page : Page) : Outcome :=
  match token with
  | .opening tag _ =>
    if ["caption", "table", "tbody", "tfoot", "thead", "tr", "td", "th"].contains tag.name then
      .again (leftSelect page)
    else select token page
  | .closing name =>
    if ["caption", "table", "tbody", "tfoot", "thead", "tr", "td", "th"].contains name then
      if page.reaches [name] Kind.boundsTable then .again (leftSelect page) else .done page
    else select token page
  | _ => select token page

/-- Goes on as in another place, which the rest of the template then counts as. -/
def templateAs (mode : Mode) (page : Page) : Outcome :=
  .again { page with mode, templates := mode :: page.templates.tail }

def template (token : Token) (page : Page) : Outcome :=
  match token with
  | .comment | .char _ => body token page
  | .opening tag _ =>
    if Kind.ofHead.contains tag.name then .done (page.insertOfHead tag)
    else match tag.name with
      | "caption" | "colgroup" | "tbody" | "tfoot" | "thead" => templateAs .table page
      | "col" => templateAs .columns page
      | "tr" => templateAs .tableSection page
      | "td" | "th" => templateAs .row page
      | _ => templateAs .body page
  | .closing name => .done (if name = "template" then page.closeTemplate else page)

end MarkupLayout.Html.Rules
