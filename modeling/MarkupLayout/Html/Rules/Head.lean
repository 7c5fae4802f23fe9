import MarkupLayout.Html.Page

/-!
# Before the body

The rules for the tokens before and in the head of a page and between the head and the body. What
the text leaves out is opened and closed as if it stood there.
-/

namespace MarkupLayout.Html.Rules

def start (token : Token) (page : Page) : Outcome :=
  match token with
  | .comment => .done page
  | .char c => if isSpace c then .done page else .again { page with mode := .beforeHead }
  | _ => .again { page with mode := .beforeHead }

/-- Whether an end tag calls for the parts of the page that it would end. -/
def endsPage (name : String) : Bool :=
  ["body", "html", "br"].contains name

def beforeHead (token : Token) (page : Page) : Outcome :=
  let implied := Outcome.again { page.insertImplied "head" with mode := .head }
  match token with
  | .comment => .done page
  | .char c => if isSpace c then .done page else implied
  | .opening tag _ =>
    if tag.name = "html" then .done page
    else if tag.name = "head" then .done { page.insert tag with mode := .head }
    else implied
  | .closing name => if name = "head" || endsPage name then implied else .done page

def head (token : Token) (page : Page) : Outcome :=
  let left : Page := { page.close with mode := .afterHead }
  match token with
  | .comment => .done (page.add .comment)
  | .char c => if isSpace c then .done (page.addChar c) else .again left
  | .opening tag _ =>
    if tag.name = "html" || tag.name = "head" then .done page
    else if Kind.ofHead.contains tag.name || tag.name = "noscript" then
      .done (page.insertOfHead tag)
    else .again left
  | .closing name =>
    if name = "head" then .done left
    else if name = "template" then .done page.closeTemplate
    else if endsPage name then .again left
    else .done page

def afterHead (token : Token) (page : Page) : Outcome :=
  let implied := Outcome.again { page.insertImplied "body" with mode := .body }
  match token with
  | .comment => .done (page.add .comment)
  | .char c => if isSpace c then .done (page.addChar c) else implied
  | .opening tag _ =>
    if tag.name = "html" || tag.name = "head" then .done page
    else if tag.name = "body" then .done { (page.insert tag).withoutFrameset with mode := .body }
    else if tag.name = "frameset" then .done { page with isFrameset := true }
    else if Kind.ofHead.contains tag.name then .done (page.insertOfHead tag)
    else implied
  | .closing name =>
    if name = "template" then .done page.closeTemplate
    else if endsPage name then implied
    else .done page

end MarkupLayout.Html.Rules
