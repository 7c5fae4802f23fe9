import MarkupLayout.Html.Nesting

/-!
# In drawings and formulas

The rules for the tokens inside a drawing or a formula. Elements keep its vocabulary there until
one breaks out of it, and names in end tags are compared without regard to letter case.
-/

namespace MarkupLayout.Html.Rules

def isForeign (token : Token) (page : Page) : Bool :=
  match page.frames with
  | [] => false
  | frame :: _ =>
    let name := frame.tag.name
    let holdsText := frame.vocabulary.holdsText name
    let holdsPage := frame.vocabulary.holdsPage name
    frame.vocabulary ≠ .html &&
      match token with
      | .char _ => !holdsText && !holdsPage
      | .opening tag _ =>
        !(holdsText && tag.name ∉ ["mglyph", "malignmark"]) && !holdsPage &&
          !(frame.vocabulary = .formula && name == "annotation-xml" && tag.name == "svg")
      | _ => true

def foreignElement (tag : Tag) (empty : Bool) (page : Page) : Page :=
  match page.frames with
  | [] => page
  | frame :: _ =>
    let vocabulary := frame.vocabulary
    let page := page.insertIn vocabulary
      ⟨vocabulary.elementName tag.name, vocabulary.respellAttrs tag.attrs⟩
    if empty then page.close else page

/-- Closes the innermost element and those around it up to a place where HTML goes on. -/
def brokenOut (page : Page) : Page :=
  page.close.closeWhile fun frame =>
    !(frame.vocabulary = .html || frame.vocabulary.holdsText frame.tag.name ||
      frame.vocabulary.holdsPage frame.tag.name)

def foreignMatch? (name : String) : List Frame → Option Nat
  | [] => none
  | frame :: around =>
    if !frame.counts then foreignMatch? name around
    else if frame.vocabulary = .html then none
    else if Text.sameIgnoringCase frame.tag.name name then some frame.serial
    else foreignMatch? name around

/-- The rules; an end tag that ends no element here is left to the rules of the place. -/
def foreign (elsewhere : Token → Page → Outcome) (token : Token) (page : Page) : Outcome :=
  match token with
  | .comment => .done (page.add .comment)
  | .char c =>
    if c = '\x00' then .done (page.addChar '\uFFFD')
    else .done ((if isSpace c then page else page.withoutFrameset).addChar c)
  | .opening tag empty =>
    if Vocabulary.breaksOut tag then .again (brokenOut page)
    else .done (foreignElement tag empty page)
  | .closing name =>
    match foreignMatch? name page.frames with
    | some serial => .done (page.closeSerial serial)
    | none => elsewhere token page

end MarkupLayout.Html.Rules
