import MarkupLayout.Html.Nesting

/-!
# In the body

The rules for the tokens in the body of a page, which most other places fall back on, and for
what follows the body.
-/

namespace MarkupLayout.Html.Rules

def bodyChar (c : Char) (page : Page) : Page :=
  if c = '\x00' then page
  else
    let page := page.reopenFormatting
    (if isSpace c then page else page.withoutFrameset).addChar c

def openItem? (names : List String) : List Frame → Option String
  | [] => none
  | frame :: around =>
    if !frame.counts then openItem? names around
    else if frame.isOne names then some frame.tag.name
    else if frame.isOne Kind.special && !frame.isOne ["address", "div", "p"] then none
    else openItem? names around

def insertItem (names : List String) (tag : Tag) (page : Page) : Page :=
  let page := match openItem? names page.frames with
    | some name => (page.closeImplied name).closeThrough [name]
    | none => page
  page.withoutFrameset.endParagraph.insert tag

def insertOther (vocabulary : Vocabulary) (tag : Tag) (empty : Bool) (page : Page) : Page :=
  let page := page.insertIn vocabulary ⟨tag.name, vocabulary.respellAttrs tag.attrs⟩
  if empty then page.close else page

def isHidden (tag : Tag) : Bool :=
  (tag.attr? "type").any (Text.sameIgnoringCase · "hidden")

def insertForm (tag : Tag) (page : Page) : Page :=
  let inTemplate := page.hasOpen "template"
  if page.form.isSome && !inTemplate then page
  else
    let page := page.endParagraph
    { page.insert tag with form := if inTemplate then page.form else some page.nextSerial }

def insertSelect (tag : Tag) (page : Page) : Page :=
  let inTable := [Mode.table, .caption, .tableSection, .row, .cell].contains page.mode
  { (page.reopenFormatting.insert tag).withoutFrameset with
    mode := if inTable then .selectInTable else .select }

def insertButton (tag : Tag) (page : Page) : Page :=
  let page :=
    if page.reaches ["button"] Kind.boundsAny then (page.closeImplied "").closeThrough ["button"]
    else page
  (page.reopenFormatting.insert tag).withoutFrameset

/-- Opens a part of an annotation; the exception keeps an open container. -/
def insertAnnotation (except : String) (tag : Tag) (page : Page) : Page :=
  (if page.reaches ["ruby"] Kind.boundsAny then page.closeImplied except else page).insert tag

/-- An element that no group of elements has in it. -/
def bodyElement (tag : Tag) (empty : Bool) (page : Page) : Page :=
  match tag.name with
  | "html" | "head" | "frame" => page
  | "body" =>
    if page.hasOpen "body" && !page.hasOpen "template" then
      (page.addToBody tag.attrs).withoutFrameset
    else page
  | "frameset" => { page with isFrameset := page.mayBeFrameset && page.hasOpen "body" }
  | "pre" | "listing" => { (page.endParagraph.insert tag).withoutFrameset with skipsBreak := true }
  | "form" => insertForm tag page
  | "li" => insertItem ["li"] tag page
  | "dd" | "dt" => insertItem ["dd", "dt"] tag page
  | "plaintext" => page.endParagraph.insertRaw tag .endless
  | "button" => insertButton tag page
  | "table" =>
    let page := if page.currentRules then page.endParagraph else page
    { (page.insert tag).withoutFrameset with mode := .table }
  | "hr" => (page.endParagraph.insertEmpty tag).withoutFrameset
  | "textarea" => { (page.insertRaw tag .referring).withoutFrameset with skipsBreak := true }
  | "xmp" => (page.endParagraph.reopenFormatting.insertRaw tag .literal).withoutFrameset
  | "iframe" => (page.insertRaw tag .literal).withoutFrameset
  | "noembed" | "noscript" => page.insertRaw tag .literal
  | "select" => insertSelect tag page
  | "optgroup" | "option" =>
    (if page.currentIs ["option"] then page.close else page).reopenFormatting.insert tag
  | "rb" | "rtc" => insertAnnotation "" tag page
  | "rp" | "rt" => insertAnnotation "rtc" tag page
  | "math" => insertOther .formula tag empty page
  | "svg" => insertOther .drawing tag empty page
  | _ => page.reopenFormatting.insert tag

def bodyOpening (tag : Tag) (empty : Bool) (page : Page) : Page :=
  let tag := if tag.name = "image" then { tag with name := "img" } else tag
  let isOf (names : List String) : Bool := names.contains tag.name
  if isOf Kind.ofHead then page.insertOfHead tag
  else if isOf Kind.block then page.endParagraph.insert tag
  else if isOf Kind.heading then
    let page := page.endParagraph
    (if page.currentIs Kind.heading then page.close else page).insert tag
  else if isOf Kind.formatting then
    let page := if tag.name = "a" then page.endOpenLink else page
    let page := page.reopenFormatting
    let page :=
      if tag.name = "nobr" && page.reaches ["nobr"] Kind.boundsAny then
        (page.closeFormatting "nobr").reopenFormatting
      else page
    page.insertFormatting tag
  else if isOf Kind.enclosure then
    (page.reopenFormatting.insert tag).beginFormatting.withoutFrameset
  else if isOf Kind.inlineVoid then
    let page := page.reopenFormatting.insertEmpty tag
    if tag.name = "input" && isHidden tag then page else page.withoutFrameset
  else if isOf Kind.otherVoid then page.insertEmpty tag
  else if isOf Kind.tablePart then page
  else bodyElement tag empty page

def closeForm (page : Page) : Page :=
  if page.hasOpen "template" then
    if page.reaches ["form"] Kind.boundsAny then (page.closeImplied "").closeThrough ["form"]
    else page
  else
    match page.form with
    | none => page
    | some serial =>
      let page := { page with form := none }
      if Frames.reaches (·.serial == serial) Kind.boundsAny page.frames then
        let page := page.closeImplied ""
        { page with frames := Frames.release serial page.frames }
      else page

def closeItem (name : String) (page : Page) : Page :=
  let bound := if name = "li" then Kind.boundsItem else Kind.boundsAny
  if page.reaches [name] bound then (page.closeImplied name).closeThrough [name] else page

def bodyElementEnd (name : String) (page : Page) : Page :=
  let isOf (names : List String) : Bool := names.contains name
  if isOf Kind.closedAsWhole then
    if page.reaches [name] Kind.boundsAny then (page.closeImplied "").closeThrough [name] else page
  else if isOf Kind.heading then
    if page.reaches Kind.heading Kind.boundsAny then
      (page.closeImplied "").closeThrough Kind.heading
    else page
  else if isOf Kind.formatting then page.closeFormatting name
  else if isOf Kind.enclosure then
    if page.reaches [name] Kind.boundsAny then
      ((page.closeImplied "").closeThrough [name]).endFormatting
    else page
  else match name with
    | "template" => page.closeTemplate
    | "form" => closeForm page
    | "p" =>
      let isOpen := page.reaches ["p"] Kind.boundsParagraph
      (if isOpen then page else page.insertImplied "p").closeParagraph
    | "li" | "dd" | "dt" => closeItem name page
    | "br" => bodyOpening ⟨"br", ∅⟩ false page
    | _ => page.closeAny name

def body (token : Token) (page : Page) : Outcome :=
  match token with
  | .comment => .done (page.add .comment)
  | .char c => .done (bodyChar c page)
  | .opening tag empty => .done (bodyOpening tag empty page)
  | .closing name =>
    if name = "body" || name = "html" then
      if page.reaches ["body"] Kind.boundsAny then .done { page with mode := .afterBody }
      else .done page
    else .done (bodyElementEnd name page)

/-- After the body; what follows all the same still goes into it. -/
def afterBody (token : Token) (page : Page) : Outcome :=
  match token with
  | .comment => .done page
  | .char c => if isSpace c then .done (bodyChar c page) else .again { page with mode := .body }
  | .opening tag _ => if tag.name = "html" then .done page else .again { page with mode := .body }
  | .closing name => if name = "html" then .done page else .again { page with mode := .body }

end MarkupLayout.Html.Rules
