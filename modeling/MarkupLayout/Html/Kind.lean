import MarkupLayout.Html.Frame

/-!
# Kinds of elements

The groups of elements that the rules of a page speak of: those that bound a search among the open
elements, those whose end may be left out, and those that a page treats alike when they open or
close.
-/

namespace MarkupLayout.Html.Kind

/-- Special elements: the end tag of an ordinary element does not reach beyond them. -/
def special : List String := [
  "address", "applet", "area", "article", "aside", "base", "basefont", "bgsound", "blockquote",
  "body", "br", "button", "caption", "center", "col", "colgroup", "dd", "details", "dir", "div",
  "dl", "dt", "embed", "fieldset", "figcaption", "figure", "footer", "form", "frame", "frameset",
  "h1", "h2", "h3", "h4", "h5", "h6", "head", "header", "hgroup", "hr", "html", "iframe", "img",
  "input", "isindex", "li", "link", "listing", "main", "marquee", "menu", "meta", "nav",
  "noembed", "noframes", "noscript", "object", "ol", "p", "param", "plaintext", "pre", "script",
  "section", "select", "source", "style", "summary", "table", "tbody", "td", "template",
  "textarea", "tfoot", "th", "thead", "title", "tr", "track", "ul", "wbr", "xmp"]

/-- Blocks that end an open paragraph. -/
def block : List String := [
  "address", "article", "aside", "blockquote", "center", "details", "dialog", "dir", "div", "dl",
  "fieldset", "figcaption", "figure", "footer", "header", "hgroup", "main", "menu", "nav", "ol",
  "p", "section", "summary", "ul"]

def closedAsWhole : List String := [
  "address", "article", "aside", "blockquote", "button", "center", "details", "dialog", "dir",
  "div", "dl", "fieldset", "figcaption", "figure", "footer", "header", "hgroup", "listing",
  "main", "menu", "nav", "ol", "pre", "section", "summary", "ul"]

def heading : List String := ["h1", "h2", "h3", "h4", "h5", "h6"]

/-- Elements that are opened again in the next block when they were not closed. -/
def formatting : List String := [
  "a", "b", "big", "code", "em", "font", "i", "nobr", "s", "small", "strike", "strong", "tt", "u"]

/-- Elements inside which formatting begins anew. -/
def enclosure : List String := ["applet", "marquee", "object"]

def ofHead : List String := [
  "base", "basefont", "bgsound", "link", "meta", "noframes", "script", "style", "template",
  "title"]

def inlineVoid : List String := ["area", "br", "embed", "img", "keygen", "wbr", "input"]

def otherVoid : List String := ["param", "source", "track"]

def tableSection : List String := ["tbody", "tfoot", "thead"]

def cell : List String := ["td", "th"]

def tablePart : List String :=
  ["caption", "col", "colgroup", "tbody", "td", "tfoot", "th", "thead", "tr"]

/-- Elements of a table that hold neither text nor other content. -/
def tableFrame : List String := ["table", "tbody", "tfoot", "thead", "tr"]

def impliedEnd : List String :=
  ["dd", "dt", "li", "option", "optgroup", "p", "rb", "rp", "rt", "rtc"]

def impliedEndInTemplate : List String :=
  impliedEnd ++ ["caption", "colgroup", "tbody", "td", "tfoot", "th", "thead", "tr"]

/-! The bounds of a search among the open elements. -/

def boundsAny (frame : Frame) : Bool :=
  frame.isOne ["applet", "caption", "html", "table", "td", "th", "marquee", "object", "template"] ||
    frame.vocabulary.holdsText frame.tag.name || frame.vocabulary.holdsPage frame.tag.name

def boundsItem (frame : Frame) : Bool :=
  boundsAny frame || frame.isOne ["ol", "ul"]

def boundsParagraph (frame : Frame) : Bool :=
  boundsAny frame || frame.is "button"

def boundsTable (frame : Frame) : Bool :=
  frame.isOne ["html", "table", "template"]

def boundsSelect (frame : Frame) : Bool :=
  !frame.isOne ["optgroup", "option"]

end MarkupLayout.Html.Kind
