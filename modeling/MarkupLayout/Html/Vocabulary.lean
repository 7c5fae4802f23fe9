import MarkupLayout.Markup.Basic

/-!
# Vocabularies

Elements of a page are named in the vocabulary of HTML, or in that of a drawing or of a formula
inside it. The text of a page knows no letter case in names; here the two other vocabularies get
their spelling back, and are told where HTML goes on inside them.
-/

namespace MarkupLayout.Html

inductive Vocabulary where
  | html
  | drawing
  | formula
deriving DecidableEq

namespace Vocabulary

/-- The elements of drawings that are not spelled in small letters. -/
def drawingNames : List String := [
  "altGlyph", "altGlyphDef", "altGlyphItem", "animateColor", "animateMotion",
  "animateTransform", "clipPath", "feBlend", "feColorMatrix", "feComponentTransfer",
  "feComposite", "feConvolveMatrix", "feDiffuseLighting", "feDisplacementMap",
  "feDistantLight", "feDropShadow", "feFlood", "feFuncA", "feFuncB", "feFuncG", "feFuncR",
  "feGaussianBlur", "feImage", "feMerge", "feMergeNode", "feMorphology", "feOffset",
  "fePointLight", "feSpecularLighting", "feSpotLight", "feTile", "feTurbulence",
  "foreignObject", "glyphRef", "linearGradient", "radialGradient", "textPath"]

def drawingAttrs : List String := [
  "attributeName", "attributeType", "baseFrequency", "baseProfile", "calcMode",
  "clipPathUnits", "diffuseConstant", "edgeMode", "filterUnits", "glyphRef",
  "gradientTransform", "gradientUnits", "kernelMatrix", "kernelUnitLength", "keyPoints",
  "keySplines", "keyTimes", "lengthAdjust", "limitingConeAngle", "markerHeight",
  "markerUnits", "markerWidth", "maskContentUnits", "maskUnits", "numOctaves", "pathLength",
  "patternContentUnits", "patternTransform", "patternUnits", "pointsAtX", "pointsAtY",
  "pointsAtZ", "preserveAlpha", "preserveAspectRatio", "primitiveUnits", "refX", "refY",
  "repeatCount", "repeatDur", "requiredExtensions", "requiredFeatures", "specularConstant",
  "specularExponent", "spreadMethod", "startOffset", "stdDeviation", "stitchTiles",
  "surfaceScale", "systemLanguage", "tableValues", "targetX", "targetY", "textLength",
  "viewBox", "viewTarget", "xChannelSelector", "yChannelSelector", "zoomAndPan"]

def respell (spellings : List String) (name : String) : String :=
  (spellings.find? fun spelling => Text.asciiLower spelling == name).getD name

def elementName (vocabulary : Vocabulary) (name : String) : String :=
  if vocabulary = .drawing then respell drawingNames name else name

/-- The key of an attribute. Outside HTML the declaration of the own vocabulary counts as having
an empty prefix, which a colon follows in the key. -/
def attrKey (vocabulary : Vocabulary) (key : String) : String :=
  match vocabulary with
  | .html => key
  | .drawing => if key = "xmlns" then ":xmlns" else respell drawingAttrs key
  | .formula =>
    if key = "xmlns" then ":xmlns" else if key = "definitionurl" then "definitionURL" else key

def respellAttrs (vocabulary : Vocabulary) (attrs : SortedMap String) : SortedMap String :=
  if vocabulary = .html then attrs
  else SortedMap.ofList (attrs.entries.map fun (key, value) => (vocabulary.attrKey key, value))

/-- Whether text and most elements inside a formula element belong to HTML. -/
def holdsText (vocabulary : Vocabulary) (name : String) : Bool :=
  vocabulary = .formula && ["mi", "mo", "mn", "ms", "mtext"].contains name

def holdsPage (vocabulary : Vocabulary) (name : String) : Bool :=
  vocabulary = .drawing && ["foreignObject", "desc", "title"].contains name

def breaksOut (tag : Tag) : Bool :=
  [ "b", "big", "blockquote", "body", "br", "center", "code", "dd", "div", "dl", "dt", "em",
    "embed", "h1", "h2", "h3", "h4", "h5", "h6", "head", "hr", "i", "img", "li", "listing",
    "menu", "meta", "nobr", "ol", "p", "pre", "ruby", "s", "small", "span", "strong", "strike",
    "sub", "sup", "table", "tt", "u", "ul", "var"].contains tag.name ||
  (tag.name == "font" && ["color", "face", "size"].any tag.attrs.contains)

end Vocabulary

end MarkupLayout.Html
