import MarkupLayout.Convert.Draft
import MarkupLayout.Convert.Options

/-!
# Settings and converters

A converter is built from settings, which options may change first. Font sizes and the depth limit
are checked when it is built, and so is the place of the journal.
-/

namespace MarkupLayout.Convert

open Picture (Stateful Fetcher Thumbnailer)

inductive JournalTarget where
  | none
  | writable
  | unwritable
deriving DecidableEq, Repr

structure Settings where
  overrides : Option (List (String × Json)) := none
  autoSize : Bool := false
  fontSizes : Vector Float 7 := defaultFontSizes
  ttl : UInt64 := Picture.defaultTtl
  placeholderTtl : UInt64 := Picture.defaultPlaceholderTtl
  placeholder : String := Picture.transparentPixel
  tolerant : Bool := true
  expiry : Picture.Expiry := .sliding
  maxDepth : Nat := Markup.depthLimit
  hook : Option TextHook := none
  fetcher : Option (Stateful Fetcher) := none
  thumbnailer : Stateful Thumbnailer
  journal : JournalTarget := .none

inductive SettingsError where
  | fontSizes (defect : FontLadder.Defect)
  | depthOutOfRange
  | journalUnwritable
deriving DecidableEq, Repr

def FontLadder.Defect.message : FontLadder.Defect → String
  | notPositive => "font_sizes must be positive"
  | notAscending => "font_sizes must be strictly ascending"

def SettingsError.message : SettingsError → String
  | fontSizes defect => "invalid configuration: " ++ defect.message
  | depthOutOfRange =>
    "invalid configuration: max_depth must be between 1 and " ++ toString Markup.depthLimit
  | journalUnwritable => "the journal can not be written"

structure Converter where
  design : Design
  fetcher : Option (Stateful Fetcher) := none
  thumbnailer : Stateful Thumbnailer
  policy : Picture.Policy := {}
  tolerant : Bool
  journaled : Bool

/-- The resolver for a request that comes after some addresses have been fetched. -/
def Converter.resolver (c : Converter) (fetched : List String) : Picture.Resolver :=
  { c.policy with
    fetcher := c.fetcher.map (· fetched)
    thumbnailer := c.thumbnailer fetched }

namespace Settings

def withOptions (s : Settings) (o : Options) : Settings :=
  { s with
    overrides := o.defaultStyles.or s.overrides
    autoSize := o.tableAutoSize.getD s.autoSize
    ttl := o.ttl.getD s.ttl
    placeholderTtl := o.ttlEmpty.getD s.placeholderTtl
    placeholder := o.placeholder.getD s.placeholder
    fontSizes := o.fontSizes.getD s.fontSizes
    tolerant := o.tolerantImages.getD s.tolerant
    expiry := o.expiry.getD s.expiry }

def build (s : Settings) : Except SettingsError Converter :=
  match FontLadder.ofSizes s.fontSizes with
  | .error defect => .error (.fontSizes defect)
  | .ok fonts =>
    if h : 0 < s.maxDepth ∧ s.maxDepth ≤ Markup.depthLimit then
      if s.journal = .unwritable then .error .journalUnwritable
      else .ok
        { design :=
            { styles := DefaultStyles.standard.override (s.overrides.getD [])
              autoSize := s.autoSize
              fonts
              hook := s.hook
              maxDepth := s.maxDepth
              maxDepth_pos := h.1
              maxDepth_le := h.2 }
          fetcher := s.fetcher
          thumbnailer := s.thumbnailer
          policy :=
            { ttl := s.ttl
              placeholderTtl := s.placeholderTtl
              placeholder := s.placeholder
              expiry := s.expiry }
          tolerant := s.tolerant
          journaled := s.journal = .writable }
    else .error .depthOutOfRange

end Settings

/-- A converter that fetches nothing and tolerates no failure. -/
def plainConverter : Converter where
  design :=
    { styles := .standard
      autoSize := true
      fonts := ⟨defaultFontSizes, by decide +kernel, by decide +kernel⟩
      hook := none
      maxDepth := 8
      maxDepth_pos := by decide
      maxDepth_le := by decide }
  thumbnailer := fun _ _ size => .ok (toString size.width ++ "x" ++ toString size.height)
  tolerant := false
  journaled := true

/-- A converter that finds something everywhere. -/
def tolerantConverter : Converter :=
  { plainConverter with
    tolerant := true
    fetcher := some fun _ url => .ok url.toByteArray }

/-- A converter whose hook tells the kind of the element around a text. -/
def namingConverter : Converter :=
  { plainConverter with
    design :=
      { plainConverter.design with
        hook := some fun text path => text ++ " in " ++ (tags path).getLast?.elim "" Tag.kind } }

/-- A body with runs that hide no block, a remote picture in a paragraph, an empty element, a list,
and a table whose cells span or hold a picture. -/
def pictureBook : Element where
  tag := { name := "body" }
  children :=
    [.element { name := "p" }
        [.text "See ", .element { name := "b" } [.element { name := "i" } [.text "this"]],
          .element { name := "img", attrs := .ofList [("src", "http://ab.cd/e.png")] } []],
      .element { name := "span" } [.element { name := "em" } [], .text "and that"],
      .element { name := "ul" }
        [.element { name := "li" } [.element { name := "span" } [.element { name := "div" } []]]],
      .element { name := "img" } [],
      .element { name := "table" }
        [.element { name := "tr" }
          [.element { name := "td", attrs := .ofList [("colspan", "2"), ("rowspan", "2")] } [],
            .element { name := "td" } [.element { name := "h1" } [.text "Title"], .text "!"]],
          .element { name := "tr" }
            [.element { name := "td" }
              [.text "last", .element { name := "img", attrs := .ofList [("src", "data:,")] } []]]]]

end MarkupLayout.Convert
