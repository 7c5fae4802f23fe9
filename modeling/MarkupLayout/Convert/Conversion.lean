import MarkupLayout.Convert.Settings
import MarkupLayout.Html.Document
import MarkupLayout.Journal

/-!
# Converting markup

A conversion takes the steps of a draft in order, stops at the first request that fails, and else
puts the answers into the draft. It works on a ledger of the shared picture cache, the addresses
fetched so far, and the journal of the converter, and leaves a ledger behind also when it fails.
-/

namespace MarkupLayout.Convert

open Layout

structure Ledger where
  cache : Picture.Cache := ∅
  fetched : List String := []
  journal : Journal := {}

namespace Converter

def note (c : Converter) (record : Journal.Record) (journal : Journal) : Journal :=
  if c.journaled then journal.note record else journal

def close (c : Converter) (context : String) (journal : Journal) : Journal :=
  if c.journaled then journal.summarize context else journal

def answer (c : Converter) (now : UInt64) (request : Picture.Request) (ledger : Ledger) :
    Except Picture.Failure String × Ledger :=
  let resolution := (c.resolver ledger.fetched).resolve now c.tolerant request ledger.cache
  (resolution.answer,
    { cache := resolution.cache
      fetched := ledger.fetched ++ resolution.fetched
      journal := match resolution.outcome with
        | some outcome => c.note (.resolved request.url outcome) ledger.journal
        | none => ledger.journal })

def take (c : Converter) (now : UInt64) :
    List Step → Ledger → Except Picture.Failure (List (Picture.Request × String)) × Ledger
  | [], ledger => (.ok [], ledger)
  | .drop parent child fault :: rest, ledger =>
    c.take now rest
      { ledger with journal := c.note (.childDropped parent child fault.message) ledger.journal }
  | .resolve request :: rest, ledger =>
    match c.answer now request ledger with
    | (.error failure, ledger) => (.error failure, ledger)
    | (.ok text, ledger) =>
      match c.take now rest ledger with
      | (.error failure, ledger) => (.error failure, ledger)
      | (.ok answers, ledger) => (.ok ((request, text) :: answers), ledger)

def pictureText (answers : List (Picture.Request × String)) : Source → String
  | .given address => address
  | .remote request => (answers.lookup request).getD request.url

def finish {α : Type} (c : Converter) (context : String) (result : α × Ledger) : α × Ledger :=
  (result.1, { result.2 with journal := c.close context result.2.journal })

/-- Converts a tree whose root is the body of a document, without closing the conversion. -/
def convertRoot (c : Converter) (now : UInt64) (root : Element) (ledger : Ledger) :
    Except Picture.Failure (Content String) × Ledger :=
  let draft := c.design.draftRoot root
  let taken := c.take now draft.2 ledger
  (taken.1.map fun answers => draft.1.mapPicture (pictureText answers), taken.2)

def convertMarkup (c : Converter) (now : UInt64) (root : Element) (ledger : Ledger) :
    Except Picture.Failure (Content String) × Ledger :=
  c.finish "convert_markup" (c.convertRoot now root ledger)

/-- Converts an HTML document; one without a body has no content. -/
def convertHtml (c : Converter) (now : UInt64) (html : String) (ledger : Ledger) :
    Except Picture.Failure (Content String) × Ledger :=
  c.finish "convert_html" <|
    match Html.bodyOf? html with
    | some body => c.convertRoot now body ledger
    | none => (.ok (.nodes []), ledger)

end Converter

end MarkupLayout.Convert
