import MarkupLayout.Json.Basic
import MarkupLayout.Picture.Resolver

/-!
# The journal of a converter

A converter may keep a journal of resolved pictures and dropped children. Every such record is
also counted, and each conversion closes with a summary that takes the counts and starts anew.
-/

namespace MarkupLayout

namespace Journal

inductive Record where
  | resolved (url : String) (outcome : Picture.Outcome)
  | childDropped (parent child error : String)
  | summary (context : String) (counts : SortedMap Nat)
deriving DecidableEq

def Record.counter? : Record → Option String
  | .resolved _ outcome => some ("image." ++ outcome.name)
  | .childDropped .. => some "convert.child_dropped"
  | .summary .. => none

def Record.toJson : Record → Json
  | .resolved url outcome => .ofMap (.ofList [
      ("type", .str "image.resolve"), ("url", .str url), ("outcome", .str outcome.name)])
  | .childDropped parent child error => .ofMap (.ofList [
      ("type", .str "convert.child_dropped"), ("parent", .str parent), ("child", .str child),
      ("error", .str error)])
  | .summary context counts => .ofMap (.ofList [
      ("type", .str "debug.summary"), ("context", .str context),
      ("counts", .obj (counts.entries.map fun entry => (entry.1, .int entry.2)))])

end Journal

structure Journal where
  records : List Journal.Record := []
  counters : SortedMap Nat := ∅

namespace Journal

def write (journal : Journal) (record : Record) : Journal :=
  { journal with records := journal.records ++ [record] }

def count (journal : Journal) (counter : String) : Journal :=
  let earlier := (journal.counters.get? counter).getD 0
  { journal with counters := journal.counters.insert counter (earlier + 1) }

def note (journal : Journal) (record : Record) : Journal :=
  match record.counter? with
  | some counter => (journal.count counter).write record
  | none => journal.write record

def summarize (journal : Journal) (context : String) : Journal :=
  { journal.write (.summary context journal.counters) with counters := ∅ }

end Journal

end MarkupLayout
