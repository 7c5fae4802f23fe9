import MarkupLayout.Json.Basic
import MarkupLayout.Picture.Cache

/-!
# Cache entries as JSON

Entries are restored from objects, or from arrays that give the thumbnail, the time it was made and
the time to live in this order. The times may be missing or null.
-/

namespace MarkupLayout.Picture.Entry

/-- A time that may be missing; anything else than a whole number of 64 bits is refused. -/
def time? : Option Json → Option (Option UInt64)
  | none => some none
  | some .null => some none
  | some (.int n) => if 0 ≤ n ∧ n < 0x10000000000000000 then some (some (UInt64.ofNat n.toNat)) else none
  | some _ => none

def ofParts? (thumbnail created ttl : Option Json) : Option Entry := do
  let thumbnail ← (← thumbnail).str?
  let created ← time? created
  let ttl ← time? ttl
  some { thumbnail, created, ttl }

def ofJson? (json : Json) : Option Entry :=
  match json with
  | .obj _ =>
    json.members?.bind fun members =>
      ofParts? (members.get? "thumbnail") (members.get? "created") (members.get? "ttl")
  | .arr items => if items.length ≤ 3 then ofParts? items[0]? items[1]? items[2]? else none
  | _ => none

def toJson (entry : Entry) : Json :=
  let time (key : String) (value : Option UInt64) : List (String × Json) :=
    value.toList.map fun millis => (key, .int millis.toNat)
  .ofMap (.ofList (("thumbnail", .str entry.thumbnail) ::
    (time "created" entry.created ++ time "ttl" entry.ttl)))

end MarkupLayout.Picture.Entry
