import MarkupLayout.SortedMap

/-!
# The picture cache

Thumbnails are kept under a key of their address and size, each with the time it was made and a
time to live. Every operation here is one step that nothing can interrupt; times are milliseconds
in 64 bits, and sums and differences stop at the limits.
-/

namespace MarkupLayout.Picture

structure Size where
  width : Nat
  height : Nat
deriving DecidableEq, Repr

def lastMillis : UInt64 := 0xFFFFFFFFFFFFFFFF

def addMillis (a b : UInt64) : UInt64 :=
  if a.toNat + b.toNat ≤ lastMillis.toNat then a + b else lastMillis

def subMillis (a b : UInt64) : UInt64 :=
  if b ≤ a then a - b else 0

def millisOfSeconds (seconds : UInt64) : UInt64 :=
  UInt64.ofNat (min (seconds.toNat * 1000) lastMillis.toNat)

structure Entry where
  thumbnail : String
  created : Option UInt64 := none
  ttl : Option UInt64 := none
deriving DecidableEq, Repr, Inhabited

namespace Entry

def new (thumbnail : String) (created ttl : UInt64) : Entry :=
  ⟨thumbnail, some created, some ttl⟩

/-- An entry without both times counts as expired. -/
def isExpired (entry : Entry) (now : UInt64) : Bool :=
  match entry.created, entry.ttl with
  | some created, some ttl => addMillis created ttl < now
  | _, _ => true

def isYoung (entry : Entry) (now age : UInt64) : Bool :=
  entry.created.any fun created => subMillis now created ≤ age

end Entry

abbrev Cache := SortedMap Entry

namespace Cache

def key (url : String) (size : Size) : String :=
  url ++ toString size.width ++ toString size.height

def insertIfAbsent (cache : Cache) (key : String) (entry : Entry) : Cache :=
  if cache.contains key then cache else cache.insert key entry

def touch (cache : Cache) (key : String) (now : UInt64) : Cache :=
  cache.adjust key fun entry => { entry with created := some now }

def evictExpired (cache : Cache) (now : UInt64) : Cache :=
  cache.filter fun _ entry => !entry.isExpired now

def evictOlderThan (cache : Cache) (now age : UInt64) : Cache :=
  cache.filter fun _ entry => entry.isYoung now age

def removed (before after : Cache) : Nat :=
  before.size - after.size

end Cache

end MarkupLayout.Picture
