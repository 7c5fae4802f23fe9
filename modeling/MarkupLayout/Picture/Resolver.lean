import MarkupLayout.Picture.Cache
import MarkupLayout.Picture.Url

/-!
# Resolving pictures

A request names a picture and the box it has to fit. A resolver answers it from the cache, or else
fetches the picture and makes a thumbnail. A tolerant request is answered with a placeholder where
that fails, and the failure is remembered for a while. One call is described by its answer, the
cache after it, the addresses it fetched and the outcome that a journal records.
-/

namespace MarkupLayout.Picture

structure Request where
  url : String
  size : Size
deriving DecidableEq, Repr

def defaultSize : Size :=
  ⟨720, 1280⟩

def Request.of (url : String) (width height : Option Nat) : Request :=
  ⟨url, width.getD defaultSize.width, height.getD defaultSize.height⟩

inductive Failure where
  | invalidUrl (url : String)
  | download (url cause : String)
  | convert (url cause : String)
deriving DecidableEq, Repr

namespace Failure

def url : Failure → String
  | invalidUrl url => url
  | download url _ => url
  | convert url _ => url

def message : Failure → String
  | invalidUrl url => "there is no valid url: " ++ url
  | download url _ => "can not download image " ++ url
  | convert url _ => "can not convert image " ++ url

def code : Failure → Nat
  | invalidUrl _ => 403
  | _ => 405

def cause? : Failure → Option String
  | invalidUrl _ => none
  | download _ cause => some cause
  | convert _ cause => some cause

end Failure

inductive Outcome where
  | invalidUrl
  | cacheHit
  | cacheMiss
  | placeholder
deriving DecidableEq, Repr

def Outcome.name : Outcome → String
  | invalidUrl => "invalid_url"
  | cacheHit => "cache_hit"
  | cacheMiss => "cache_miss"
  | placeholder => "placeholder"

/-- Whether a hit renews the time of its entry. -/
inductive Expiry where
  | sliding
  | fixed
deriving DecidableEq, Repr

/-- Gives the bytes at an address, or a cause why it can not. -/
abbrev Fetcher := String → Except String ByteArray

/-- Gives the encoded thumbnail of a picture, or a cause why it can not. -/
abbrev Thumbnailer := ByteArray → Size → Except String String

/-- Something that may change from one fetch to the next: what it is after some addresses have been
fetched. -/
abbrev Stateful (α : Type) := List String → α

def transparentPixel : String :=
  "data:image/png;base64,iVBORw0KGgoAAAANSUhEUgAAAAEAAAABCAYAAAAfFcSJAAAAC0lEQVR42mNgAAIAAAUAAen63NgAAAAASUVORK5CYII="

/-- A quarter of an hour. -/
def defaultTtl : UInt64 := 900000

/-- Five minutes. -/
def defaultPlaceholderTtl : UInt64 := 300000

/-- What is settled for all requests, however they are fetched. -/
structure Policy where
  ttl : UInt64 := defaultTtl
  placeholderTtl : UInt64 := defaultPlaceholderTtl
  placeholder : String := transparentPixel
  expiry : Expiry := .sliding

structure Resolver extends Policy where
  fetcher : Option Fetcher := none
  thumbnailer : Thumbnailer

structure Resolution where
  answer : Except Failure String
  cache : Cache
  fetched : List String := []
  outcome : Option Outcome := none

namespace Resolver

def thumbnailUri (encoded : String) : String :=
  "data:image/jpeg;base64," ++ encoded

def fetchThumbnail (r : Resolver) (request : Request) : Except Failure String :=
  match r.fetcher with
  | none => .error (.download request.url "no image fetcher configured")
  | some fetch =>
    match fetch request.url with
    | .error cause => .error (.download request.url cause)
    | .ok bytes =>
      match r.thumbnailer bytes request.size with
      | .error cause => .error (.convert request.url cause)
      | .ok encoded => .ok (thumbnailUri encoded)

/-- The addresses that a miss asks the fetcher for. -/
def fetches (r : Resolver) (request : Request) : List String :=
  if r.fetcher.isSome then [request.url] else []

def afterHit (r : Resolver) (now : UInt64) (key : String) (cache : Cache) : Cache :=
  match r.expiry with
  | .sliding => cache.touch key now
  | .fixed => cache

def resolve (r : Resolver) (now : UInt64) (tolerant : Bool) (request : Request) (cache : Cache) :
    Resolution :=
  if !isValidUrl request.url then
    { answer := if tolerant then .ok r.placeholder else .error (.invalidUrl request.url)
      cache
      outcome := some .invalidUrl }
  else
    let key := Cache.key request.url request.size
    match cache.get? key with
    | some entry =>
      { answer := .ok entry.thumbnail
        cache := r.afterHit now key cache
        outcome := some .cacheHit }
    | none =>
      match r.fetchThumbnail request with
      | .ok thumbnail =>
        { answer := .ok thumbnail
          cache := cache.insert key (.new thumbnail now r.ttl)
          fetched := r.fetches request
          outcome := some .cacheMiss }
      | .error failure =>
        if tolerant then
          { answer := .ok r.placeholder
            cache := cache.insertIfAbsent key (.new r.placeholder now r.placeholderTtl)
            fetched := r.fetches request
            outcome := some .placeholder }
        else
          { answer := .error failure
            cache
            fetched := r.fetches request }

end Resolver

end MarkupLayout.Picture
