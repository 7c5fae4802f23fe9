import MarkupLayout.Proofs.Picture.Calls

/-!
# Settled requests

A request is settled once the cache shows something for it, or if its address is invalid and a
placeholder stands for it. An answer settles its request for good: whatever calls come in between,
the next one gives the same answer without fetching. A failed request leaves the cache alone and
fails again.
-/

namespace MarkupLayout.Picture

def Request.key (request : Request) : String :=
  Cache.key request.url request.size

/-- The call of a request whose size is known. -/
def Call.of (now : UInt64) (tolerant : Bool) (request : Request) : Call :=
  { now, tolerant, url := request.url, width := some request.size.width,
    height := some request.size.height }

/-- Whether a request is answered with a text and nothing is fetched for it. -/
def Policy.Settled (p : Policy) (tolerant : Bool) (request : Request) (cache : Cache)
    (text : String) : Prop :=
  if isValidUrl request.url then cache.shown request.key = some text
  else tolerant = true ∧ text = p.placeholder

def Cache.Extends (larger smaller : Cache) : Prop :=
  ∀ key text, smaller.shown key = some text → larger.shown key = some text

theorem Cache.Extends.refl (cache : Cache) : Cache.Extends cache cache :=
  fun _ _ h => h

theorem Cache.Extends.trans {a b c : Cache} (h : Cache.Extends a b) (h' : Cache.Extends b c) :
    Cache.Extends a c :=
  fun key text hShown => h key text (h' key text hShown)

variable (r : Resolver) {now later : UInt64} {tolerant : Bool} {request : Request}
  {cache other : Cache} {text : String}

theorem Resolver.answer_of :
    r.answer (.of now tolerant request) cache = r.resolve now tolerant request cache :=
  rfl

theorem resolve_of_hit {entry : Entry} (hValid : isValidUrl request.url)
    (hEntry : cache.get? request.key = some entry) :
    r.resolve now tolerant request cache =
      { answer := .ok entry.thumbnail
        cache := r.afterHit now request.key cache
        outcome := some .cacheHit } := by
  have hCall : isValidUrl (Call.of now tolerant request).url := hValid
  rw [← r.answer_of, answer_of_hit r hCall hEntry]
  rfl

theorem extends_resolve (now : UInt64) (tolerant : Bool) (request : Request) (cache : Cache) :
    Cache.Extends (r.resolve now tolerant request cache).cache cache := by
  intro key text hShown
  show (cacheAfter cache [(r, .of now tolerant request)]).shown key = some text
  exact shown_cacheAfter hShown

theorem exists_answer_of_tolerant (now : UInt64) (request : Request) (cache : Cache) :
    ∃ text, (r.resolve now true request cache).answer = .ok text := by
  rw [Resolver.resolve]
  split
  · exact ⟨_, rfl⟩
  · dsimp only
    split
    · exact ⟨_, rfl⟩
    · split
      · exact ⟨_, rfl⟩
      · exact ⟨_, rfl⟩

theorem settled_of_resolve (h : (r.resolve now tolerant request cache).answer = .ok text) :
    r.Settled tolerant request (r.resolve now tolerant request cache).cache text := by
  rw [Policy.Settled]
  split
  · next hValid =>
    have hCall : isValidUrl (Call.of now tolerant request).url := hValid
    exact (answer_eq_ok_iff r hCall).mp h
  · next hInvalid =>
    have hCall : ¬isValidUrl (Call.of now tolerant request).url := hInvalid
    refine ⟨?_, (answer_of_invalid r hCall).2 text h⟩
    rw [Resolver.resolve, Bool.eq_false_iff.mpr hInvalid] at h
    cases tolerant with
    | true => rfl
    | false => cases h

variable {r}

theorem Policy.Settled.mono {p : Policy} (h : p.Settled tolerant request cache text)
    (hExtends : Cache.Extends other cache) : p.Settled tolerant request other text := by
  rw [Settled] at h ⊢
  split
  · next hValid =>
    rw [if_pos hValid] at h
    exact hExtends _ _ h
  · next hInvalid => rwa [if_neg hInvalid] at h

theorem Policy.Settled.unique {p : Policy} {another : String}
    (h : p.Settled tolerant request cache text) (h' : p.Settled tolerant request cache another) :
    text = another := by
  rw [Settled] at h h'
  split at h
  · next hValid =>
    rw [if_pos hValid, h] at h'
    exact Option.some.inj h'
  · next hInvalid =>
    rw [if_neg hInvalid] at h'
    exact h.2.trans h'.2.symm

/-- A settled request is answered with its text, fetches nothing, and changes nothing that the
cache shows. -/
theorem Policy.Settled.resolve (h : r.Settled tolerant request cache text) (now : UInt64) :
    (r.resolve now tolerant request cache).answer = .ok text ∧
      (r.resolve now tolerant request cache).fetched = [] ∧
      (r.resolve now tolerant request cache).cache.shown = cache.shown := by
  rw [Settled] at h
  split at h
  · next hValid =>
    obtain ⟨entry, hEntry, rfl⟩ := Option.map_eq_some_iff.mp h
    rw [resolve_of_hit r hValid hEntry]
    exact ⟨rfl, rfl, funext fun key => r.shown_afterHit now request.key key cache⟩
  · next hInvalid =>
    obtain ⟨rfl, rfl⟩ := h
    rw [Resolver.resolve, Bool.eq_false_iff.mpr hInvalid]
    exact ⟨rfl, rfl, rfl⟩

theorem answer_resolve_congr (h : other.shown request.key = cache.shown request.key) :
    (r.resolve later tolerant request other).answer =
      (r.resolve now tolerant request cache).answer := by
  by_cases hValid : isValidUrl request.url
  · cases hEntry : cache.get? request.key with
    | some entry =>
      rw [Cache.shown, Cache.shown, hEntry, Option.map_some] at h
      obtain ⟨kept, hKept, hShown⟩ := Option.map_eq_some_iff.mp h
      rw [resolve_of_hit r hValid hEntry, resolve_of_hit r hValid hKept, hShown]
    | none =>
      rw [Cache.shown, Cache.shown, hEntry, Option.map_none, Option.map_eq_none_iff] at h
      rw [Request.key] at h hEntry
      rw [Resolver.resolve, Resolver.resolve, hValid]
      simp only [h, hEntry]
      cases r.fetchThumbnail request with
      | ok text => rfl
      | error failure => cases tolerant <;> rfl
  · rw [Resolver.resolve, Resolver.resolve, Bool.eq_false_iff.mpr hValid]
    rfl

theorem cache_of_resolve_error {failure : Failure}
    (h : (r.resolve now tolerant request cache).answer = .error failure) :
    (r.resolve now tolerant request cache).cache = cache := by
  by_cases hValid : isValidUrl request.url
  · have hCall : isValidUrl (Call.of now tolerant request).url := hValid
    cases hEntry : cache.get? request.key with
    | some entry =>
      rw [resolve_of_hit r hValid hEntry] at h
      cases h
    | none =>
      rw [← r.answer_of] at h ⊢
      rcases answer_of_miss r hCall hEntry with
        ⟨uri, -, hOk, -⟩ | ⟨cause, -, ⟨-, hOk, -⟩ | ⟨-, -, hCache⟩⟩
      · cases hOk.symm.trans h
      · cases hOk.symm.trans h
      · exact hCache
  · rw [Resolver.resolve, Bool.eq_false_iff.mpr hValid]
    rfl

end MarkupLayout.Picture
