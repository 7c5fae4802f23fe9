import MarkupLayout.Proofs.Picture.Calls

/-!
# Fetching once

A call fetches only if its address is valid and the cache has nothing for it, and then no other address
than its own. An answer stays in the cache, so once a call was answered the calls with its key are
spared their fetchers, whoever makes them.
-/

namespace MarkupLayout.Picture

/-- A call fetches nothing, and would come to the same with every other fetcher. -/
structure Resolver.Spared (r : Resolver) (call : Call) (cache : Cache) : Prop where
  fetched : (r.answer call cache).fetched = []
  other : ∀ fetcher, ({ r with fetcher } : Resolver).answer call cache = r.answer call cache

section Answer

variable (r : Resolver) {call : Call} {cache : Cache}

theorem spared_of_invalid (hValid : ¬isValidUrl call.url) : r.Spared call cache := by
  have hUrl : isValidUrl call.request.url = false := Bool.eq_false_iff.mpr hValid
  constructor
  · rw [Resolver.answer, Resolver.resolve, hUrl]
    rfl
  · intro fetcher
    rw [Resolver.answer, Resolver.answer, Resolver.resolve, Resolver.resolve, hUrl]
    rfl

theorem spared_of_hit {entry : Entry} (hValid : isValidUrl call.url)
    (hHit : cache.get? call.key = some entry) : r.Spared call cache := by
  constructor
  · rw [answer_of_hit r hValid hHit]
  · intro fetcher
    rw [answer_of_hit r hValid hHit, answer_of_hit { r with fetcher } hValid hHit]
    rfl

theorem fetched_of_miss (hValid : isValidUrl call.url) (hMiss : cache.get? call.key = none) :
    (r.answer call cache).fetched = r.fetches call.request := by
  have hUrl : isValidUrl call.request.url = true := hValid
  have hEntry : cache.get? (Cache.key call.request.url call.request.size) = none := hMiss
  rw [Resolver.answer, Resolver.resolve, hUrl]
  simp only [hEntry]
  cases r.fetchThumbnail call.request with
  | ok uri => rfl
  | error failure => cases call.tolerant <;> rfl

theorem spared_of_shown {uri : String} (hShown : cache.shown call.key = some uri) :
    r.Spared call cache := by
  obtain ⟨entry, hHit, -⟩ := Option.map_eq_some_iff.mp hShown
  by_cases hValid : isValidUrl call.url
  · exact spared_of_hit r hValid hHit
  · exact spared_of_invalid r hValid

theorem fetched_sublist : (r.answer call cache).fetched.Sublist [call.url] := by
  by_cases hValid : isValidUrl call.url
  · cases hEntry : cache.get? call.key with
    | some entry =>
      rw [(spared_of_hit r hValid hEntry).fetched]
      exact List.nil_sublist _
    | none =>
      rw [fetched_of_miss r hValid hEntry, Resolver.fetches]
      split
      · exact List.Sublist.refl _
      · exact List.nil_sublist _
  · rw [(spared_of_invalid r hValid).fetched]
    exact List.nil_sublist _

end Answer

/-- An answer to a valid address spares all later calls with the key, whatever calls come between. -/
theorem spared_after_answer (r later : Resolver) {call next : Call} {cache : Cache}
    (hValid : isValidUrl call.url) {uri : String} (hAnswer : (r.answer call cache).answer = .ok uri)
    (between : List (Resolver × Call)) (hKey : next.key = call.key) :
    later.Spared next (cacheAfter cache ((r, call) :: between)) := by
  have hShown : (cacheAfter (r.answer call cache).cache between).shown next.key = some uri := by
    rw [hKey]
    exact shown_cacheAfter ((answer_eq_ok_iff r hValid).mp hAnswer)
  exact spared_of_shown later hShown

/-- Calls of any resolvers follow one another on a shared cache that nothing else changes. Each asks
its fetcher at most once, for its own address, and not at all if that is invalid. Once a call for a
valid address was answered, no later call with its key is in need of a fetcher. -/
theorem fetches_once (cache : Cache) (earlier : List (Resolver × Call)) (r : Resolver) (call : Call) :
    (r.answer call (cacheAfter cache earlier)).fetched.Sublist [call.url] ∧
      (¬isValidUrl call.url → r.Spared call (cacheAfter cache earlier)) ∧
      (isValidUrl call.url → ∀ uri, (r.answer call (cacheAfter cache earlier)).answer = .ok uri →
        ∀ (between : List (Resolver × Call)) (later : Resolver) (next : Call), next.key = call.key →
          later.Spared next (cacheAfter cache (earlier ++ (r, call) :: between))) := by
  refine ⟨fetched_sublist r, spared_of_invalid r, ?_⟩
  intro hValid uri hAnswer between later next hKey
  rw [cacheAfter_append]
  exact spared_after_answer r later hValid hAnswer between hKey

def findsAll : Resolver where
  fetcher := some fun url => .ok url.toByteArray
  thumbnailer _ _ := .ok "thumbnail"
  expiry := .fixed

def findsNothing : Resolver where
  thumbnailer _ _ := .error "no pixels"

def askedTwice : Call where
  url := "http://ab.cd/e.png"
  tolerant := true

def askedBetween : List (Resolver × Call) :=
  [(findsAll, { askedTwice with width := some 7 }), (findsAll, { url := "e" })]

/-- A tolerant call that finds nothing is given a placeholder. A later one for the same picture is not
tolerant and could fetch it, as it would from an empty cache, but is spared its fetcher. -/
theorem askedTwice_fetches_once : isValidUrl askedTwice.url ∧
    (findsNothing.answer askedTwice ∅).answer = .ok findsNothing.placeholder ∧
    (run ∅ ((findsNothing, askedTwice) :: askedBetween)).map (·.2.fetched) =
      [[], ["http://ab.cd/e.png"], []] ∧
    (findsAll.answer { askedTwice with tolerant := false } ∅).fetched = ["http://ab.cd/e.png"] ∧
    findsAll.Spared { askedTwice with tolerant := false }
      (cacheAfter ∅ ([] ++ (findsNothing, askedTwice) :: askedBetween)) := by
  have hValid : isValidUrl askedTwice.url := by decide +kernel
  have hAnswer : (findsNothing.answer askedTwice ∅).answer = .ok findsNothing.placeholder :=
    (answer_eq_ok_iff findsNothing hValid).mpr (by decide +kernel)
  obtain ⟨-, -, hLater⟩ := fetches_once ∅ [] findsNothing askedTwice
  refine ⟨hValid, hAnswer, by decide +kernel, by decide +kernel, ?_⟩
  exact hLater hValid _ hAnswer askedBetween findsAll _ rfl

end MarkupLayout.Picture
