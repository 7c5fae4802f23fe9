import MarkupLayout.Proofs.Picture.Settled

/-!
# Upkeep of the cache

A call writes under its own key only. There it adds an entry or renews the time of the one it finds, so
nothing is removed, and no thumbnail and no time to live is replaced. A call that fails writes nothing,
and a tolerant one does not fail. What a call for a valid address is answered with, the cache has under
its key afterwards.
-/

namespace MarkupLayout.Picture

/-- From the one cache to the other entries are added or renewed, and only under some keys: none is
removed, and those that were there keep their thumbnail and their time to live. -/
structure Cache.GrownAt (keys : String → Prop) (before after : Cache) : Prop where
  elsewhere : ∀ key, ¬keys key → after.get? key = before.get? key
  kept : ∀ key entry, before.get? key = some entry → ∃ renewed, after.get? key = some renewed ∧
    renewed.thumbnail = entry.thumbnail ∧ renewed.ttl = entry.ttl

theorem Cache.GrownAt.refl (keys : String → Prop) (cache : Cache) : GrownAt keys cache cache :=
  ⟨fun _ _ => rfl, fun _ entry hEntry => ⟨entry, hEntry, rfl, rfl⟩⟩

section Cache

variable {cache : Cache} {key : String}

theorem grownAt_insert (hAbsent : cache.get? key = none) (entry : Entry) :
    Cache.GrownAt (· = key) cache (cache.insert key entry) where
  elsewhere _ hOther := SortedMap.get?_insert_of_ne hOther cache entry
  kept other old hOld := by
    have hOther : other ≠ key := by
      rintro rfl
      cases hAbsent.symm.trans hOld
    exact ⟨old, (SortedMap.get?_insert_of_ne hOther cache entry).trans hOld, rfl, rfl⟩

theorem grownAt_touch (cache : Cache) (key : String) (now : UInt64) :
    Cache.GrownAt (· = key) cache (cache.touch key now) where
  elsewhere other hOther := by rw [Cache.touch, SortedMap.get?_adjust, if_neg hOther]
  kept other entry hEntry := by
    rw [Cache.touch, SortedMap.get?_adjust, hEntry]
    split
    · exact ⟨{ entry with created := some now }, rfl, rfl, rfl⟩
    · exact ⟨entry, rfl, rfl, rfl⟩

theorem grownAt_afterHit (r : Resolver) (now : UInt64) (key : String) (cache : Cache) :
    Cache.GrownAt (· = key) cache (r.afterHit now key cache) := by
  rw [Resolver.afterHit]
  cases r.expiry with
  | sliding => exact grownAt_touch cache key now
  | fixed => exact .refl _ cache

end Cache

section Answer

variable (r : Resolver) {call : Call} {cache : Cache}

theorem grownAt_answer (call : Call) (cache : Cache) :
    Cache.GrownAt (· = call.key) cache (r.answer call cache).cache := by
  by_cases hValid : isValidUrl call.url
  · cases hEntry : cache.get? call.key with
    | some entry =>
      rw [answer_of_hit r hValid hEntry]
      exact grownAt_afterHit r call.now call.key cache
    | none =>
      rcases answer_of_miss r hValid hEntry with
        ⟨uri, -, -, hCache⟩ | ⟨_, -, ⟨-, -, hCache⟩ | ⟨-, -, hCache⟩⟩
      · rw [hCache]
        exact grownAt_insert hEntry _
      · rw [hCache]
        exact grownAt_insert hEntry _
      · rw [hCache]
        exact .refl _ cache
  · rw [(answer_of_invalid r hValid).1]
    exact .refl _ cache

/-- Whatever a call meets, it leaves the cache in order. -/
theorem answer_leaves_order (call : Call) (cache : Cache) :
    (∀ failure, (r.answer call cache).answer = .error failure →
      (r.answer call cache).cache = cache) ∧
    (call.tolerant → ∃ uri, (r.answer call cache).answer = .ok uri) ∧
    Cache.GrownAt (· = call.key) cache (r.answer call cache).cache ∧
    (isValidUrl call.url → ∀ uri, (r.answer call cache).answer = .ok uri →
      ∃ entry, (r.answer call cache).cache.get? call.key = some entry ∧ entry.thumbnail = uri) := by
  refine ⟨fun failure hFailed => ?_, fun hTolerant => ?_, grownAt_answer r call cache, ?_⟩
  · exact cache_of_resolve_error hFailed
  · rw [Resolver.answer, hTolerant]
    exact exists_answer_of_tolerant r call.now call.request cache
  · intro hValid uri hAnswer
    exact Option.map_eq_some_iff.mp ((answer_eq_ok_iff r hValid).mp hAnswer)

end Answer

def unconnected : Resolver where
  thumbnailer _ _ := .error "no pixels"

/-- A cache with a picture whose time is not known, and an entry under a key that is no picture's. -/
def stocked : Cache :=
  .ofList [("http://ab.cd/e.png7201280", { thumbnail := "pixels", ttl := some 5 }),
    ("e", { thumbnail := "" })]

def askedForStock : Call where
  now := 9
  url := "http://ab.cd/e.png"

def askedForMore : Call where
  now := 9
  url := "http://ab.cd/f.png"

/-- The picture is answered and has a time now. Another one fails without a trace, or if the call is
tolerant, leaves the placeholder. -/
theorem stocked_leaves_order :
    (∃ entry, (unconnected.answer askedForStock stocked).cache.get? askedForStock.key = some entry ∧
      entry.thumbnail = "pixels") ∧
    (unconnected.answer askedForStock stocked).cache ≠ stocked ∧
    (unconnected.answer askedForMore stocked).cache = stocked ∧
    (∃ uri, (unconnected.answer { askedForMore with tolerant := true } stocked).answer = .ok uri) ∧
    ((unconnected.answer { askedForMore with tolerant := true } stocked).cache.get? "e").map
      Entry.thumbnail = some "" := by
  have hStock : isValidUrl askedForStock.url := by decide +kernel
  have hAnswer : (unconnected.answer askedForStock stocked).answer = .ok "pixels" :=
    (answer_eq_ok_iff unconnected hStock).mpr (by decide +kernel)
  obtain ⟨-, -, -, hPresent⟩ := answer_leaves_order unconnected askedForStock stocked
  obtain ⟨hFailed, -⟩ := answer_leaves_order unconnected askedForMore stocked
  obtain ⟨-, hTolerant, hGrown, -⟩ :=
    answer_leaves_order unconnected { askedForMore with tolerant := true } stocked
  refine ⟨hPresent hStock "pixels" hAnswer, by decide +kernel, hFailed
    (.download askedForMore.url "no image fetcher configured") ?_, hTolerant rfl, ?_⟩
  · have hMiss : stocked.get? askedForMore.key = none := by decide +kernel
    have hMore : isValidUrl askedForMore.url := by decide +kernel
    rcases answer_of_miss unconnected hMore hMiss with
      ⟨uri, hFetch, -⟩ | ⟨failure, hFetch, ⟨hIs, -⟩ | ⟨-, hAnswer, -⟩⟩
    · cases hFetch
    · cases hIs
    · exact hAnswer.trans hFetch.symm
  · rw [hGrown.elsewhere "e" (by decide +kernel)]
    decide +kernel

end MarkupLayout.Picture
