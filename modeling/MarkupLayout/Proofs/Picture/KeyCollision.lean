import MarkupLayout.Proofs.Picture.Calls

/-!
# Calls whose keys collide

Keys are written without a mark between address, width and height, so different requests can have
one key. Whatever pictures there are, the calls of one resolver get their own exactly when no two
different requests among them collide.
-/

namespace MarkupLayout.Picture

/-- Whether an answer is the thumbnail of the picture at the address, made for the size. -/
def Resolver.Shows (r : Resolver) (request : Request) (uri : String) : Prop :=
  ∃ fetch bytes encoded, r.fetcher = some fetch ∧ fetch request.url = .ok bytes ∧
    r.thumbnailer bytes request.size = .ok encoded ∧ uri = "data:image/jpeg;base64," ++ encoded

def Resolver.run (r : Resolver) (calls : List Call) : List ((Resolver × Call) × Resolution) :=
  Picture.run ∅ (calls.map fun call => (r, call))

theorem Resolver.shows_iff {r : Resolver} {request : Request} {uri : String} :
    r.Shows request uri ↔ r.fetchThumbnail request = .ok uri := by
  constructor
  · rintro ⟨fetch, bytes, encoded, hFetcher, hBytes, hEncoded, rfl⟩
    simp only [fetchThumbnail, hFetcher, hBytes, hEncoded]
    rfl
  · intro h
    rw [fetchThumbnail] at h
    split at h
    · cases h
    · next fetch hFetcher =>
      split at h
      · cases h
      · next bytes hBytes =>
        split at h
        · cases h
        · next encoded hEncoded =>
          exact ⟨fetch, bytes, encoded, hFetcher, hBytes, hEncoded, (Except.ok.inj h).symm⟩

theorem Resolver.shows_or_eq_placeholder {r : Resolver} {call : Call} {uri : String}
    (h : r.stored call = some uri) : r.Shows call.request uri ∨ uri = r.placeholder := by
  rw [stored] at h
  split at h
  · next hFetch =>
    obtain rfl := Option.some.inj h
    exact .inl (shows_iff.mpr hFetch)
  · split at h
    · exact .inr (Option.some.inj h).symm
    · cases h

theorem Resolver.stored_of_shows {r : Resolver} {call : Call} {uri : String}
    (h : r.Shows call.request uri) : r.stored call = some uri := by
  rw [stored, shows_iff.mp h]

section Collision

variable {r : Resolver} {calls : List Call}

theorem Resolver.exists_stored_of_mem_run {call : Call} {resolution : Resolution}
    (hMem : ((r, call), resolution) ∈ r.run calls) (hValid : isValidUrl call.url) {uri : String}
    (hAnswer : resolution.answer = .ok uri) : ∃ first ∈ calls, isValidUrl first.url ∧
      first.key = call.key ∧ r.stored first = some uri := by
  rcases exists_stored_of_shown_cacheAfter (shown_cacheAfter_of_mem_run hMem hValid hAnswer) with
    hEmpty | ⟨step, hStep, hUrl, hKey, hStored⟩
  · cases hEmpty
  · obtain ⟨first, hFirst, rfl⟩ := List.mem_map.mp hStep
    exact ⟨first, hFirst, hUrl, hKey, hStored⟩

theorem Resolver.shows_of_keys_apart
    (hApart : ∀ p ∈ calls, ∀ q ∈ calls, isValidUrl p.url → isValidUrl q.url →
      p.key = q.key → p.request = q.request)
    {call : Call} {resolution : Resolution} (hMem : ((r, call), resolution) ∈ r.run calls)
    {uri : String} (hAnswer : resolution.answer = .ok uri) (hNe : uri ≠ r.placeholder) :
    r.Shows call.request uri := by
  obtain ⟨before, after, hCalls, rfl⟩ := mem_run_iff.mp hMem
  have hCall : call ∈ calls := by
    have hStep : (r, call) ∈ calls.map fun call => (r, call) := by
      rw [hCalls]
      exact List.mem_append_right _ (List.mem_cons_self ..)
    obtain ⟨_, hCall, hEq⟩ := List.mem_map.mp hStep
    exact (Prod.mk.inj hEq).2 ▸ hCall
  by_cases hValid : isValidUrl call.url
  · obtain ⟨first, hFirst, hUrl, hKey, hStored⟩ := exists_stored_of_mem_run hMem hValid hAnswer
    rw [← hApart first hFirst call hCall hUrl hValid hKey]
    exact (shows_or_eq_placeholder hStored).resolve_right hNe
  · exact absurd ((answer_of_invalid r hValid).2 uri hAnswer) hNe

def marking (request : Request) : Resolver where
  fetcher := some fun url => .ok url.toByteArray
  thumbnailer bytes size :=
    .ok (if bytes.data = request.url.toByteArray.data ∧ size = request.size then "own" else "other")

theorem stored_marking (request : Request) (call : Call) : (marking request).stored call =
    some ("data:image/jpeg;base64," ++ if call.request = request then "own" else "other") := by
  have hRequest : (call.request.url.toByteArray.data = request.url.toByteArray.data ∧
      call.request.size = request.size) ↔ call.request = request := by
    rw [← ByteArray.ext_iff, String.toByteArray_inj]
    constructor
    · rintro ⟨hUrl, hSize⟩
      cases hRequest : call.request
      cases request
      simp_all
    · rintro rfl
      exact ⟨rfl, rfl⟩
  simp only [Resolver.stored, Resolver.fetchThumbnail, marking, hRequest]
  rfl

theorem exists_answer_marking (request : Request) {call : Call} (hCall : call ∈ calls)
    (hValid : isValidUrl call.url) : ∃ resolution uri,
      ((marking request, call), resolution) ∈ (marking request).run calls ∧
        resolution.answer = .ok uri ∧ uri ≠ (marking request).placeholder := by
  obtain ⟨before, after, rfl⟩ := List.append_of_mem hCall
  let cache := cacheAfter ∅ (before.map fun call => (marking request, call))
  have hMem : ((marking request, call), (marking request).answer call cache) ∈
      (marking request).run (before ++ call :: after) := by
    refine mem_run_iff.mpr ⟨_, after.map fun call => (marking request, call), ?_, rfl⟩
    rw [List.map_append, List.map_cons]
  obtain ⟨uri, hShown⟩ : ∃ uri,
      ((marking request).answer call cache).cache.shown call.key = some uri := by
    rw [shown_answer (marking request) hValid, if_pos rfl, stored_marking]
    exact Option.isSome_iff_exists.mp (Option.isSome_or ▸ Bool.or_true _)
  have hAnswer := (answer_eq_ok_iff (marking request) hValid).mpr hShown
  refine ⟨_, uri, hMem, hAnswer, ?_⟩
  obtain ⟨first, -, -, -, hStored⟩ := Resolver.exists_stored_of_mem_run hMem hValid hAnswer
  rw [stored_marking] at hStored
  obtain rfl := Option.some.inj hStored
  show _ ≠ transparentPixel
  split <;> decide

/-- Every answer that is no placeholder shows the picture asked for, whatever there is to fetch,
unless valid requests of the run collide. -/
theorem shows_own_iff_keys_apart (calls : List Call) :
    (∀ (r : Resolver) (call : Call) (resolution : Resolution),
      ((r, call), resolution) ∈ r.run calls → ∀ uri, resolution.answer = .ok uri →
        uri ≠ r.placeholder → r.Shows call.request uri) ↔
    ∀ p ∈ calls, ∀ q ∈ calls, isValidUrl p.url → isValidUrl q.url →
      p.key = q.key → p.request = q.request := by
  constructor
  · intro hOwn p hp q hq hpValid hqValid hKey
    obtain ⟨_, uri, hpMem, hpAnswer, hpNe⟩ := exists_answer_marking p.request hp hpValid
    obtain ⟨_, other, hqMem, hqAnswer, hqNe⟩ := exists_answer_marking p.request hq hqValid
    have hSame : uri = other := by
      have hpShown := shown_cacheAfter_of_mem_run hpMem hpValid hpAnswer
      have hqShown := shown_cacheAfter_of_mem_run hqMem hqValid hqAnswer
      rw [hKey, hqShown] at hpShown
      exact (Option.some.inj hpShown).symm
    have hpStored := Resolver.stored_of_shows (hOwn _ p _ hpMem uri hpAnswer hpNe)
    have hqStored := Resolver.stored_of_shows (hOwn _ q _ hqMem other hqAnswer hqNe)
    rw [stored_marking, if_pos rfl] at hpStored
    rw [stored_marking, ← hSame, ← hpStored] at hqStored
    apply Decidable.byContradiction
    intro hNe
    rw [if_neg (Ne.symm hNe)] at hqStored
    revert hqStored
    decide
  · intro hApart r call resolution hMem uri hAnswer hNe
    exact Resolver.shows_of_keys_apart hApart hMem hAnswer hNe

end Collision

def crossedSizes : List Call :=
  [{ url := "https://example.com/cat.png", width := some 1, height := some 11 },
    { url := "https://example.com/cat.png", width := some 11, height := some 1 }]

def telling : Resolver where
  fetcher := some fun url => .ok url.toByteArray
  thumbnailer _ size := .ok (toString size.width ++ "x" ++ toString size.height)

/-- The second of the calls is answered with the thumbnail made for the first. -/
theorem crossedSizes_collide : ∃ call resolution uri,
    ((telling, call), resolution) ∈ telling.run crossedSizes ∧ resolution.answer = .ok uri ∧
      uri ≠ telling.placeholder ∧ ¬telling.Shows call.request uri := by
  refine ⟨_, _, "data:image/jpeg;base64,1x11", .tail _ (.head _), ?_, by decide, ?_⟩
  · refine (answer_eq_ok_iff telling (by decide)).mpr ?_
    decide +kernel
  · rintro ⟨fetch, bytes, encoded, -, -, hEncoded, hUri⟩
    rw [← Except.ok.inj hEncoded] at hUri
    revert hUri
    decide

end MarkupLayout.Picture
