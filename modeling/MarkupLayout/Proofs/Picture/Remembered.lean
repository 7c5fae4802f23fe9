import MarkupLayout.Proofs.Picture.KeyCollision

/-!
# Remembered failures

A tolerant call that fails leaves its placeholder in the cache. Every later call with the same key is
answered with it, also one that is not tolerant. Apart from that, a call that is not tolerant fails or
gives a thumbnail that was made for its key.
-/

namespace MarkupLayout.Picture

/-- One of the calls was answered with a placeholder and left it under the key. -/
def RemembersFailure (calls : List (Resolver × Call)) (key : String) : Prop :=
  ∃ step resolution, (step, resolution) ∈ run ∅ calls ∧
    resolution.outcome = some .placeholder ∧ step.2.key = key

/-- An answer to a call that comes after others is a picture: the call itself or an earlier one made
it for the key, and no earlier one left it there as its placeholder. -/
structure Genuine (earlier : List (Resolver × Call)) (r : Resolver) (call : Call) (uri : String) :
    Prop where
  made : ∃ step ∈ earlier ++ [(r, call)], step.2.key = call.key ∧ step.1.Shows step.2.request uri
  noPlaceholder : ∀ step resolution, (step, resolution) ∈ run ∅ earlier →
    resolution.outcome = some .placeholder → step.2.key = call.key → uri ≠ step.1.placeholder

section Answer

variable {r : Resolver} {call : Call} {cache : Cache} {key uri : String}

theorem outcome_eq_placeholder_iff : (r.answer call cache).outcome = some .placeholder ↔
    isValidUrl call.url ∧ cache.get? call.key = none ∧ call.tolerant = true ∧
      ∃ failure, r.fetchThumbnail call.request = .error failure := by
  by_cases hValid : isValidUrl call.url
  · have hUrl : isValidUrl call.request.url = true := hValid
    cases hEntry : cache.get? call.key with
    | some entry =>
      rw [answer_of_hit r hValid hEntry]
      constructor
      · intro h
        cases h
      · rintro ⟨-, hNone, -⟩
        cases hNone
    | none =>
      have hMiss : cache.get? (Cache.key call.request.url call.request.size) = none := hEntry
      rw [Resolver.answer, Resolver.resolve, hUrl]
      simp only [hMiss]
      cases r.fetchThumbnail call.request with
      | ok uri => simp
      | error failure => cases call.tolerant <;> simp [hValid]
  · have hUrl : isValidUrl call.request.url = false := Bool.eq_false_iff.mpr hValid
    rw [Resolver.answer, Resolver.resolve, hUrl]
    constructor
    · intro h
      cases h
    · exact fun h => absurd h.1 hValid

theorem answer_of_placeholder (h : (r.answer call cache).outcome = some .placeholder) :
    (r.answer call cache).answer = .ok r.placeholder := by
  obtain ⟨hValid, hMiss, hTolerant, failure, hFailure⟩ := outcome_eq_placeholder_iff.mp h
  rcases answer_of_miss r hValid hMiss with
    ⟨uri, hFetch, -⟩ | ⟨_, -, ⟨-, hAnswer, -⟩ | ⟨hIntolerant, -⟩⟩
  · cases hFailure.symm.trans hFetch
  · exact hAnswer
  · cases hTolerant.symm.trans hIntolerant

theorem shown_before_or_made (hShown : (r.answer call cache).cache.shown key = some uri) :
    cache.shown key = some uri ∨ call.key = key ∧
      (r.Shows call.request uri ∨ (r.answer call cache).outcome = some .placeholder) := by
  by_cases hValid : isValidUrl call.url
  · rw [shown_answer r hValid] at hShown
    split at hShown
    · next hKey =>
      rcases Option.or_eq_some_iff.mp hShown with hBefore | ⟨hAbsent, hStored⟩
      · exact .inl hBefore
      · refine .inr ⟨hKey.symm, ?_⟩
        rw [hKey, Cache.shown, Option.map_eq_none_iff] at hAbsent
        rw [Resolver.stored] at hStored
        cases hFetch : r.fetchThumbnail call.request with
        | ok other =>
          rw [hFetch] at hStored
          obtain rfl := Option.some.inj hStored
          exact .inl (Resolver.shows_iff.mpr hFetch)
        | error failure =>
          simp only [hFetch, Option.ite_none_right_eq_some] at hStored
          exact .inr (outcome_eq_placeholder_iff.mpr
            ⟨hValid, hAbsent, hStored.1, failure, hFetch⟩)
    · exact .inl hShown
  · rw [(answer_of_invalid r hValid).1] at hShown
    exact .inl hShown

end Answer

section Run

variable {calls earlier : List (Resolver × Call)} {r : Resolver} {call : Call} {key uri : String}

theorem run_append (cache : Cache) (before after : List (Resolver × Call)) :
    run cache (before ++ after) = run cache before ++ run (cacheAfter cache before) after := by
  induction before generalizing cache with
  | nil => rfl
  | cons step before ih => exact congrArg _ (ih _)

theorem shows_or_placeholder_of_shown {cache : Cache}
    (hShown : (cacheAfter cache calls).shown key = some uri) :
    cache.shown key = some uri ∨
      (∃ step ∈ calls, step.2.key = key ∧ step.1.Shows step.2.request uri) ∨
      ∃ step resolution, (step, resolution) ∈ run cache calls ∧
        resolution.outcome = some .placeholder ∧ step.2.key = key := by
  induction calls generalizing cache with
  | nil => exact .inl hShown
  | cons first calls ih =>
    obtain ⟨r, call⟩ := first
    rcases ih hShown with hFirst | ⟨step, hStep, hMade⟩ | ⟨step, resolution, hStep, hFailed⟩
    · rcases shown_before_or_made hFirst with hBefore | ⟨hKey, hShows | hOutcome⟩
      · exact .inl hBefore
      · exact .inr (.inl ⟨(r, call), List.mem_cons_self .., hKey, hShows⟩)
      · exact .inr (.inr ⟨(r, call), _, List.mem_cons_self .., hOutcome, hKey⟩)
    · exact .inr (.inl ⟨step, List.mem_cons_of_mem _ hStep, hMade⟩)
    · exact .inr (.inr ⟨step, resolution, List.mem_cons_of_mem _ hStep, hFailed⟩)

theorem RemembersFailure.exists_shown (h : RemembersFailure calls key) :
    ∃ step resolution, (step, resolution) ∈ run ∅ calls ∧ resolution.outcome = some .placeholder ∧
      step.2.key = key ∧ (cacheAfter ∅ calls).shown key = some step.1.placeholder := by
  obtain ⟨⟨r, call⟩, resolution, hMem, hOutcome, hKey⟩ := h
  refine ⟨(r, call), resolution, hMem, hOutcome, hKey, ?_⟩
  obtain ⟨before, after, -, rfl⟩ := mem_run_iff.mp hMem
  have hValid := (outcome_eq_placeholder_iff.mp hOutcome).1
  rw [← hKey]
  exact shown_cacheAfter_of_mem_run hMem hValid (answer_of_placeholder hOutcome)

theorem RemembersFailure.not_genuine (h : RemembersFailure earlier call.key)
    (hValid : isValidUrl call.url) : ∃ uri,
      (r.answer call (cacheAfter ∅ earlier)).answer = .ok uri ∧ ¬Genuine earlier r call uri := by
  obtain ⟨step, resolution, hMem, hOutcome, hKey, hShown⟩ := h.exists_shown
  refine ⟨step.1.placeholder, ?_, ?_⟩
  · refine (answer_eq_ok_iff r hValid).mpr ?_
    rw [shown_answer r hValid, if_pos rfl, hShown, Option.some_or]
  · intro hGenuine
    exact hGenuine.noPlaceholder step resolution hMem hOutcome hKey rfl

theorem genuine_of_not_remembersFailure (hTolerant : call.tolerant = false)
    (hValid : isValidUrl call.url) (hNone : ¬RemembersFailure earlier call.key)
    (hAnswer : (r.answer call (cacheAfter ∅ earlier)).answer = .ok uri) :
    Genuine earlier r call uri where
  made := by
    have hShown : (cacheAfter ∅ (earlier ++ [(r, call)])).shown call.key = some uri := by
      rw [cacheAfter_append]
      exact (answer_eq_ok_iff r hValid).mp hAnswer
    rcases shows_or_placeholder_of_shown hShown with
      hEmpty | hMade | ⟨step, resolution, hMem, hFailed⟩
    · cases hEmpty
    · exact hMade
    · rw [run_append, List.mem_append] at hMem
      rcases hMem with hMem | hMem
      · exact absurd ⟨step, resolution, hMem, hFailed⟩ hNone
      · -- the call itself leaves no placeholder
        obtain ⟨rfl, rfl⟩ := Prod.mk.inj (List.mem_singleton.mp hMem)
        have hOutcome := outcome_eq_placeholder_iff.mp hFailed.1
        cases hTolerant.symm.trans hOutcome.2.2.1
  noPlaceholder step resolution hMem hOutcome hKey :=
    absurd ⟨step, resolution, hMem, hOutcome, hKey⟩ hNone

/-- The calls of any resolvers on a shared cache that is empty at first: whatever those that are not
tolerant are given is a picture, unless one of them has the key of a remembered failure. -/
theorem intolerant_genuine_iff (calls : List (Resolver × Call)) :
    (∀ earlier r call, earlier ++ [(r, call)] <+: calls → call.tolerant = false → ∀ uri,
      (r.answer call (cacheAfter ∅ earlier)).answer = .ok uri → Genuine earlier r call uri) ↔
    ∀ earlier r call, earlier ++ [(r, call)] <+: calls → call.tolerant = false →
      isValidUrl call.url → ¬RemembersFailure earlier call.key := by
  constructor
  · intro hGenuine earlier r call hPrefix hTolerant hValid hRemembers
    obtain ⟨uri, hAnswer, hNot⟩ := hRemembers.not_genuine (r := r) hValid
    exact hNot (hGenuine earlier r call hPrefix hTolerant uri hAnswer)
  · intro hNone earlier r call hPrefix hTolerant uri hAnswer
    by_cases hValid : isValidUrl call.url
    · exact genuine_of_not_remembersFailure hTolerant hValid
        (hNone earlier r call hPrefix hTolerant hValid) hAnswer
    · have hUrl : isValidUrl call.request.url = false := Bool.eq_false_iff.mpr hValid
      rw [Resolver.answer, Resolver.resolve, hUrl, hTolerant] at hAnswer
      cases hAnswer

end Run

def offline : Resolver where
  thumbnailer _ _ := .error "no pixels"

def toleratedFirst : List (Resolver × Call) :=
  [(offline, { url := "https://example.com/cat.png", tolerant := true }),
    (offline, { url := "https://example.com/cat.png" })]

/-- The call that is not tolerant is given the placeholder. -/
theorem toleratedFirst_passes_placeholder : ∃ earlier r call uri,
    earlier ++ [(r, call)] <+: toleratedFirst ∧ call.tolerant = false ∧
      (r.answer call (cacheAfter ∅ earlier)).answer = .ok uri ∧ ¬Genuine earlier r call uri := by
  let first : Resolver × Call := (offline, { url := "https://example.com/cat.png", tolerant := true })
  let second : Call := { url := "https://example.com/cat.png" }
  have hRemembers : RemembersFailure [first] second.key :=
    ⟨first, _, List.mem_cons_self .., by decide +kernel, by decide +kernel⟩
  have hValid : isValidUrl second.url := by decide +kernel
  obtain ⟨uri, hAnswer, hNot⟩ := hRemembers.not_genuine (r := offline) hValid
  exact ⟨[first], offline, second, uri, List.prefix_rfl, rfl, hAnswer, hNot⟩

end MarkupLayout.Picture
