import MarkupLayout.Picture.Resolver

/-!
# Runs of calls

Calls of resolvers follow one another on a shared cache. What the cache shows at a key is fixed by
the first call that leaves something there: a later call with the key answers with it and keeps it.
-/

namespace MarkupLayout.Picture

structure Call where
  now : UInt64 := 0
  tolerant : Bool := false
  url : String
  width : Option Nat := none
  height : Option Nat := none

namespace Call

def request (call : Call) : Request :=
  .of call.url call.width call.height

def key (call : Call) : String :=
  Cache.key call.request.url call.request.size

end Call

def Cache.shown (cache : Cache) (key : String) : Option String :=
  (cache.get? key).map Entry.thumbnail

namespace Resolver

def answer (r : Resolver) (call : Call) (cache : Cache) : Resolution :=
  r.resolve call.now call.tolerant call.request cache

/-- What a call that misses puts into the cache. -/
def stored (r : Resolver) (call : Call) : Option String :=
  match r.fetchThumbnail call.request with
  | .ok uri => some uri
  | .error _ => if call.tolerant then some r.placeholder else none

end Resolver

def cacheAfter (cache : Cache) : List (Resolver × Call) → Cache
  | [] => cache
  | (r, call) :: calls => cacheAfter (r.answer call cache).cache calls

/-- The calls with what they give, each on the cache that the ones before it left. -/
def run (cache : Cache) : List (Resolver × Call) → List ((Resolver × Call) × Resolution)
  | [] => []
  | (r, call) :: calls =>
    ((r, call), r.answer call cache) :: run (r.answer call cache).cache calls

theorem Cache.shown_insert (cache : Cache) (key other : String) (entry : Entry) :
    Cache.shown (cache.insert key entry) other =
      if other = key then some entry.thumbnail else cache.shown other := by
  rw [shown, SortedMap.get?_insert]
  split <;> rfl

theorem Cache.shown_touch (cache : Cache) (key other : String) (now : UInt64) :
    (cache.touch key now).shown other = cache.shown other := by
  rw [shown, touch, SortedMap.get?_adjust, shown]
  split
  · rw [Option.map_map]
    rfl
  · rfl

theorem Resolver.shown_afterHit (r : Resolver) (now : UInt64) (key other : String) (cache : Cache) :
    (r.afterHit now key cache).shown other = cache.shown other := by
  rw [afterHit]
  cases r.expiry with
  | sliding => exact cache.shown_touch key other now
  | fixed => rfl

section Answer

variable (r : Resolver) {call : Call} {cache : Cache}

theorem answer_of_invalid (hValid : ¬isValidUrl call.url) :
    (r.answer call cache).cache = cache ∧
      ∀ uri, (r.answer call cache).answer = .ok uri → uri = r.placeholder := by
  have hUrl : isValidUrl call.request.url = false := Bool.eq_false_iff.mpr hValid
  rw [Resolver.answer, Resolver.resolve, hUrl]
  refine ⟨rfl, fun uri hAnswer => ?_⟩
  cases hTolerant : call.tolerant with
  | false => simp [hTolerant] at hAnswer
  | true =>
    rw [hTolerant] at hAnswer
    exact (Except.ok.inj hAnswer).symm

theorem answer_of_hit {entry : Entry} (hValid : isValidUrl call.url)
    (hHit : cache.get? call.key = some entry) :
    r.answer call cache =
      { answer := .ok entry.thumbnail
        cache := r.afterHit call.now call.key cache
        outcome := some .cacheHit } := by
  have hUrl : isValidUrl call.request.url = true := hValid
  have hEntry : cache.get? (Cache.key call.request.url call.request.size) = some entry := hHit
  rw [Resolver.answer, Resolver.resolve, hUrl]
  simp only [hEntry]
  rfl

theorem answer_of_miss (hValid : isValidUrl call.url) (hMiss : cache.get? call.key = none) :
    (∃ uri, r.fetchThumbnail call.request = .ok uri ∧ (r.answer call cache).answer = .ok uri ∧
      (r.answer call cache).cache = cache.insert call.key (.new uri call.now r.ttl)) ∨
    ∃ failure, r.fetchThumbnail call.request = .error failure ∧
      (call.tolerant = true ∧ (r.answer call cache).answer = .ok r.placeholder ∧
        (r.answer call cache).cache =
          cache.insert call.key (.new r.placeholder call.now r.placeholderTtl) ∨
      call.tolerant = false ∧ (r.answer call cache).answer = .error failure ∧
        (r.answer call cache).cache = cache) := by
  have hUrl : isValidUrl call.request.url = true := hValid
  have hEntry : cache.get? (Cache.key call.request.url call.request.size) = none := hMiss
  rw [Resolver.answer, Resolver.resolve, hUrl]
  simp only [hEntry]
  cases hFetch : r.fetchThumbnail call.request with
  | ok uri => exact .inl ⟨uri, rfl, rfl, rfl⟩
  | error failure =>
    refine .inr ⟨failure, rfl, ?_⟩
    cases hTolerant : call.tolerant with
    | false => exact .inr ⟨rfl, rfl, rfl⟩
    | true =>
      refine .inl ⟨rfl, rfl, ?_⟩
      have hAbsent : cache.contains (Cache.key call.request.url call.request.size) = false := by
        rw [SortedMap.contains, hEntry]
        rfl
      show Cache.insertIfAbsent _ _ _ = _
      rw [Cache.insertIfAbsent, hAbsent]
      rfl

/-- A call keeps what the cache shows, or puts something where it shows nothing. -/
theorem shown_answer (hValid : isValidUrl call.url) (key : String) :
    (r.answer call cache).cache.shown key =
      if key = call.key then (cache.shown key).or (r.stored call) else cache.shown key := by
  cases hEntry : cache.get? call.key with
  | some entry =>
    rw [answer_of_hit r hValid hEntry, Resolver.shown_afterHit]
    split
    · next hKey => rw [hKey, Cache.shown, hEntry, Option.map_some, Option.some_or]
    · rfl
  | none =>
    have hShown : cache.shown call.key = none := by rw [Cache.shown, hEntry, Option.map_none]
    rcases answer_of_miss r hValid hEntry with
      ⟨uri, hFetch, -, hCache⟩ | ⟨_, hFetch, ⟨hTolerant, -, hCache⟩ | ⟨hTolerant, -, hCache⟩⟩
    · rw [hCache, Cache.shown_insert, Resolver.stored, hFetch]
      split
      · next hKey => rw [hKey, hShown, Option.none_or]; rfl
      · rfl
    · rw [hCache, Cache.shown_insert, Resolver.stored, hFetch, hTolerant]
      split
      · next hKey => rw [hKey, hShown, Option.none_or]; rfl
      · rfl
    · rw [hCache, Resolver.stored, hFetch, hTolerant]
      split
      · next hKey => rw [hKey, hShown, Option.none_or]; rfl
      · rfl

/-- A call answers with what the cache shows afterwards. -/
theorem answer_eq_ok_iff (hValid : isValidUrl call.url) {uri : String} :
    (r.answer call cache).answer = .ok uri ↔
      (r.answer call cache).cache.shown call.key = some uri := by
  cases hEntry : cache.get? call.key with
  | some entry =>
    rw [answer_of_hit r hValid hEntry, Resolver.shown_afterHit, Cache.shown, hEntry,
      Option.map_some, Option.some.injEq, Except.ok.injEq]
  | none =>
    rcases answer_of_miss r hValid hEntry with
      ⟨_, -, hAnswer, hCache⟩ | ⟨_, -, ⟨-, hAnswer, hCache⟩ | ⟨-, hAnswer, hCache⟩⟩
    · rw [hAnswer, hCache, Cache.shown_insert, if_pos rfl, Option.some.injEq, Except.ok.injEq]
      rfl
    · rw [hAnswer, hCache, Cache.shown_insert, if_pos rfl, Option.some.injEq, Except.ok.injEq]
      rfl
    · rw [hAnswer, hCache, Cache.shown, hEntry]
      exact iff_of_false nofun nofun

end Answer

section Run

variable {cache : Cache} {calls : List (Resolver × Call)}

theorem cacheAfter_append (cache : Cache) (before after : List (Resolver × Call)) :
    cacheAfter cache (before ++ after) = cacheAfter (cacheAfter cache before) after := by
  induction before generalizing cache with
  | nil => rfl
  | cons step before ih => exact ih _

theorem mem_run_iff {r : Resolver} {call : Call} {resolution : Resolution} :
    ((r, call), resolution) ∈ run cache calls ↔ ∃ before after,
      calls = before ++ (r, call) :: after ∧ resolution = r.answer call (cacheAfter cache before) := by
  induction calls generalizing cache with
  | nil =>
    refine ⟨fun h => absurd h List.not_mem_nil, ?_⟩
    rintro ⟨before, after, hCalls, -⟩
    cases List.append_eq_nil_iff.mp hCalls.symm |>.2
  | cons first calls ih =>
    rw [run, List.mem_cons, ih]
    constructor
    · rintro (hFirst | ⟨before, after, rfl, rfl⟩)
      · cases hFirst
        exact ⟨[], calls, rfl, rfl⟩
      · exact ⟨first :: before, after, rfl, rfl⟩
    · rintro ⟨before, after, hCalls, rfl⟩
      cases before with
      | nil =>
        cases hCalls
        exact .inl rfl
      | cons _ before =>
        cases hCalls
        exact .inr ⟨before, after, rfl, rfl⟩

theorem shown_cacheAfter {key uri : String} (hShown : cache.shown key = some uri) :
    (cacheAfter cache calls).shown key = some uri := by
  induction calls generalizing cache with
  | nil => exact hShown
  | cons step calls ih =>
    obtain ⟨r, call⟩ := step
    refine ih ?_
    by_cases hValid : isValidUrl call.url
    · rw [shown_answer r hValid, hShown, Option.some_or, ite_self]
    · rwa [(answer_of_invalid r hValid).1]

theorem shown_cacheAfter_of_mem_run {r : Resolver} {call : Call} {resolution : Resolution}
    (hMem : ((r, call), resolution) ∈ run cache calls) (hValid : isValidUrl call.url) {uri : String}
    (hAnswer : resolution.answer = .ok uri) : (cacheAfter cache calls).shown call.key = some uri := by
  obtain ⟨before, after, rfl, rfl⟩ := mem_run_iff.mp hMem
  have hShown := (answer_eq_ok_iff r hValid).mp hAnswer
  rw [cacheAfter_append, cacheAfter]
  exact shown_cacheAfter hShown

theorem exists_stored_of_shown_cacheAfter {key uri : String}
    (hShown : (cacheAfter cache calls).shown key = some uri) :
    cache.shown key = some uri ∨ ∃ step ∈ calls, isValidUrl step.2.url ∧ step.2.key = key ∧
      step.1.stored step.2 = some uri := by
  induction calls generalizing cache with
  | nil => exact .inl hShown
  | cons step calls ih =>
    obtain ⟨r, call⟩ := step
    rcases ih hShown with hLeft | ⟨step, hMem, hStored⟩
    · by_cases hValid : isValidUrl call.url
      · rw [shown_answer r hValid] at hLeft
        split at hLeft
        · next hKey =>
          rcases Option.or_eq_some_iff.mp hLeft with hLeft | ⟨-, hStored⟩
          · exact .inl hLeft
          · exact .inr ⟨_, List.mem_cons_self .., hValid, hKey.symm, hStored⟩
        · exact .inl hLeft
      · rw [(answer_of_invalid r hValid).1] at hLeft
        exact .inl hLeft
    · exact .inr ⟨step, List.mem_cons_of_mem _ hMem, hStored⟩

end Run

end MarkupLayout.Picture
