import MarkupLayout.Proofs.Picture.History
import MarkupLayout.Proofs.Picture.KeyCollision

/-!
# Calls in progress

To resolve a picture a call looks into the cache, fetches what it does not find, and writes back what
came of it; each of these is a step of its own. Any number of calls take their steps on one cache in
any order, and removals come between them. A call that nothing comes between does what it does as a
whole. In every order a picture that was stored stays until it is removed, and a placeholder stands
only where no picture was stored.
-/

namespace MarkupLayout.Picture

/-- How far a call has come: what it has found or fetched it has still to make use of. -/
inductive Stage where
  | asked
  | found (thumbnail : String)
  | missed
  | fetched (result : Except Failure String)
  | answered (answer : Except Failure String)

structure Progress where
  resolver : Resolver
  call : Call
  stage : Stage := .asked

namespace Progress

/-- The answer to a call for which there is no picture. -/
def fail (p : Progress) (failure : Failure) : Except Failure String :=
  if p.call.tolerant then .ok p.resolver.placeholder else .error failure

/-- The stage that a call comes to in a step. It is shown the cache. -/
def next (p : Progress) (cache : Cache) : Stage :=
  match p.stage with
  | .asked =>
    if isValidUrl p.call.url then
      match cache.get? p.call.key with
      | some entry => .found entry.thumbnail
      | none => .missed
    else .answered (p.fail (.invalidUrl p.call.url))
  | .found thumbnail => .answered (.ok thumbnail)
  | .missed => .fetched (p.resolver.fetchThumbnail p.call.request)
  | .fetched (.ok uri) => .answered (.ok uri)
  | .fetched (.error failure) => .answered (p.fail failure)
  | .answered answer => .answered answer

/-- What a call writes to the cache in a step at a time. -/
def action? (p : Progress) (now : UInt64) : Option Action :=
  match p.stage with
  | .found _ =>
    match p.resolver.expiry with
    | .sliding => some (.touch p.call.key now)
    | .fixed => none
  | .fetched (.ok uri) => some (.store p.call.key (.new uri now p.resolver.ttl))
  | .fetched (.error _) =>
    if p.call.tolerant then
      some (.fallback p.call.key (.new p.resolver.placeholder now p.resolver.placeholderTtl))
    else none
  | _ => none

def advance (p : Progress) (now : UInt64) (cache : Cache) : Progress × Cache :=
  ({ p with stage := p.next cache }, (p.action? now).toList.foldr Action.on cache)

/-- A call that takes its steps at one time and with nothing between them. -/
def alone (p : Progress) (now : UInt64) : Nat → Cache → Progress × Cache
  | 0, cache => (p, cache)
  | steps + 1, cache => (p.advance now cache).1.alone now steps (p.advance now cache).2

/-- The steps of a call make up the call: after three of them it is answered. -/
theorem alone_eq_answer (r : Resolver) (call : Call) (cache : Cache) :
    alone { resolver := r, call } call.now 3 cache =
      ({ resolver := r, call, stage := .answered (r.answer call cache).answer },
        (r.answer call cache).cache) := by
  by_cases hValid : isValidUrl call.url
  · have hUrl : isValidUrl call.request.url = true := hValid
    cases hEntry : cache.get? call.key with
    | some entry =>
      rw [answer_of_hit r hValid hEntry, Resolver.afterHit]
      simp only [alone, advance, next, action?, hValid, if_true, hEntry]
      cases r.expiry <;> rfl
    | none =>
      have hMiss : cache.get? (Cache.key call.request.url call.request.size) = none := hEntry
      rw [Resolver.answer, Resolver.resolve, hUrl]
      simp only [alone, advance, next, action?, hValid, if_true, hEntry, hMiss]
      cases r.fetchThumbnail call.request with
      | ok uri => rfl
      | error failure =>
        cases hTolerant : call.tolerant with
        | false =>
          simp only [fail, hTolerant]
          rfl
        | true =>
          simp only [fail, hTolerant]
          rfl
  · have hUrl : isValidUrl call.request.url = false := Bool.eq_false_iff.mpr hValid
    rw [Resolver.answer, Resolver.resolve, hUrl]
    simp only [alone, advance, next, action?, hValid]
    rfl

end Progress

/-- Calls in progress on a cache, and the history of the cache. -/
structure Traffic where
  calls : List Progress
  cache : Cache := ∅
  history : List Action := []

inductive Move where
  | advance (index : Nat) (now : UInt64)
  | remove (removal : Removal)

namespace Traffic

/-- No call has begun, and the cache is empty. Each call has a resolver of its own, so that two that
fetch from one address may come to different ends. -/
def start (calls : List (Resolver × Call)) : Traffic where
  calls := calls.map fun step => { resolver := step.1, call := step.2 }

def move (t : Traffic) : Move → Traffic
  | .advance index now =>
    match t.calls[index]? with
    | some p =>
      { calls := t.calls.set index (p.advance now t.cache).1
        cache := (p.advance now t.cache).2
        history := (p.action? now).toList ++ t.history }
    | none => t
  | .remove removal =>
    { t with cache := removal.on t.cache, history := .remove removal :: t.history }

def after (t : Traffic) : List Move → Traffic
  | [] => t
  | m :: moves => (t.move m).after moves

end Traffic

/-- An action stores what one of the calls has got: a store the thumbnail that it made, a fallback the
placeholder of a tolerant call that failed. -/
def Action.IsFrom (calls : List (Resolver × Call)) : Action → Prop
  | .store key entry =>
    ∃ step ∈ calls, step.2.key = key ∧ step.1.Shows step.2.request entry.thumbnail
  | .fallback key entry =>
    ∃ step ∈ calls, step.2.key = key ∧ entry.thumbnail = step.1.placeholder ∧
      step.2.tolerant = true ∧ ∃ failure, step.1.fetchThumbnail step.2.request = .error failure
  | _ => True

/-- A call in progress is one of the calls, and has fetched what its resolver gives. -/
structure Progress.Sound (calls : List (Resolver × Call)) (p : Progress) : Prop where
  mem : (p.resolver, p.call) ∈ calls
  fetched : ∀ result, p.stage = .fetched result → result = p.resolver.fetchThumbnail p.call.request

structure Traffic.Sound (calls : List (Resolver × Call)) (t : Traffic) : Prop where
  progress : ∀ p ∈ t.calls, p.Sound calls
  history : ∀ a ∈ t.history, a.IsFrom calls
  cache : t.cache = .of t.history

section Sound

variable {calls : List (Resolver × Call)} {p : Progress} {t : Traffic}

theorem Progress.Sound.advance (h : p.Sound calls) (now : UInt64) (cache : Cache) :
    (p.advance now cache).1.Sound calls where
  mem := h.mem
  fetched := by
    intro result hStage
    show result = p.resolver.fetchThumbnail p.call.request
    rw [Progress.advance, Progress.next] at hStage
    split at hStage
    · split at hStage
      · split at hStage <;> cases hStage
      · cases hStage
    · cases hStage
    · exact (Stage.fetched.inj hStage).symm
    · cases hStage
    · cases hStage
    · cases hStage

theorem Progress.Sound.isFrom (h : p.Sound calls) {now : UInt64} {a : Action}
    (ha : a ∈ p.action? now) : a.IsFrom calls := by
  rw [Option.mem_def, Progress.action?] at ha
  split at ha
  · split at ha
    · obtain rfl := Option.some.inj ha
      trivial
    · cases ha
  · next uri hStage =>
    obtain rfl := Option.some.inj ha
    exact ⟨_, h.mem, rfl, Resolver.shows_iff.mpr (h.fetched _ hStage).symm⟩
  · next failure hStage =>
    split at ha
    · next hTolerant =>
      obtain rfl := Option.some.inj ha
      exact ⟨_, h.mem, rfl, rfl, hTolerant, failure, (h.fetched _ hStage).symm⟩
    · cases ha
  · cases ha

theorem Traffic.sound_start (calls : List (Resolver × Call)) : (start calls).Sound calls where
  progress := by
    intro p hp
    obtain ⟨step, hStep, rfl⟩ := List.mem_map.mp hp
    exact ⟨hStep, nofun⟩
  history := nofun
  cache := rfl

theorem Traffic.Sound.move (h : t.Sound calls) (m : Move) : (t.move m).Sound calls := by
  cases m with
  | advance index now =>
    rw [Traffic.move]
    split
    · next p hAt =>
      have hp := h.progress p (List.mem_of_getElem? hAt)
      constructor
      · intro other hOther
        rcases List.mem_or_eq_of_mem_set hOther with hOther | rfl
        · exact h.progress other hOther
        · exact hp.advance now t.cache
      · intro a ha
        rcases List.mem_append.mp ha with ha | ha
        · exact hp.isFrom (Option.mem_toList.mp ha)
        · exact h.history a ha
      · show (p.action? now).toList.foldr Action.on t.cache = _
        rw [Cache.of, List.foldr_append, h.cache, Cache.of]
    · exact h
  | remove removal =>
    refine ⟨h.progress, ?_, ?_⟩
    · intro a ha
      rcases List.mem_cons.mp ha with rfl | ha
      · trivial
      · exact h.history a ha
    · show removal.on t.cache = _
      rw [h.cache]
      rfl

theorem Traffic.Sound.after (h : t.Sound calls) (moves : List Move) :
    (t.after moves).Sound calls := by
  induction moves generalizing t with
  | nil => exact h
  | cons m moves ih => exact ih (h.move m)

end Sound

/-- What nothing comes between is seen in the traffic as in the call. -/
theorem Traffic.after_replicate {t : Traffic} {index : Nat} {p : Progress} (h : t.calls[index]? = some p)
    (now : UInt64) (steps : Nat) :
    (t.after (List.replicate steps (.advance index now))).calls =
        t.calls.set index (p.alone now steps t.cache).1 ∧
      (t.after (List.replicate steps (.advance index now))).cache = (p.alone now steps t.cache).2 := by
  induction steps generalizing t p with
  | zero =>
    obtain ⟨hIndex, hAt⟩ := List.getElem?_eq_some_iff.mp h
    exact ⟨by rw [← hAt]; exact (List.set_getElem_self hIndex).symm, rfl⟩
  | succ steps ih =>
    have hMove : t.move (.advance index now) =
        { calls := t.calls.set index (p.advance now t.cache).1
          cache := (p.advance now t.cache).2
          history := (p.action? now).toList ++ t.history } := by rw [move, h]
    have hNext : (t.move (.advance index now)).calls[index]? = some (p.advance now t.cache).1 := by
      rw [hMove]
      exact List.getElem?_set_self (List.getElem?_eq_some_iff.mp h).1
    obtain ⟨hCalls, hCache⟩ := ih hNext
    rw [List.replicate_succ, after, hCalls, hCache, hMove]
    exact ⟨List.set_set .., rfl⟩

/-- The entry under the key was stored by an action of a kind, and shows what one of the calls got. -/
def Traffic.Holds (calls : List (Resolver × Call)) (t : Traffic) (key : String)
    (kind : Entry → Action) : Prop :=
  ∃ entry, StoredBy key (kind entry) t.history ∧ t.cache.shown key = some entry.thumbnail ∧
    (kind entry).IsFrom calls

theorem Traffic.Sound.holds_iff {calls : List (Resolver × Call)} {t : Traffic} (h : t.Sound calls)
    {key : String} {kind : Entry → Action} (hKind : kind = .store key ∨ kind = .fallback key) :
    t.Holds calls key kind ↔ ∃ entry, StoredBy key (kind entry) t.history := by
  constructor
  · rintro ⟨entry, hStored, -⟩
    exact ⟨entry, hStored⟩
  · rintro ⟨entry, hStored⟩
    refine ⟨entry, hStored, ?_, h.history _ hStored.mem⟩
    obtain ⟨other, hOther, hShown⟩ := hStored.shown
    rw [h.cache, hShown]
    rcases hKind with rfl | rfl <;> rcases hOther with hOther | hOther <;> cases hOther <;> rfl

/-- Whatever order the calls take their steps in, and whatever removals come between: a key holds the
thumbnail that a call made if and only if one was stored since the key was last removed, and the
placeholder of a tolerant call that failed if and only if only fallbacks have happened since then.
If neither has, it holds nothing. And wherever this leads, a call that has not begun comes by its steps
to what it answers as a whole, if nothing comes between them. -/
theorem holds_iff_since (calls : List (Resolver × Call)) (moves : List Move) (key : String) :
    let t := (Traffic.start calls).after moves
    (t.Holds calls key (.store key) ↔ Since key (Action.IsStore key) t.history) ∧
      (t.Holds calls key (.fallback key) ↔
        ¬Since key (Action.IsStore key) t.history ∧ Since key (Action.IsFallback key) t.history) ∧
      (t.cache.get? key = none ↔
        ¬Since key (Action.IsStore key) t.history ∧ ¬Since key (Action.IsFallback key) t.history) ∧
      ∀ index r call, t.calls[index]? = some { resolver := r, call } →
        let alone := t.after (List.replicate 3 (.advance index call.now))
        let whole := r.answer call t.cache
        alone.calls = t.calls.set index { resolver := r, call, stage := .answered whole.answer } ∧
          alone.cache = whole.cache := by
  intro t
  have hSound : t.Sound calls := (Traffic.sound_start calls).after moves
  have hTold := told key t.history
  refine ⟨?_, ?_, ?_, ?_⟩
  · rw [hSound.holds_iff (.inl rfl)]
    exact hTold.store
  · rw [hSound.holds_iff (.inr rfl)]
    exact hTold.fallback
  · rw [hSound.cache]
    exact hTold.absent
  · intro index r call hAsked
    have hAlone := Traffic.after_replicate hAsked call.now 3
    rwa [Progress.alone_eq_answer] at hAlone

/-- Two calls for one picture, of which the first fails, and a call for it that has no fetcher. -/
def catCalls : List (Resolver × Call) :=
  [({ thumbnailer := fun _ _ => .error "no pixels" },
      { url := "https://example.com/cat.png", tolerant := true }),
    ({ fetcher := some fun url => .ok url.toByteArray, thumbnailer := fun _ _ => .ok "cat" },
      { url := "https://example.com/cat.png" }),
    ({ thumbnailer := fun _ _ => .error "no pixels" }, { url := "https://example.com/cat.png" })]

def catMoves : List Move :=
  [.advance 0 0, .advance 1 0, .advance 0 0, .advance 1 0, .advance 1 0, .advance 0 0]

/-- The picture stays, and the last call is answered with it. -/
theorem catMoves_keep_cat :
    let t := (Traffic.start catCalls).after catMoves
    let key := Cache.key "https://example.com/cat.png" defaultSize
    (t.Holds catCalls key (.store key) ∧ ¬t.Holds catCalls key (.fallback key)) ∧
      ∃ last, (t.after (List.replicate 3 (.advance 2 0))).calls[2]? = some last ∧
        last.stage = .answered (.ok "data:image/jpeg;base64,cat") := by
  intro t key
  obtain ⟨hStore, hFallback, -, hAlone⟩ := holds_iff_since catCalls catMoves key
  have hHistory : t.history =
      [.fallback key (.new transparentPixel 0 defaultPlaceholderTtl),
        .store key (.new "data:image/jpeg;base64,cat" 0 defaultTtl)] := by decide +kernel
  have hSince : Since key (Action.IsStore key) t.history := by
    rw [hHistory]
    exact ⟨by rw [Action.Removes]; decide +kernel,
      .inr ⟨by rw [Action.Removes]; decide +kernel, .inl ⟨_, rfl⟩⟩⟩
  refine ⟨⟨hStore.mpr hSince, fun h => (hFallback.mp h).1 hSince⟩, ?_⟩
  obtain ⟨hCalls, -⟩ := hAlone 2 { thumbnailer := fun _ _ => .error "no pixels" }
    { url := "https://example.com/cat.png" } rfl
  have hValid : isValidUrl "https://example.com/cat.png" := by decide +kernel
  refine ⟨_, (congrArg (·[2]?) hCalls).trans rfl, congrArg Stage.answered ?_⟩
  exact (answer_eq_ok_iff _ hValid).mpr (by decide +kernel)

end MarkupLayout.Picture
