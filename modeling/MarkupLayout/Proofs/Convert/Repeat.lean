import MarkupLayout.Proofs.Convert.Taking

/-!
# Converting again

A conversion on the cache that a successful one left is given the same answers without fetching anything,
whatever the times and whatever was cached at first, and whatever has become of the fetcher. After a failure
it comes to the same failure, if fetching and scaling give again what they gave.
-/

namespace MarkupLayout.Convert

open Layout Picture

/-- Fetching and scaling do not change from one request to the next. -/
def Converter.Steady (c : Converter) : Prop :=
  ∀ fetched, c.resolver fetched = c.resolver []

section Again

variable {c : Converter} {now : UInt64} {request : Request} {steps : List Step} {ledger other : Ledger}

theorem Converter.answer_again_ok {text : String} (h : (c.answer now request ledger).1 = .ok text)
    (hExtends : Cache.Extends other.cache (c.answer now request ledger).2.cache) (later : UInt64) :
    (c.answer later request other).1 = .ok text ∧
      (c.answer later request other).2.fetched = other.fetched ∧
      (c.answer later request other).2.cache.shown = other.cache.shown := by
  have hSettled : (c.resolver other.fetched).Settled c.tolerant request other.cache text :=
    (settled_of_resolve (c.resolver ledger.fetched) h).mono hExtends
  obtain ⟨hAnswer, hFetched, hShown⟩ := hSettled.resolve later
  refine ⟨hAnswer, ?_, hShown⟩
  rw [answer, hFetched, List.append_nil]

theorem Converter.answer_again_error (hSteady : c.Steady) {failure : Failure}
    (h : (c.answer now request ledger).1 = .error failure)
    (hShown : other.cache.shown = (c.answer now request ledger).2.cache.shown) (later : UInt64) :
    (c.answer later request other).1 = .error failure := by
  have hCache : (c.answer now request ledger).2.cache = ledger.cache := cache_of_resolve_error h
  rw [hCache] at hShown
  rw [answer, hSteady] at h ⊢
  exact (answer_resolve_congr (congrFun hShown request.key)).trans h

theorem Converter.take_again_ok {answers : List (Request × String)}
    (h : (c.take now steps ledger).1 = .ok answers)
    (hExtends : Cache.Extends other.cache (c.take now steps ledger).2.cache) (later : UInt64) :
    (c.take later steps other).1 = .ok answers ∧
      (c.take later steps other).2.fetched = other.fetched := by
  induction steps generalizing ledger other answers with
  | nil => exact ⟨h, rfl⟩
  | cons step rest ih =>
    cases step with
    | drop parent child fault => exact ih h hExtends
    | resolve request =>
      cases hFirst : (c.answer now request ledger).1 with
      | error failure =>
        rw [take_resolve_error hFirst] at h
        cases h
      | ok text =>
        rw [take_resolve_ok hFirst] at h hExtends
        have hKept := hExtends.trans (c.extends_take now rest (c.answer now request ledger).2)
        obtain ⟨hAgain, hNone, hShown⟩ := answer_again_ok hFirst hKept later
        have hLeft : Cache.Extends (c.answer later request other).2.cache
            (c.take now rest (c.answer now request ledger).2).2.cache := by
          rwa [Cache.Extends, hShown]
        obtain ⟨others, hRest, rfl⟩ := map_eq_ok_iff.mp h
        obtain ⟨hOthers, hNoMore⟩ := ih hRest hLeft
        rw [take_resolve_ok hAgain, hOthers]
        exact ⟨rfl, hNoMore.trans hNone⟩

theorem Converter.take_again_error (hSteady : c.Steady) {failure : Failure}
    (h : (c.take now steps ledger).1 = .error failure)
    (hShown : other.cache.shown = (c.take now steps ledger).2.cache.shown) (later : UInt64) :
    (c.take later steps other).1 = .error failure := by
  induction steps generalizing ledger other with
  | nil => cases h
  | cons step rest ih =>
    cases step with
    | drop parent child fault => exact ih h hShown
    | resolve request =>
      cases hFirst : (c.answer now request ledger).1 with
      | error first =>
        rw [take_resolve_error hFirst] at h hShown
        rw [take_resolve_error (answer_again_error hSteady hFirst hShown later)]
        exact h
      | ok text =>
        rw [take_resolve_ok hFirst] at h hShown
        have hKept : Cache.Extends other.cache (c.answer now request ledger).2.cache := by
          rw [Cache.Extends, hShown]
          exact c.extends_take now rest _
        obtain ⟨hAgain, -, hSame⟩ := answer_again_ok hFirst hKept later
        rw [take_resolve_ok hAgain, ih (map_eq_error_iff.mp h) (hSame.trans hShown)]
        rfl

end Again

/-- After a success a second conversion of a tree gives what the first gave and fetches nothing. If
fetching and scaling do not change, it gives what the first gave in any case. -/
theorem Converter.convertMarkup_again (c : Converter) (now later : UInt64) (root : Element)
    (ledger : Ledger) :
    (∀ content, (c.convertMarkup now root ledger).1 = .ok content →
      (c.convertMarkup later root (c.convertMarkup now root ledger).2).1 = .ok content ∧
        (c.convertMarkup later root (c.convertMarkup now root ledger).2).2.fetched =
          (c.convertMarkup now root ledger).2.fetched) ∧
    (c.Steady → (c.convertMarkup later root (c.convertMarkup now root ledger).2).1 =
      (c.convertMarkup now root ledger).1) := by
  have hCache := c.cache_convertMarkup now root ledger
  have hExtends : Cache.Extends (c.convertMarkup now root ledger).2.cache
      (c.take now (c.design.draftRoot root).2 ledger).2.cache := by
    rw [hCache]
    exact .refl _
  constructor
  · intro content hContent
    obtain ⟨answers, hTaken, rfl⟩ := convertMarkup_eq_ok_iff.mp hContent
    obtain ⟨hAnswers, hNone⟩ := take_again_ok hTaken hExtends later
    rw [answer_convertMarkup, hAnswers, fetched_convertMarkup]
    exact ⟨rfl, hNone⟩
  · intro hSteady
    rw [answer_convertMarkup, answer_convertMarkup]
    cases hTaken : (c.take now (c.design.draftRoot root).2 ledger).1 with
    | error failure => rw [take_again_error hSteady hTaken (congrArg Cache.shown hCache) later]
    | ok answers => rw [(take_again_ok hTaken hExtends later).1]

theorem pictureBook_again : tolerantConverter.Steady ∧
    (tolerantConverter.convertMarkup 0 pictureBook {}).1.isOk ∧
      (tolerantConverter.convertMarkup 0 pictureBook {}).2.fetched = ["http://ab.cd/e.png"] ∧
      (tolerantConverter.convertMarkup 7 pictureBook
        (tolerantConverter.convertMarkup 0 pictureBook {}).2).1 =
          (tolerantConverter.convertMarkup 0 pictureBook {}).1 ∧
      (tolerantConverter.convertMarkup 7 pictureBook
        (tolerantConverter.convertMarkup 0 pictureBook {}).2).2.fetched = ["http://ab.cd/e.png"] := by
  have hSteady : tolerantConverter.Steady := fun _ => rfl
  have hOk : (tolerantConverter.convertMarkup 0 pictureBook {}).1.isOk := by decide +kernel
  have hFetched : (tolerantConverter.convertMarkup 0 pictureBook {}).2.fetched =
      ["http://ab.cd/e.png"] := by
    decide +kernel
  obtain ⟨hAfter, hSame⟩ := tolerantConverter.convertMarkup_again 0 7 pictureBook {}
  obtain ⟨content, hContent⟩ := exists_ok_of_isOk hOk
  exact ⟨hSteady, hOk, hFetched, hSame hSteady, (hAfter content hContent).2.trans hFetched⟩

end MarkupLayout.Convert
