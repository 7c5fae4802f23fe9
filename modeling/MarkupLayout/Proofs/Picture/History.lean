import MarkupLayout.Proofs.Picture.Calls

/-!
# Histories of a cache

Whoever shares a cache, it takes one action after the other, so it holds what its history tells. An
entry has been stored by one action and kept by all that came after. That action is a store if there
was one since the key was last removed, and else the first fallback since then.
-/

namespace MarkupLayout.Picture

/-- What may take entries out of a cache. -/
inductive Removal where
  | expired (now : UInt64)
  | olderThan (now age : UInt64)
  | all
deriving DecidableEq

def Removal.on : Removal → Cache → Cache
  | expired now, cache => cache.evictExpired now
  | olderThan now age, cache => cache.evictOlderThan now age
  | all, _ => ∅

/-- What may change a cache. A fallback stores its entry only where there is none. -/
inductive Action where
  | touch (key : String) (now : UInt64)
  | store (key : String) (entry : Entry)
  | fallback (key : String) (entry : Entry)
  | remove (removal : Removal)
deriving DecidableEq

namespace Action

def on : Action → Cache → Cache
  | touch key now, cache => cache.touch key now
  | store key entry, cache => cache.insert key entry
  | fallback key entry, cache => cache.insertIfAbsent key entry
  | remove removal, cache => removal.on cache

def IsStore (key : String) (a : Action) : Prop :=
  ∃ entry, a = store key entry

def IsFallback (key : String) (a : Action) : Prop :=
  ∃ entry, a = fallback key entry

/-- The action puts its entry under a key of the cache. -/
def Stores (key : String) (cache : Cache) (a : Action) : Prop :=
  a.IsStore key ∨ a.IsFallback key ∧ cache.get? key = none

def Removes (key : String) (cache : Cache) (a : Action) : Prop :=
  cache.get? key ≠ none ∧ (a.on cache).get? key = none

end Action

/-- The cache that actions leave of an empty one. The last action comes first. -/
def Cache.of (history : List Action) : Cache :=
  history.foldr Action.on ∅

/-- An action of the kind has happened since the key was last removed. -/
def Since (key : String) (kind : Action → Prop) : List Action → Prop
  | [] => False
  | a :: earlier => ¬a.Removes key (Cache.of earlier) ∧ (kind a ∨ Since key kind earlier)

/-- The entry under the key was stored by an action of the history and neither replaced nor removed
after that. -/
inductive StoredBy (key : String) (a : Action) : List Action → Prop where
  | stored {earlier : List Action} (h : a.Stores key (Cache.of earlier)) :
      StoredBy key a (a :: earlier)
  | kept {other : Action} {earlier : List Action} (h : StoredBy key a earlier)
      (hStores : ¬other.Stores key (Cache.of earlier))
      (hRemoves : ¬other.Removes key (Cache.of earlier)) : StoredBy key a (other :: earlier)

section Action

variable {key : String} {cache : Cache} {a : Action}

theorem shown_eq_none_iff : cache.shown key = none ↔ cache.get? key = none := by
  rw [Cache.shown, Option.map_eq_none_iff]

theorem Removal.get?_on (removal : Removal) (key : String) (cache : Cache) :
    (removal.on cache).get? key = cache.get? key ∨ (removal.on cache).get? key = none := by
  have hFilter (keep : String → Entry → Bool) :
      (SortedMap.filter cache keep).get? key = cache.get? key ∨
        (SortedMap.filter cache keep).get? key = none := by
    rw [SortedMap.get?_filter]
    cases cache.get? key with
    | none => exact .inl rfl
    | some entry =>
      rw [Option.filter_some]
      split
      · exact .inl rfl
      · exact .inr rfl
  cases removal with
  | expired now => exact hFilter _
  | olderThan now age => exact hFilter _
  | all => exact .inr rfl

theorem Action.shown_on_store (entry : Entry) :
    ((Action.store key entry).on cache).shown key = some entry.thumbnail := by
  rw [on, Cache.shown_insert, if_pos rfl]

theorem Action.shown_on_fallback (entry : Entry) (hAbsent : cache.get? key = none) :
    ((Action.fallback key entry).on cache).shown key = some entry.thumbnail := by
  have hContains : SortedMap.contains cache key = false := by rw [SortedMap.contains, hAbsent]; rfl
  rw [on, Cache.insertIfAbsent, hContains]
  exact shown_on_store entry

theorem Action.shown_on_of_not_stores (hStores : ¬a.Stores key cache) :
    (a.on cache).shown key = cache.shown key ∨ (a.on cache).get? key = none := by
  rw [Stores, not_or, not_and] at hStores
  obtain ⟨hStore, hFallback⟩ := hStores
  cases a with
  | touch other now => exact .inl (cache.shown_touch other key now)
  | store other entry =>
    refine .inl ?_
    rw [on, Cache.shown_insert, if_neg]
    rintro rfl
    exact hStore ⟨entry, rfl⟩
  | fallback other entry =>
    refine .inl ?_
    rw [on, Cache.insertIfAbsent]
    split
    · rfl
    · next hContains =>
      rw [Cache.shown_insert, if_neg]
      rintro rfl
      have hAbsent : cache.get? key = none := by simpa [SortedMap.contains] using hContains
      exact hFallback ⟨entry, rfl⟩ hAbsent
  | remove removal =>
    rcases removal.get?_on key cache with hSame | hNone
    · exact .inl (congrArg _ hSame)
    · exact .inr hNone

theorem Action.shown_on_of_stores (hStores : a.Stores key cache) : ∃ entry,
    (a = .store key entry ∨ a = .fallback key entry) ∧
      (a.on cache).shown key = some entry.thumbnail := by
  rcases hStores with ⟨entry, rfl⟩ | ⟨⟨entry, rfl⟩, hAbsent⟩
  · exact ⟨entry, .inl rfl, shown_on_store entry⟩
  · exact ⟨entry, .inr rfl, shown_on_fallback entry hAbsent⟩

theorem Action.get?_on_of_stores (hStores : a.Stores key cache) : (a.on cache).get? key ≠ none := by
  obtain ⟨entry, -, hShown⟩ := shown_on_of_stores hStores
  rw [Ne, ← shown_eq_none_iff, hShown]
  nofun

theorem Action.not_removes_of_stores (hStores : a.Stores key cache) : ¬a.Removes key cache :=
  fun hRemoves => get?_on_of_stores hStores hRemoves.2

theorem Action.shown_on_of_kept (hStores : ¬a.Stores key cache) (hRemoves : ¬a.Removes key cache) :
    (a.on cache).shown key = cache.shown key := by
  rcases shown_on_of_not_stores hStores with hSame | hNone
  · exact hSame
  · have hAbsent : cache.get? key = none :=
      Decidable.byContradiction fun hPresent => hRemoves ⟨hPresent, hNone⟩
    rw [shown_eq_none_iff.mpr hNone, shown_eq_none_iff.mpr hAbsent]

end Action

section History

variable {key : String} {a b : Action} {earlier history : List Action} {entry : Entry}
  {kind : Action → Prop}

theorem Cache.of_cons : Cache.of (a :: earlier) = a.on (Cache.of earlier) :=
  rfl

theorem storedBy_cons_of_kept (hStores : ¬b.Stores key (Cache.of earlier))
    (hRemoves : ¬b.Removes key (Cache.of earlier)) :
    StoredBy key a (b :: earlier) ↔ StoredBy key a earlier := by
  constructor
  · rintro (h | ⟨h, -, -⟩)
    · exact absurd h hStores
    · exact h
  · intro h
    exact .kept h hStores hRemoves

theorem storedBy_cons_of_stores (hStores : b.Stores key (Cache.of earlier)) :
    StoredBy key a (b :: earlier) ↔ a = b := by
  constructor
  · rintro (- | ⟨-, hNot, -⟩)
    · rfl
    · exact absurd hStores hNot
  · rintro rfl
    exact .stored hStores

theorem not_storedBy_cons_of_removes (hRemoves : b.Removes key (Cache.of earlier)) :
    ¬StoredBy key a (b :: earlier) := by
  rintro (h | ⟨-, -, hNot⟩)
  · exact Action.not_removes_of_stores h hRemoves
  · exact hNot hRemoves

theorem StoredBy.mem (h : StoredBy key a history) : a ∈ history := by
  induction h with
  | stored h => exact List.mem_cons_self ..
  | kept h _ _ ih => exact List.mem_cons_of_mem _ ih

theorem StoredBy.shown (h : StoredBy key a history) : ∃ entry,
    (a = .store key entry ∨ a = .fallback key entry) ∧
      (Cache.of history).shown key = some entry.thumbnail := by
  induction h with
  | stored h => exact Action.shown_on_of_stores h
  | kept _ hStores hRemoves ih =>
    rw [Cache.of_cons, Action.shown_on_of_kept hStores hRemoves]
    exact ih

theorem since_cons_of_not_removes (hRemoves : ¬b.Removes key (Cache.of earlier)) :
    Since key kind (b :: earlier) ↔ kind b ∨ Since key kind earlier := by
  rw [Since, and_iff_right hRemoves]

theorem not_since_cons_of_removes (hRemoves : b.Removes key (Cache.of earlier)) :
    ¬Since key kind (b :: earlier) :=
  fun h => h.1 hRemoves

/-- What the history of a cache tells of a key. -/
structure Told (key : String) (history : List Action) : Prop where
  store : (∃ entry, StoredBy key (.store key entry) history) ↔
    Since key (Action.IsStore key) history
  fallback : (∃ entry, StoredBy key (.fallback key entry) history) ↔
    ¬Since key (Action.IsStore key) history ∧ Since key (Action.IsFallback key) history
  absent : (Cache.of history).get? key = none ↔
    ¬Since key (Action.IsStore key) history ∧ ¬Since key (Action.IsFallback key) history

theorem told_of_store (entry : Entry) : Told key (.store key entry :: earlier) := by
  have hStores : (Action.store key entry).Stores key (Cache.of earlier) := .inl ⟨entry, rfl⟩
  have hStore : Since key (Action.IsStore key) (.store key entry :: earlier) :=
    (since_cons_of_not_removes (Action.not_removes_of_stores hStores)).mpr (.inl ⟨entry, rfl⟩)
  constructor
  · exact iff_of_true ⟨entry, .stored hStores⟩ hStore
  · refine iff_of_false ?_ fun h => h.1 hStore
    rintro ⟨other, hOther⟩
    cases (storedBy_cons_of_stores hStores).mp hOther
  · exact iff_of_false (Action.get?_on_of_stores hStores) fun h => h.1 hStore

theorem told_of_fallback (hEarlier : Told key earlier) (entry : Entry)
    (hAbsent : (Cache.of earlier).get? key = none) : Told key (.fallback key entry :: earlier) := by
  have hStores : (Action.fallback key entry).Stores key (Cache.of earlier) :=
    .inr ⟨⟨entry, rfl⟩, hAbsent⟩
  have hRemoves := Action.not_removes_of_stores hStores
  have hFallback : Since key (Action.IsFallback key) (.fallback key entry :: earlier) :=
    (since_cons_of_not_removes hRemoves).mpr (.inl ⟨entry, rfl⟩)
  have hStore : ¬Since key (Action.IsStore key) (.fallback key entry :: earlier) := by
    rw [since_cons_of_not_removes hRemoves]
    rintro (⟨_, ⟨⟩⟩ | hStore)
    exact (hEarlier.absent.mp hAbsent).1 hStore
  constructor
  · refine iff_of_false ?_ hStore
    rintro ⟨other, hOther⟩
    cases (storedBy_cons_of_stores hStores).mp hOther
  · exact iff_of_true ⟨entry, .stored hStores⟩ ⟨hStore, hFallback⟩
  · exact iff_of_false (Action.get?_on_of_stores hStores) fun h => h.2 hFallback

theorem told_of_removes (hRemoves : a.Removes key (Cache.of earlier)) : Told key (a :: earlier) where
  store := iff_of_false (fun ⟨_, h⟩ => not_storedBy_cons_of_removes hRemoves h)
    (not_since_cons_of_removes hRemoves)
  fallback := iff_of_false (fun ⟨_, h⟩ => not_storedBy_cons_of_removes hRemoves h)
    fun h => not_since_cons_of_removes hRemoves h.2
  absent := iff_of_true hRemoves.2
    ⟨not_since_cons_of_removes hRemoves, not_since_cons_of_removes hRemoves⟩

theorem told_of_kept (hEarlier : Told key earlier) (hStores : ¬a.Stores key (Cache.of earlier))
    (hRemoves : ¬a.Removes key (Cache.of earlier)) : Told key (a :: earlier) := by
  have hStore : Since key (Action.IsStore key) (a :: earlier) ↔
      Since key (Action.IsStore key) earlier := by
    rw [since_cons_of_not_removes hRemoves]
    exact or_iff_right fun h => hStores (.inl h)
  have hFallback : Since key (Action.IsFallback key) (a :: earlier) ↔
      a.IsFallback key ∨ Since key (Action.IsFallback key) earlier :=
    since_cons_of_not_removes hRemoves
  have hPresent (h : a.IsFallback key) : (Cache.of earlier).get? key ≠ none :=
    fun hAbsent => hStores (.inr ⟨h, hAbsent⟩)
  have hAbsent : (Cache.of (a :: earlier)).get? key = none ↔ (Cache.of earlier).get? key = none := by
    rw [← shown_eq_none_iff, ← shown_eq_none_iff, Cache.of_cons,
      Action.shown_on_of_kept hStores hRemoves]
  constructor
  · simp only [storedBy_cons_of_kept hStores hRemoves, hStore]
    exact hEarlier.store
  · simp only [storedBy_cons_of_kept hStores hRemoves, hStore, hFallback]
    rw [hEarlier.fallback]
    grind [hEarlier.absent]
  · rw [hAbsent, hStore, hFallback]
    grind [hEarlier.absent]

theorem told (key : String) (history : List Action) : Told key history := by
  induction history with
  | nil =>
    refine ⟨iff_of_false ?_ id, iff_of_false ?_ fun h => h.2, iff_of_true rfl ⟨id, id⟩⟩
    · rintro ⟨_, ⟨⟩⟩
    · rintro ⟨_, ⟨⟩⟩
  | cons a earlier ih =>
    by_cases hRemoves : a.Removes key (Cache.of earlier)
    · exact told_of_removes hRemoves
    by_cases hStores : a.Stores key (Cache.of earlier)
    · rcases hStores with ⟨entry, rfl⟩ | ⟨⟨entry, rfl⟩, hAbsent⟩
      · exact told_of_store entry
      · exact told_of_fallback ih entry hAbsent
    · exact told_of_kept ih hStores hRemoves

end History

end MarkupLayout.Picture
