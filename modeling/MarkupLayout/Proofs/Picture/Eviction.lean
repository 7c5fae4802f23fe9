import Mathlib.Data.List.Basic
import MarkupLayout.Picture.Cache

/-!
# Evictions

An entry lasts as long as its time to live, counted from when it was made. The eviction of expired
entries keeps those that last, so of two of them only the later counts, and both together remove as many
entries as that one. If all entries have one time to live, it keeps those that are not older than that.
-/

namespace MarkupLayout.Picture

/-- The time to live of an entry, which ends at the last moment of 64 bits at the latest, is not over. -/
def Entry.Lasts (entry : Entry) (now : UInt64) : Prop :=
  ∃ created ∈ entry.created, ∃ ttl ∈ entry.ttl,
    now.toNat ≤ min (created.toNat + ttl.toNat) (UInt64.size - 1)

/-- The keys under which the one cache has an entry and the other has none. -/
def Cache.gone (before after : Cache) : List String :=
  before.keys.filter fun key => !after.contains key

theorem toNat_addMillis (a b : UInt64) :
    (addMillis a b).toNat = min (a.toNat + b.toNat) (UInt64.size - 1) := by
  have hLast : lastMillis.toNat = UInt64.size - 1 := rfl
  rw [addMillis, hLast]
  split
  · next hFits =>
    have hLess : a.toNat + b.toNat < UInt64.size := Nat.lt_of_le_pred (by decide) hFits
    rw [UInt64.toNat_add, Nat.mod_eq_of_lt hLess, Nat.min_eq_left hFits]
  · next hOver => rw [hLast, Nat.min_eq_right (Nat.le_of_not_le hOver)]

theorem subMillis_le_iff (a b c : UInt64) : subMillis a b ≤ c ↔ a.toNat ≤ b.toNat + c.toNat := by
  rw [subMillis]
  split
  · next hLe =>
    rw [UInt64.le_iff_toNat_le, UInt64.toNat_sub_of_le a b hLe, Nat.sub_le_iff_le_add']
  · next hLess =>
    have hBefore : a.toNat < b.toNat := UInt64.lt_iff_toNat_lt.mp (UInt64.not_le.mp hLess)
    have hZero : (0 : UInt64) ≤ c := UInt64.le_iff_toNat_le.mpr (Nat.zero_le _)
    exact iff_of_true hZero (by omega)

namespace Entry

variable {entry : Entry} {s t : UInt64}

theorem isExpired_iff (entry : Entry) (now : UInt64) : entry.isExpired now ↔ ¬entry.Lasts now := by
  obtain ⟨thumbnail, created, ttl⟩ := entry
  cases created with
  | none => exact iff_of_true rfl nofun
  | some created =>
    cases ttl with
    | none => exact iff_of_true rfl nofun
    | some ttl =>
      have hSum : addMillis created ttl < now ↔
          ¬now.toNat ≤ min (created.toNat + ttl.toNat) (UInt64.size - 1) := by
        rw [UInt64.lt_iff_toNat_lt, toNat_addMillis, Nat.not_le]
      simpa [isExpired, Lasts] using hSum

theorem lasts_iff (entry : Entry) (now : UInt64) : entry.Lasts now ↔
    ∃ created ∈ entry.created, ∃ ttl ∈ entry.ttl, now.toNat ≤ created.toNat + ttl.toNat := by
  have hNow : now.toNat ≤ UInt64.size - 1 := Nat.le_pred_of_lt now.toNat_lt_size
  simp only [Lasts, Nat.le_min, hNow, and_true]

theorem Lasts.of_le (hLe : s ≤ t) (h : entry.Lasts t) : entry.Lasts s := by
  obtain ⟨created, hCreated, ttl, hTtl, hNow⟩ := h
  exact ⟨created, hCreated, ttl, hTtl, Nat.le_trans (UInt64.le_iff_toNat_le.mp hLe) hNow⟩

theorem isExpired_of_le (hLe : s ≤ t) (h : entry.isExpired s) : entry.isExpired t := by
  rw [isExpired_iff] at h ⊢
  exact fun hLasts => h (hLasts.of_le hLe)

theorem isYoung_iff (entry : Entry) (now age : UInt64) : entry.isYoung now age ↔
    ∃ created ∈ entry.created, now.toNat ≤ created.toNat + age.toNat := by
  simp only [isYoung, Option.any_eq_true, decide_eq_true_eq, subMillis_le_iff, Option.mem_def]

theorem isYoung_iff_of_ttl {age : UInt64} (hTtl : entry.ttl = some age) (now : UInt64) :
    entry.isYoung now age ↔ ¬entry.isExpired now := by
  rw [isExpired_iff, not_not, isYoung_iff, lasts_iff]
  simp only [hTtl, Option.mem_some_iff, exists_eq_left']

end Entry

namespace Cache

theorem removed_filter (cache : Cache) (keep : String → Entry → Bool) :
    cache.removed (SortedMap.filter cache keep) = (cache.gone (SortedMap.filter cache keep)).length := by
  have hKept : ∀ entry ∈ cache.entries,
      SortedMap.contains (SortedMap.filter cache keep) entry.1 = keep entry.1 entry.2 := by
    intro entry hEntry
    rw [SortedMap.contains, SortedMap.get?_filter, SortedMap.get?_eq_some_iff.mpr hEntry,
      Option.filter_some]
    cases keep entry.1 entry.2 <;> rfl
  have hGone : (cache.gone (SortedMap.filter cache keep)).length =
      (cache.entries.filter fun entry => !keep entry.1 entry.2).length := by
    rw [gone, SortedMap.keys, List.filter_map, List.length_map]
    congr 1
    exact List.filter_congr fun entry hEntry => congrArg _ (hKept entry hEntry)
  have hAll := List.length_eq_length_filter_add (l := cache.entries) fun entry => keep entry.1 entry.2
  rw [hGone, removed, SortedMap.size, SortedMap.size, hAll]
  exact Nat.add_sub_cancel_left ..

theorem size_evictExpired_le (cache : Cache) (now : UInt64) :
    SortedMap.size (cache.evictExpired now) ≤ SortedMap.size cache :=
  List.length_filter_le ..

theorem get?_evictExpired (cache : Cache) (now : UInt64) {key : String} {entry : Entry} :
    (cache.evictExpired now).get? key = some entry ↔
      cache.get? key = some entry ∧ ¬entry.isExpired now := by
  rw [evictExpired, SortedMap.get?_filter, Option.filter_eq_some_iff, Bool.not_eq_true,
    Bool.not_eq_true']

theorem get?_evictOlderThan (cache : Cache) (now age : UInt64) {key : String} {entry : Entry} :
    (cache.evictOlderThan now age).get? key = some entry ↔
      cache.get? key = some entry ∧ entry.isYoung now age := by
  rw [evictOlderThan, SortedMap.get?_filter, Option.filter_eq_some_iff]

theorem evictExpired_evictExpired (cache : Cache) {s t : UInt64} (h : s ≤ t) :
    (cache.evictExpired s).evictExpired t = cache.evictExpired t := by
  refine SortedMap.ext_get? fun key => Option.ext fun entry => ?_
  rw [get?_evictExpired, get?_evictExpired, get?_evictExpired, and_assoc]
  refine and_congr_right fun _ => and_iff_right_of_imp fun hLater hEarlier => ?_
  exact hLater (Entry.isExpired_of_le h hEarlier)

/-- Evicting at one time and then at a later one comes to evicting at the later one. An eviction keeps
what lasts, as it is, and tells how many entries it has removed. -/
theorem evictExpired_composes (cache : Cache) :
    (∀ s t, s ≤ t → (cache.evictExpired s).evictExpired t = cache.evictExpired t ∧
      cache.removed (cache.evictExpired s) +
          (cache.evictExpired s).removed ((cache.evictExpired s).evictExpired t) =
        cache.removed (cache.evictExpired t)) ∧
    ∀ now, (∀ entry : Entry, entry.isExpired now ↔ ¬entry.Lasts now) ∧
      (∀ key entry, (cache.evictExpired now).get? key = some entry ↔
        cache.get? key = some entry ∧ ¬entry.isExpired now) ∧
      cache.removed (cache.evictExpired now) = (cache.gone (cache.evictExpired now)).length := by
  refine ⟨?_, ?_⟩
  · intro s t hLe
    have hTwice := evictExpired_evictExpired cache hLe
    have hFirst := size_evictExpired_le cache s
    have hSecond := size_evictExpired_le (cache.evictExpired s) t
    rw [hTwice] at hSecond ⊢
    refine ⟨rfl, ?_⟩
    simp only [removed]
    omega
  · intro now
    exact ⟨fun entry => entry.isExpired_iff now, fun key entry => get?_evictExpired cache now,
      removed_filter cache _⟩

end Cache

/-- One entry has no time, one is older than a hundred milliseconds at the moment 1100, one exactly as
old, and the last one was made so late that its time to live does not end in 64 bits. -/
def datedPictures : Cache :=
  .ofList [
    ("future", { thumbnail := "", created := some 0xFFFFFFFFFFFFFFF0, ttl := some 100 }),
    ("made", { thumbnail := "", created := some 1000, ttl := some 100 }),
    ("old", { thumbnail := "", created := some 899, ttl := some 100 }),
    ("undated", { thumbnail := "", ttl := some 100 })]

theorem datedPictures_composes : (1100 : UInt64) ≤ 1101 ∧
    (datedPictures.evictExpired 1100).evictExpired 1101 = datedPictures.evictExpired 1101 ∧
    datedPictures.removed (datedPictures.evictExpired 1100) = 2 ∧
    datedPictures.removed (datedPictures.evictExpired 1101) = 3 ∧
    (datedPictures.evictExpired 1100).removed
      ((datedPictures.evictExpired 1100).evictExpired 1101) = 1 := by
  have hLe : (1100 : UInt64) ≤ 1101 := by decide
  obtain ⟨hTwice, hCounts⟩ := (datedPictures.evictExpired_composes).1 1100 1101 hLe
  have hEarlier : datedPictures.removed (datedPictures.evictExpired 1100) = 2 := by decide +kernel
  have hLater : datedPictures.removed (datedPictures.evictExpired 1101) = 3 := by decide +kernel
  refine ⟨hLe, hTwice, hEarlier, hLater, ?_⟩
  omega

/-- Where all entries have one time to live, the expired ones are those that are older than it. -/
theorem Cache.evictOlderThan_eq_evictExpired {cache : Cache} {age : UInt64}
    (hTtl : ∀ key entry, cache.get? key = some entry → entry.ttl = some age) (now : UInt64) :
    cache.evictOlderThan now age = cache.evictExpired now ∧
    cache.removed (cache.evictOlderThan now age) = cache.removed (cache.evictExpired now) ∧
    ∀ key entry, (cache.evictOlderThan now age).get? key = some entry ↔ cache.get? key = some entry ∧
      ∃ created ∈ entry.created, now.toNat ≤ created.toNat + age.toNat := by
  have hSame : cache.evictOlderThan now age = cache.evictExpired now := by
    refine SortedMap.ext_get? fun key => Option.ext fun entry => ?_
    rw [get?_evictOlderThan, get?_evictExpired]
    exact and_congr_right fun hEntry => Entry.isYoung_iff_of_ttl (hTtl key entry hEntry) now
  refine ⟨hSame, congrArg _ hSame, fun key entry => ?_⟩
  rw [get?_evictOlderThan, Entry.isYoung_iff]

theorem datedPictures_same_evictions :
    (∀ key entry, datedPictures.get? key = some entry → entry.ttl = some 100) ∧
    datedPictures.evictOlderThan 1100 100 = datedPictures.evictExpired 1100 ∧
    datedPictures.removed (datedPictures.evictOlderThan 1100 100) = 2 := by
  have hTtl : ∀ key entry, datedPictures.get? key = some entry → entry.ttl = some 100 := by
    intro key entry hEntry
    have hAll : ∀ entry ∈ datedPictures.entries, entry.2.ttl = some 100 := by decide +kernel
    exact hAll (key, entry) (SortedMap.get?_eq_some_iff.mp hEntry)
  obtain ⟨hSame, hCount, -⟩ := Cache.evictOlderThan_eq_evictExpired hTtl 1100
  refine ⟨hTtl, hSame, hCount.trans ?_⟩
  decide +kernel

end MarkupLayout.Picture
