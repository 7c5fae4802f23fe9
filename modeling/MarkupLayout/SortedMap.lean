/-!
# Maps with text keys in ascending order

A map is a list of entries whose keys strictly ascend, so that two maps with the same look-ups
are equal and every traversal runs in key order. Keys are compared by code points.
-/

namespace MarkupLayout

structure SortedMap (α : Type) where
  entries : List (String × α)
  ascending : entries.Pairwise fun a b => a.1 < b.1

namespace SortedMap

variable {α : Type}

def find (key : String) : List (String × α) → Option α
  | [] => none
  | entry :: rest => if entry.1 = key then some entry.2 else find key rest

/-- Puts an entry in its place and drops an earlier one with the same key. -/
def place (key : String) (value : α) : List (String × α) → List (String × α)
  | [] => [(key, value)]
  | entry :: rest =>
    if key < entry.1 then (key, value) :: entry :: rest
    else if key = entry.1 then (key, value) :: rest
    else entry :: place key value rest

theorem mem_place {key : String} {value : α} {entry : String × α} {entries : List (String × α)}
    (h : entry ∈ place key value entries) : entry = (key, value) ∨ entry ∈ entries := by
  induction entries with
  | nil => simpa [place] using h
  | cons first rest ih =>
    simp only [place] at h
    split at h
    · simpa using h
    · split at h
      · simp only [List.mem_cons] at h ⊢
        exact h.imp_right .inr
      · rcases List.mem_cons.mp h with rfl | h
        · exact .inr (List.mem_cons_self ..)
        · exact (ih h).imp_right (List.mem_cons_of_mem _)

theorem lt_of_not_lt_of_ne {a b : String} (hlt : ¬a < b) (hne : a ≠ b) : b < a := by
  rcases String.le_total a b with h | h
  · exact absurd (String.le_antisymm h (String.not_lt.mp hlt)) hne
  · exact String.not_le.mp fun h' => hne (String.le_antisymm h' h)

theorem ascending_place (key : String) (value : α) {entries : List (String × α)}
    (h : entries.Pairwise fun a b => a.1 < b.1) :
    (place key value entries).Pairwise fun a b => a.1 < b.1 := by
  induction entries with
  | nil => simp [place]
  | cons first rest ih =>
    obtain ⟨hfirst, hrest⟩ := List.pairwise_cons.mp h
    simp only [place]
    split
    · next hlt =>
      refine List.pairwise_cons.mpr ⟨fun entry he => ?_, h⟩
      rcases List.mem_cons.mp he with rfl | he
      · exact hlt
      · exact String.lt_trans hlt (hfirst entry he)
    · next hnlt =>
      split
      · next heq => exact List.pairwise_cons.mpr ⟨fun entry he => heq ▸ hfirst entry he, hrest⟩
      · next hne =>
        refine List.pairwise_cons.mpr ⟨fun entry he => ?_, ih hrest⟩
        rcases mem_place he with rfl | he
        · exact lt_of_not_lt_of_ne hnlt hne
        · exact hfirst entry he

def empty : SortedMap α :=
  ⟨[], List.Pairwise.nil⟩

instance : EmptyCollection (SortedMap α) :=
  ⟨empty⟩

instance : Inhabited (SortedMap α) :=
  ⟨empty⟩

def get? (map : SortedMap α) (key : String) : Option α :=
  find key map.entries

def contains (map : SortedMap α) (key : String) : Bool :=
  (map.get? key).isSome

def insert (map : SortedMap α) (key : String) (value : α) : SortedMap α :=
  ⟨place key value map.entries, ascending_place key value map.ascending⟩

def filter (map : SortedMap α) (keep : String → α → Bool) : SortedMap α :=
  ⟨map.entries.filter fun entry => keep entry.1 entry.2, map.ascending.filter _⟩

def erase (map : SortedMap α) (key : String) : SortedMap α :=
  map.filter fun other _ => other != key

def adjust (map : SortedMap α) (key : String) (f : α → α) : SortedMap α :=
  match map.get? key with
  | some value => map.insert key (f value)
  | none => map

def insertAll (map : SortedMap α) (entries : List (String × α)) : SortedMap α :=
  entries.foldl (fun map entry => map.insert entry.1 entry.2) map

/-- The map of a list of entries; of two with one key the later counts. -/
def ofList (entries : List (String × α)) : SortedMap α :=
  insertAll ∅ entries

def keys (map : SortedMap α) : List String :=
  map.entries.map (·.1)

def size (map : SortedMap α) : Nat :=
  map.entries.length

def isEmpty (map : SortedMap α) : Bool :=
  map.entries.isEmpty

theorem ext_entries {a b : SortedMap α} (h : a.entries = b.entries) : a = b := by
  cases a
  cases b
  simpa using h

instance [DecidableEq α] : DecidableEq (SortedMap α) := fun a b =>
  decidable_of_iff (a.entries = b.entries) ⟨ext_entries, fun h => h ▸ rfl⟩

instance [Repr α] : Repr (SortedMap α) :=
  ⟨fun map precision => reprPrec map.entries precision⟩

theorem find_place_self (key : String) (value : α) (entries : List (String × α)) :
    find key (place key value entries) = some value := by
  induction entries with
  | nil => simp [place, find]
  | cons first rest ih =>
    simp only [place]
    split
    · simp [find]
    · split
      · simp [find]
      · next hne => simp [find, Ne.symm hne, ih]

theorem find_place_of_ne {key other : String} (h : other ≠ key) (value : α)
    (entries : List (String × α)) : find other (place key value entries) = find other entries := by
  induction entries with
  | nil => simp [place, find, Ne.symm h]
  | cons first rest ih =>
    simp only [place]
    split
    · simp [find, Ne.symm h]
    · split
      · next heq => simp [find, ← heq, Ne.symm h]
      · simp [find, ih]

theorem get?_insert (map : SortedMap α) (key other : String) (value : α) :
    (map.insert key value).get? other = if other = key then some value else map.get? other := by
  simp only [get?, insert]
  split
  · next h => exact h ▸ find_place_self key value map.entries
  · next h => exact find_place_of_ne h value map.entries

@[simp] theorem get?_insert_self (map : SortedMap α) (key : String) (value : α) :
    (map.insert key value).get? key = some value := by
  simp [get?_insert]

theorem get?_insert_of_ne {key other : String} (h : other ≠ key) (map : SortedMap α) (value : α) :
    (map.insert key value).get? other = map.get? other := by
  simp [get?_insert, h]

@[simp] theorem get?_empty (key : String) : (∅ : SortedMap α).get? key = none := rfl

theorem find_eq_some_iff {key : String} {value : α} {entries : List (String × α)}
    (h : entries.Pairwise fun a b => a.1 < b.1) :
    find key entries = some value ↔ (key, value) ∈ entries := by
  induction entries with
  | nil => simp [find]
  | cons first rest ih =>
    obtain ⟨hfirst, hrest⟩ := List.pairwise_cons.mp h
    obtain ⟨firstKey, firstValue⟩ := first
    simp only [find, List.mem_cons, Prod.mk.injEq]
    split
    · next heq =>
      constructor
      · intro hv
        exact .inl ⟨heq.symm, (Option.some.inj hv).symm⟩
      · rintro (⟨_, rfl⟩ | hmem)
        · rfl
        · exact absurd (hfirst _ hmem) (heq ▸ String.lt_irrefl _)
    · next hne =>
      rw [ih hrest]
      constructor
      · exact .inr
      · rintro (⟨heq, _⟩ | hmem)
        · exact absurd heq.symm hne
        · exact hmem

theorem get?_eq_some_iff {map : SortedMap α} {key : String} {value : α} :
    map.get? key = some value ↔ (key, value) ∈ map.entries :=
  find_eq_some_iff map.ascending

theorem get?_filter (map : SortedMap α) (keep : String → α → Bool) (key : String) :
    (map.filter keep).get? key = (map.get? key).filter (keep key) := by
  apply Option.ext
  intro value
  rw [get?_eq_some_iff, Option.filter_eq_some_iff, get?_eq_some_iff]
  simp [filter]

theorem get?_erase (map : SortedMap α) (key other : String) :
    (map.erase key).get? other = if other = key then none else map.get? other := by
  rw [erase, get?_filter]
  by_cases h : other = key
  · cases map.get? other <;> simp [h, Option.filter]
  · cases map.get? other <;> simp [h, Option.filter]

theorem get?_adjust (map : SortedMap α) (key other : String) (f : α → α) :
    (map.adjust key f).get? other =
      if other = key then (map.get? other).map f else map.get? other := by
  unfold adjust
  split
  · next value h =>
    rw [get?_insert]
    split
    · next heq => simp [heq, h]
    · rfl
  · next h =>
    split
    · next heq => simp [heq, h]
    · rfl

theorem mem_insertAll {map : SortedMap α} {entries : List (String × α)} {entry : String × α}
    (h : entry ∈ (map.insertAll entries).entries) : entry ∈ map.entries ∨ entry ∈ entries := by
  induction entries generalizing map with
  | nil => exact .inl h
  | cons first rest ih =>
    rcases @ih (map.insert first.1 first.2) h with hMap | hRest
    · rcases mem_place hMap with rfl | hBefore
      · exact .inr (List.mem_cons_self ..)
      · exact .inl hBefore
    · exact .inr (List.mem_cons_of_mem _ hRest)

theorem mem_ofList {entries : List (String × α)} {entry : String × α}
    (h : entry ∈ (ofList entries).entries) : entry ∈ entries :=
  (mem_insertAll h).resolve_left List.not_mem_nil

theorem contains_insertAll (map : SortedMap α) (entries : List (String × α)) (key : String) :
    (map.insertAll entries).contains key = (map.contains key || entries.any (·.1 = key)) := by
  induction entries generalizing map with
  | nil => exact (Bool.or_false _).symm
  | cons entry rest ih =>
    have hStep : map.insertAll (entry :: rest) = (map.insert entry.1 entry.2).insertAll rest := rfl
    rw [hStep, ih, List.any_cons, ← Bool.or_assoc, contains, contains, get?_insert]
    by_cases hKey : key = entry.1
    · simp [hKey]
    · simp [hKey, Ne.symm hKey]

theorem contains_ofList (entries : List (String × α)) (key : String) :
    (ofList entries).contains key = entries.any (·.1 = key) :=
  (contains_insertAll ∅ entries key).trans (Bool.false_or _)

theorem any_entries (map : SortedMap α) (key : String) :
    map.entries.any (·.1 = key) = map.contains key := by
  rw [contains, get?]
  induction map.entries with
  | nil => rfl
  | cons entry rest ih =>
    rw [List.any_cons, find, ih]
    split
    · next hKey => rw [decide_eq_true hKey]; rfl
    · next hKey => rw [decide_eq_false hKey, Bool.false_or]

private theorem entries_eq_of_mem_iff {xs ys : List (String × α)}
    (hx : xs.Pairwise fun a b => a.1 < b.1) (hy : ys.Pairwise fun a b => a.1 < b.1)
    (h : ∀ entry, entry ∈ xs ↔ entry ∈ ys) : xs = ys := by
  induction xs generalizing ys with
  | nil =>
    cases ys with
    | nil => rfl
    | cons y ys => exact absurd ((h y).mpr (List.mem_cons_self ..)) (List.not_mem_nil)
  | cons x xs ih =>
    cases ys with
    | nil => exact absurd ((h x).mp (List.mem_cons_self ..)) (List.not_mem_nil)
    | cons y ys =>
      obtain ⟨hxs, hx'⟩ := List.pairwise_cons.mp hx
      obtain ⟨hys, hy'⟩ := List.pairwise_cons.mp hy
      have hxy : x = y := by
        rcases List.mem_cons.mp ((h x).mp (List.mem_cons_self ..)) with h1 | h1
        · exact h1
        · rcases List.mem_cons.mp ((h y).mpr (List.mem_cons_self ..)) with h2 | h2
          · exact h2.symm
          · exact absurd (String.lt_trans (hys x h1) (hxs y h2)) (String.lt_irrefl _)
      subst hxy
      congr 1
      refine ih hx' hy' fun entry => ?_
      constructor
      · intro hm
        rcases List.mem_cons.mp ((h entry).mp (List.mem_cons_of_mem _ hm)) with rfl | hm'
        · exact absurd (hxs _ hm) (String.lt_irrefl _)
        · exact hm'
      · intro hm
        rcases List.mem_cons.mp ((h entry).mpr (List.mem_cons_of_mem _ hm)) with rfl | hm'
        · exact absurd (hys _ hm) (String.lt_irrefl _)
        · exact hm'

theorem ext_get? {a b : SortedMap α} (h : ∀ key, a.get? key = b.get? key) : a = b := by
  refine ext_entries (entries_eq_of_mem_iff a.ascending b.ascending fun entry => ?_)
  obtain ⟨key, value⟩ := entry
  rw [← get?_eq_some_iff, ← get?_eq_some_iff, h]

end SortedMap

end MarkupLayout
