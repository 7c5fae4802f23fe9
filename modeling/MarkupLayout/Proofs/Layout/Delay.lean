import Mathlib.Data.List.Perm.Subperm
import MarkupLayout.Proofs.Layout.Tiling

/-!
# Rows whose fillers come late

Spans put their fillers into a row while its cells are still packed, so a filler can land behind
a cell that it belongs in front of, and never the other way round. A plan is orderly if that does
not happen: in front of a cell, everything to the left of a covered column is a cell of one column
or was covered no later. An orderly row comes out as planned; any other puts a cell into a column
that a span covers.
-/

namespace MarkupLayout.Layout

variable {Picture : Type}

/-- Whether the left one of two parts of a row lets the right one find its column. -/
def Mark.lets : Mark Picture → Mark Picture → Prop
  | _, .cell _ => True
  | .cell source, .covered _ => source.columns = 1
  | .covered left, .covered right => left.start ≤ right.start

/-- In front of each cell of the row every covered column is found. -/
def Plan.Orderly (plan : Plan Picture) : Prop :=
  ∀ before source after, plan = before ++ .cell source :: after → before.Pairwise Mark.lets

instance (left right : Mark Picture) : Decidable (left.lets right) :=
  match left, right with
  | .covered _, .cell _ | .cell _, .cell _ => inferInstanceAs (Decidable True)
  | .cell source, .covered _ => inferInstanceAs (Decidable (source.columns = 1))
  | .covered left, .covered right => inferInstanceAs (Decidable (left.start ≤ right.start))

/-- The order in which spans put their fillers into the rows below. -/
def Earlier (a b : Cover × Nat) : Prop :=
  a.1.start < b.1.start ∨ a.1.start = b.1.start ∧ a.2 < b.2

/-- A row after a filler has been put in for each of some covered columns. -/
def insertAll (covers : List (Cover × Nat)) (row : List (Slot Picture)) : List (Slot Picture) :=
  covers.foldl (fun row cover => insertFillers cover.2 1 row) row

/-- The row that is made of the cells of a plan when its covered columns are filled in time order. -/
def Plan.Made (plan : Plan Picture) (row : List (Slot Picture)) : Prop :=
  ∃ covers : List (Cover × Nat), covers.Pairwise Earlier ∧ covers.Perm (plan.covers 0) ∧
    row = insertAll covers ((sources plan.slots).map .cell)

/-- The lead of the cell at an index after fillers have been inserted at some columns. -/
def landed (index lead : Nat) (columns : List Nat) : Nat :=
  columns.foldl (fun lead column => if column ≤ index + lead then lead + 1 else lead) lead

theorem landed_cons (index lead column : Nat) (columns : List Nat) :
    landed index lead (column :: columns) =
      landed index (if column ≤ index + lead then lead + 1 else lead) columns := rfl

theorem landed_le (index lead : Nat) (columns : List Nat) :
    landed index lead columns ≤ lead + columns.length := by
  induction columns generalizing lead with
  | nil => exact Nat.le_refl lead
  | cons column columns ih =>
    rw [landed_cons, List.length_cons]
    split
    · have h := ih (lead + 1)
      omega
    · have h := ih lead
      omega

theorem getElem_le_of_landed_eq {index lead : Nat} {columns : List Nat}
    (h : landed index lead columns = lead + columns.length) (i : Nat) (hi : i < columns.length) :
    columns[i] ≤ index + lead + i := by
  induction columns generalizing lead i with
  | nil => cases hi
  | cons column columns ih =>
    rw [landed_cons, List.length_cons] at h
    split at h
    · next hLe =>
      cases i with
      | zero => exact hLe
      | succ i =>
        have hEq : landed index (lead + 1) columns = lead + 1 + columns.length := by omega
        have hRest := ih hEq i (Nat.lt_of_succ_lt_succ hi)
        rw [List.getElem_cons_succ]
        omega
    · have hBound := landed_le index lead columns
      omega

theorem landed_filter {index lead bound : Nat} {columns : List Nat}
    (hBound : index + lead + (columns.filter (· < bound)).length ≤ bound) (hNot : bound ∉ columns) :
    landed index lead columns = landed index lead (columns.filter (· < bound)) := by
  induction columns generalizing lead with
  | nil => rfl
  | cons column columns ih =>
    obtain ⟨hNe, hNot⟩ := List.ne_and_not_mem_of_not_mem_cons hNot
    by_cases hLt : column < bound
    · rw [List.filter_cons_of_pos (by simpa using hLt)] at hBound ⊢
      rw [List.length_cons] at hBound
      rw [landed_cons, landed_cons]
      refine ih ?_ hNot
      split <;> omega
    · rw [List.filter_cons_of_neg (by simpa using hLt)] at hBound ⊢
      rw [landed_cons, if_neg (by omega)]
      exact ih hBound hNot

theorem leads_insertAll (covers : List (Cover × Nat)) (row : List (Slot Picture)) :
    leads 0 (insertAll covers row) =
      (leads 0 row).mapIdx fun i lead => landed i lead (covers.map Prod.snd) := by
  induction covers generalizing row with
  | nil => exact (List.mapIdx_eq_iff.mpr fun i => by simp [landed, insertAll]).symm
  | cons cover covers ih =>
    have hStep : insertAll (cover :: covers) row = insertAll covers (insertFillers cover.2 1 row) := rfl
    rw [hStep, ih, leads_insertFillers, List.mapIdx_mapIdx]
    rfl

theorem sources_insertAll (covers : List (Cover × Nat)) (row : List (Slot Picture)) :
    sources (insertAll covers row) = sources row := by
  induction covers generalizing row with
  | nil => rfl
  | cons cover covers ih => exact (ih _).trans (sources_insertFillers ..)

theorem length_insertAll (covers : List (Cover × Nat)) (row : List (Slot Picture)) :
    (insertAll covers row).length = row.length + covers.length := by
  induction covers generalizing row with
  | nil => rfl
  | cons cover covers ih =>
    refine (ih _).trans ?_
    rw [length_insertFillers, List.length_cons, Nat.add_assoc, Nat.add_comm 1]

def Plan.width : Plan Picture → Nat
  | [] => 0
  | .covered _ :: plan => 1 + Plan.width plan
  | .cell source :: plan => source.columns + Plan.width plan

theorem covers_append (column : Nat) (left right : Plan Picture) :
    Plan.covers column (left ++ right) =
      left.covers column ++ right.covers (column + left.width) := by
  induction left generalizing column with
  | nil => rfl
  | cons mark left ih =>
    cases mark <;>
      simp only [List.cons_append, Plan.covers, Plan.width, ih, Nat.add_assoc]

theorem length_covers (column other : Nat) (plan : Plan Picture) :
    (plan.covers column).length = (plan.covers other).length := by
  rw [← List.length_map Prod.snd, ← List.length_map Prod.snd]
  induction plan generalizing column other with
  | nil => rfl
  | cons mark plan ih =>
    cases mark with
    | covered cover => exact congrArg Nat.succ (ih (column + 1) (other + 1))
    | cell source => exact ih (column + source.columns) (other + source.columns)

theorem lt_of_mem_covers {column : Nat} {plan : Plan Picture} {entry : Cover × Nat}
    (h : entry ∈ plan.covers column) : column ≤ entry.2 ∧ entry.2 < column + plan.width := by
  induction plan generalizing column with
  | nil => cases h
  | cons mark plan ih =>
    cases mark with
    | covered cover =>
      rw [Plan.width]
      rcases List.mem_cons.mp h with rfl | h
      · exact ⟨Nat.le_refl _, by omega⟩
      · have hRest := ih h
        omega
    | cell source =>
      have hRest := ih h
      rw [Plan.width]
      omega

theorem pairwise_covers (column : Nat) (plan : Plan Picture) :
    (plan.covers column).Pairwise fun a b => a.2 < b.2 := by
  induction plan generalizing column with
  | nil => exact List.Pairwise.nil
  | cons mark plan ih =>
    cases mark with
    | covered cover => exact List.pairwise_cons.mpr ⟨fun entry h => (lt_of_mem_covers h).1, ih _⟩
    | cell source => exact ih _

theorem length_add_length_le_width (plan : Plan Picture) :
    (sources plan.slots).length + (plan.covers 0).length ≤ plan.width := by
  induction plan with
  | nil => exact Nat.le_refl 0
  | cons mark plan ih =>
    cases mark with
    | covered cover =>
      have hLength := length_covers (0 + 1) 0 plan
      rw [slots_covered, sources, Plan.covers, List.length_cons, Plan.width]
      omega
    | cell source =>
      have hLength := length_covers (0 + source.columns) 0 plan
      have hOne := one_le_columns source
      rw [slots_cell, sources, Plan.covers, List.length_cons, Plan.width]
      omega

theorem columns_eq_one_of_width_le {plan : Plan Picture} {source : Node Picture}
    (hWidth : plan.width ≤ (sources plan.slots).length + (plan.covers 0).length)
    (h : .cell source ∈ plan) : source.columns = 1 := by
  induction plan with
  | nil => cases h
  | cons mark plan ih =>
    have hRest := length_add_length_le_width plan
    cases mark with
    | covered cover =>
      rw [slots_covered, sources, Plan.covers, List.length_cons, Plan.width,
        length_covers (0 + 1) 0] at hWidth
      rcases List.mem_cons.mp h with h | h
      · cases h
      · exact ih (by omega) h
    | cell first =>
      rw [slots_cell, sources, Plan.covers, List.length_cons, Plan.width,
        length_covers (0 + first.columns) 0] at hWidth
      have hOne := one_le_columns first
      rcases List.mem_cons.mp h with h | h
      · obtain rfl := Mark.cell.inj h
        omega
      · exact ih (by omega) h

theorem exists_covers_of_mem {column : Nat} {plan : Plan Picture} {cover : Cover}
    (h : .covered cover ∈ plan) : ∃ position, (cover, position) ∈ plan.covers column := by
  induction plan generalizing column with
  | nil => cases h
  | cons mark plan ih =>
    cases mark with
    | covered first =>
      rcases List.mem_cons.mp h with h | h
      · obtain rfl := Mark.covered.inj h
        exact ⟨column, List.mem_cons_self⟩
      · obtain ⟨position, hPosition⟩ := ih h
        exact ⟨position, List.mem_cons_of_mem _ hPosition⟩
    | cell source =>
      rcases List.mem_cons.mp h with h | h
      · cases h
      · exact ih h

theorem covered_mem_of_mem_covers {column : Nat} {plan : Plan Picture} {entry : Cover × Nat}
    (h : entry ∈ plan.covers column) : .covered entry.1 ∈ plan := by
  induction plan generalizing column with
  | nil => cases h
  | cons mark plan ih =>
    cases mark with
    | covered cover =>
      rcases List.mem_cons.mp h with rfl | h
      · exact List.mem_cons_self
      · exact List.mem_cons_of_mem _ (ih h)
    | cell source => exact List.mem_cons_of_mem _ (ih h)

theorem filter_covers (before : Plan Picture) (source : Node Picture) (after : Plan Picture) :
    (Plan.covers 0 (before ++ .cell source :: after)).filter (·.2 < before.width) =
      before.covers 0 := by
  have hLeft : (before.covers 0).filter (·.2 < before.width) = before.covers 0 :=
    List.filter_eq_self.mpr fun entry h => by
      have hLt := (lt_of_mem_covers h).2
      rw [Nat.zero_add] at hLt
      exact decide_eq_true hLt
  have hRight : (Plan.covers (0 + before.width) (.cell source :: after)).filter
      (·.2 < before.width) = [] :=
    List.filter_eq_nil_iff.mpr fun entry h => by
      have hLe := (lt_of_mem_covers h).1
      rw [decide_eq_true_iff]
      omega
  rw [covers_append, List.filter_append, hLeft, hRight, List.append_nil]

theorem width_not_mem_covers (before : Plan Picture) (source : Node Picture)
    (after : Plan Picture) :
    before.width ∉ (Plan.covers 0 (before ++ .cell source :: after)).map Prod.snd := by
  intro h
  obtain ⟨entry, hEntry, hWidth⟩ := List.mem_map.mp h
  rw [covers_append, Plan.covers] at hEntry
  have hOne := one_le_columns source
  rcases List.mem_append.mp hEntry with hEntry | hEntry
  · have hLt := (lt_of_mem_covers hEntry).2
    omega
  · have hLe : 0 + before.width + source.columns ≤ entry.2 := (lt_of_mem_covers hEntry).1
    omega

theorem forall₂_leads_iff {R : Nat → Nat → Prop} (f : Nat → Nat) (count : Nat)
    (plan : Plan Picture) :
    List.Forall₂ R ((sources plan.slots).mapIdx fun i _ => f i) (leads count plan.slots) ↔
      ∀ (before : Plan Picture) source after, plan = before ++ .cell source :: after →
        R (f (sources before.slots).length) (count + (before.covers 0).length) := by
  induction plan generalizing f count with
  | nil => exact ⟨fun _ before source after h => (by simp at h), fun _ => List.Forall₂.nil⟩
  | cons mark plan ih =>
    cases mark with
    | covered cover =>
      rw [slots_covered, sources, leads, ih]
      constructor
      · rintro h (_ | ⟨mark, before⟩) source after hPlan
        · cases hPlan
        · obtain ⟨rfl, rfl⟩ := List.cons.inj hPlan
          have hBefore := h before source after rfl
          rw [slots_covered, sources, Plan.covers, List.length_cons, length_covers (0 + 1) 0]
          rwa [Nat.add_right_comm] at hBefore
      · intro h before source after hPlan
        have hBefore := h (.covered cover :: before) source after (congrArg _ hPlan)
        rw [slots_covered, sources, Plan.covers, List.length_cons, length_covers (0 + 1) 0] at hBefore
        rwa [Nat.add_right_comm]
    | cell first =>
      rw [slots_cell, sources, leads, List.mapIdx_cons, List.forall₂_cons, ih fun i => f (i + 1)]
      constructor
      · rintro ⟨hFirst, h⟩ (_ | ⟨mark, before⟩) source after hPlan
        · exact hFirst
        · obtain ⟨rfl, rfl⟩ := List.cons.inj hPlan
          have hBefore := h before source after rfl
          rwa [slots_cell, sources, Plan.covers, List.length_cons, length_covers (0 + first.columns) 0]
      · intro h
        refine ⟨h [] first plan rfl, fun before source after hPlan => ?_⟩
        have hBefore := h (.cell first :: before) source after (congrArg _ hPlan)
        rwa [slots_cell, sources, Plan.covers, List.length_cons,
          length_covers (0 + first.columns) 0] at hBefore

theorem earlier_antisymm {a b : Cover × Nat} (hab : Earlier a b) (hba : Earlier b a) : a = b := by
  unfold Earlier at hab hba
  omega

theorem start_le_of_earlier {a b : Cover × Nat} (h : Earlier a b) : a.1.start ≤ b.1.start := by
  unfold Earlier at h
  omega

theorem nodup_of_pairwise_earlier {covers : List (Cover × Nat)} (h : covers.Pairwise Earlier) :
    covers.Nodup :=
  h.imp fun {a b} hab => by
    rintro rfl
    unfold Earlier at hab
    omega

theorem Plan.orderly_of_pairwise {plan : Plan Picture} (h : plan.Pairwise Mark.lets) : plan.Orderly := by
  rintro before source after rfl
  exact (List.pairwise_append.mp h).1

theorem Plan.Orderly.append_covered {plan : Plan Picture} (h : plan.Orderly) (cover : Cover) :
    Plan.Orderly (plan ++ [.covered cover]) := by
  intro before source after hPlan
  rcases List.eq_nil_or_concat after with rfl | ⟨rest, last, rfl⟩
  · cases (List.append_inj' hPlan rfl).2
  · rw [List.concat_eq_append, ← List.cons_append, ← List.append_assoc] at hPlan
    exact h before source rest (List.append_inj' hPlan rfl).1

theorem pairwise_earlier_covers {plan : Plan Picture} (h : plan.Pairwise Mark.lets) (column : Nat) :
    (plan.covers column).Pairwise Earlier := by
  induction plan generalizing column with
  | nil => exact List.Pairwise.nil
  | cons mark plan ih =>
    obtain ⟨hMark, hPlan⟩ := List.pairwise_cons.mp h
    cases mark with
    | covered cover =>
      refine List.pairwise_cons.mpr ⟨fun entry hEntry => ?_, ih hPlan _⟩
      have hLe : cover.start ≤ entry.1.start := hMark _ (covered_mem_of_mem_covers hEntry)
      have hLt : column + 1 ≤ entry.2 := (lt_of_mem_covers hEntry).1
      rcases Nat.lt_or_eq_of_le hLe with hStart | hStart
      · exact .inl hStart
      · exact .inr ⟨hStart, hLt⟩
    | cell source => exact ih hPlan _

theorem landed_covers {plan : Plan Picture} (h : plan.Pairwise Mark.lets)
    {index lead cells column : Nat} (hColumn : column ≤ cells + lead)
    (hIndex : cells + (sources plan.slots).length ≤ index) :
    landed index lead ((plan.covers column).map Prod.snd) = lead + (plan.covers column).length := by
  induction plan generalizing lead cells column with
  | nil => rfl
  | cons mark plan ih =>
    obtain ⟨hMark, hPlan⟩ := List.pairwise_cons.mp h
    cases mark with
    | covered cover =>
      rw [slots_covered, sources] at hIndex
      rw [Plan.covers, List.map_cons, landed_cons, if_pos (by omega), List.length_cons,
        ih hPlan (by omega) hIndex]
      omega
    | cell source =>
      rw [slots_cell, sources, List.length_cons] at hIndex
      rw [Plan.covers]
      rcases hCovers : Plan.covers (column + source.columns) plan with _ | ⟨entry, covers⟩
      · rfl
      · have hColumns : source.columns = 1 :=
          hMark _ (covered_mem_of_mem_covers (hCovers ▸ List.mem_cons_self))
        have hNext : column + source.columns ≤ cells + 1 + lead := by omega
        rw [← hCovers]
        exact ih hPlan hNext (by omega)

theorem exists_append_covered (plan : Plan Picture) :
    ∃ front back : Plan Picture, plan = front ++ back ∧ (∀ mark ∈ back, ∃ cover, mark = .covered cover) ∧
      (front = [] ∨ ∃ before source, front = before ++ [.cell source]) := by
  induction plan with
  | nil => exact ⟨[], [], rfl, fun _ h => absurd h List.not_mem_nil, .inl rfl⟩
  | cons mark plan ih =>
    obtain ⟨front, back, rfl, hBack, rfl | ⟨before, source, rfl⟩⟩ := ih
    · cases mark with
      | covered cover =>
        refine ⟨[], .covered cover :: back, rfl, fun mark hMark => ?_, .inl rfl⟩
        rcases List.mem_cons.mp hMark with rfl | hMark
        · exact ⟨cover, rfl⟩
        · exact hBack mark hMark
      | cell source => exact ⟨[.cell source], back, rfl, hBack, .inr ⟨[], source, rfl⟩⟩
    · exact ⟨mark :: before ++ [.cell source], back, rfl, hBack, .inr ⟨mark :: before, source, rfl⟩⟩

theorem map_covers_of_covered {plan : Plan Picture}
    (h : ∀ mark ∈ plan, ∃ cover, mark = .covered cover) (column : Nat) :
    (plan.covers column).map (fun entry => Mark.covered entry.1) = plan := by
  induction plan generalizing column with
  | nil => rfl
  | cons mark plan ih =>
    obtain ⟨cover, rfl⟩ := h mark List.mem_cons_self
    rw [Plan.covers, List.map_cons, ih fun mark hMark => h mark (List.mem_cons_of_mem _ hMark)]

theorem sources_append_of_covered (front : Plan Picture) {back : Plan Picture}
    (h : ∀ mark ∈ back, ∃ cover, mark = .covered cover) :
    sources (Plan.slots (front ++ back)) = sources front.slots := by
  induction front with
  | nil =>
    induction back with
    | nil => rfl
    | cons mark back ih =>
      obtain ⟨cover, rfl⟩ := h mark List.mem_cons_self
      exact ih fun mark hMark => h mark (List.mem_cons_of_mem _ hMark)
  | cons mark front ih =>
    cases mark with
    | covered cover => exact ih
    | cell source => exact congrArg (source :: ·) ih

theorem eq_covers_of_perm {plan : Plan Picture}
    (hPlan : ∀ mark ∈ plan, ∃ cover, mark = .covered cover) {column : Nat}
    {covers : List (Cover × Nat)} (hPerm : covers.Perm (plan.covers column))
    (hLe : ∀ (i : Nat) (hi : i < covers.length), covers[i].2 ≤ column + i) :
    covers = plan.covers column := by
  induction plan generalizing column covers with
  | nil => exact hPerm.eq_nil
  | cons mark plan ih =>
    obtain ⟨cover, rfl⟩ := hPlan mark List.mem_cons_self
    rw [Plan.covers] at hPerm ⊢
    cases covers with
    | nil => exact absurd hPerm.length_eq (by simp)
    | cons first covers =>
      have hFirst : first = (cover, column) := by
        rcases List.mem_cons.mp (hPerm.subset List.mem_cons_self) with rfl | hMem
        · rfl
        · have hLt : column + 1 ≤ first.2 := (lt_of_mem_covers hMem).1
          have hFirstLe : first.2 ≤ column + 0 := hLe 0 (Nat.succ_pos _)
          omega
      subst hFirst
      rw [ih (fun mark hMark => hPlan mark (List.mem_cons_of_mem _ hMark)) hPerm.cons_inv
        fun i hi => by
          have hNext := hLe (i + 1) (Nat.succ_lt_succ hi)
          rw [List.getElem_cons_succ] at hNext
          omega]

theorem exists_append_of_landed {front back : Plan Picture}
    (hBack : ∀ mark ∈ back, ∃ cover, mark = .covered cover) {covers : List (Cover × Nat)}
    (hNodup : covers.Nodup) (hPerm : covers.Perm (Plan.covers 0 (front ++ back)))
    (hLe : ∀ (i : Nat) (hi : i < covers.length),
      covers[i].2 ≤ (sources front.slots).length + i) :
    ∃ first : List (Cover × Nat), covers = first ++ back.covers front.width ∧
      first.Perm (front.covers 0) ∧ (back ≠ [] →
        front.width ≤ (sources front.slots).length + (front.covers 0).length) := by
  have hWidth := length_add_length_le_width front
  rw [covers_append, Nat.zero_add] at hPerm
  have hLength := hPerm.length_eq
  rw [List.length_append] at hLength
  have hFirst : (covers.take (front.covers 0).length).Perm (front.covers 0) := by
    refine (List.subperm_of_subset (hNodup.sublist (List.take_sublist _ _)) ?_).perm_of_length_le ?_
    · intro entry hEntry
      obtain ⟨i, hi, rfl⟩ := List.getElem_of_mem hEntry
      rw [List.length_take] at hi
      rw [List.getElem_take] at hEntry ⊢
      have hBound := hLe i (by omega)
      apply (List.mem_append.mp (hPerm.subset (List.getElem_mem (by omega)))).resolve_right
      intro h
      have hGe := (lt_of_mem_covers h).1
      omega
    · rw [List.length_take]
      omega
  have hSplit := List.take_append_drop (front.covers 0).length covers
  have hRest : (covers.drop (front.covers 0).length).Perm (back.covers front.width) := by
    rw [← hSplit] at hPerm
    exact (List.perm_append_left_iff _).mp (((hFirst.append_right _).symm).trans hPerm)
  have hAt (i : Nat) (hi : i < (covers.drop (front.covers 0).length).length) :
      (covers.drop (front.covers 0).length)[i].2 ≤
        (sources front.slots).length + (front.covers 0).length + i := by
    have hBound := hLe ((front.covers 0).length + i) (by rw [List.length_drop] at hi; omega)
    rw [List.getElem_drop]
    omega
  have hEq := eq_covers_of_perm hBack hRest fun i hi => Nat.le_trans (hAt i hi) (by omega)
  refine ⟨_, by rw [← hEq, hSplit], hFirst, fun hNe => ?_⟩
  obtain ⟨mark, back, rfl⟩ := List.exists_cons_of_ne_nil hNe
  obtain ⟨cover, rfl⟩ := hBack mark List.mem_cons_self
  have hHead := hAt 0 (by rw [hEq]; exact Nat.succ_pos _)
  simp only [hEq, Plan.covers, List.getElem_cons_zero] at hHead
  omega

theorem pairwise_lets_of_append {front back : Plan Picture} (hFront : front.Pairwise Mark.lets)
    (hBack : ∀ mark ∈ back, ∃ cover, mark = .covered cover) {first : List (Cover × Nat)}
    (hSorted : (first ++ back.covers front.width).Pairwise Earlier)
    (hFirst : first.Perm (front.covers 0))
    (hWidth : back ≠ [] → front.width ≤ (sources front.slots).length + (front.covers 0).length) :
    (front ++ back).Pairwise Mark.lets := by
  obtain ⟨-, hCovers, hAcross⟩ := List.pairwise_append.mp hSorted
  refine List.pairwise_append.mpr ⟨hFront, ?_, fun left hLeft right hRight => ?_⟩
  · rw [← map_covers_of_covered hBack front.width, List.pairwise_map]
    exact hCovers.imp start_le_of_earlier
  · obtain ⟨cover, rfl⟩ := hBack right hRight
    cases left with
    | covered other =>
      obtain ⟨column, hOther⟩ := exists_covers_of_mem hLeft
      obtain ⟨position, hCover⟩ := exists_covers_of_mem hRight
      exact start_le_of_earlier (hAcross _ (hFirst.symm.subset hOther) _ hCover)
    | cell source =>
      exact columns_eq_one_of_width_le (hWidth (List.ne_nil_of_mem hRight)) hLeft

section Made

variable {plan : Plan Picture} {covers : List (Cover × Nat)}

theorem perm_filter_covers (hPerm : covers.Perm (plan.covers 0)) {before after : Plan Picture}
    {source : Node Picture} (hPlan : plan = before ++ .cell source :: after) :
    (covers.filter (·.2 < before.width)).Perm (before.covers 0) := by
  have h := hPerm.filter (·.2 < before.width)
  rwa [hPlan, filter_covers] at h

theorem landed_eq_landed_filter (hPerm : covers.Perm (plan.covers 0)) {before after : Plan Picture}
    {source : Node Picture} (hPlan : plan = before ++ .cell source :: after) :
    landed (sources before.slots).length 0 (covers.map Prod.snd) =
      landed (sources before.slots).length 0
        ((covers.filter (·.2 < before.width)).map Prod.snd) := by
  have hMap : (covers.map Prod.snd).filter (· < before.width) =
      (covers.filter (·.2 < before.width)).map Prod.snd := List.filter_map
  have hLength := (perm_filter_covers hPerm hPlan).length_eq
  have hWidth := length_add_length_le_width before
  rw [← hMap]
  apply landed_filter
  · rw [hMap, List.length_map, hLength]
    omega
  · intro h
    have hMem := (hPerm.map Prod.snd).subset h
    rw [hPlan] at hMem
    exact width_not_mem_covers before source after hMem

/-- Every filler comes in time exactly for the cells of an orderly plan. -/
theorem landed_eq_iff_orderly (hSorted : covers.Pairwise Earlier)
    (hPerm : covers.Perm (plan.covers 0)) :
    (∀ (before : Plan Picture) source after, plan = before ++ .cell source :: after →
      landed (sources before.slots).length 0 (covers.map Prod.snd) = (before.covers 0).length) ↔
      plan.Orderly := by
  constructor
  · intro h before
    induction hLength : before.length using Nat.strongRecOn generalizing before with
    | ind length ih =>
      intro source after hPlan
      obtain ⟨front, back, rfl, hBack, hFront⟩ := exists_append_covered before
      have hPairwise : front.Pairwise Mark.lets := by
        rcases hFront with rfl | ⟨start, last, rfl⟩
        · exact List.Pairwise.nil
        · refine List.pairwise_append.mpr ⟨?_, List.pairwise_singleton _ _, fun left _ right hRight => ?_⟩
          · refine ih start.length ?_ start rfl last (back ++ .cell source :: after) ?_
            · rw [← hLength, List.length_append, List.length_append, List.length_singleton]
              omega
            · rw [hPlan, List.append_assoc, List.append_assoc, List.singleton_append]
          · rw [List.mem_singleton.mp hRight]
            cases left <;> trivial
      have hLeft := perm_filter_covers hPerm hPlan
      have hLanded := h _ source after hPlan
      rw [landed_eq_landed_filter hPerm hPlan, ← hLeft.length_eq, ← List.length_map Prod.snd] at hLanded
      have hSources := sources_append_of_covered front hBack
      have hSortedLeft := hSorted.filter (·.2 < Plan.width (front ++ back))
      obtain ⟨first, hEq, hFirst, hWidth⟩ := exists_append_of_landed hBack
        (nodup_of_pairwise_earlier hSortedLeft) hLeft fun i hi => by
          have hLe := getElem_le_of_landed_eq (hLanded.trans (Nat.zero_add _).symm) i
            (by rwa [List.length_map])
          rwa [List.getElem_map, hSources, Nat.add_zero] at hLe
      exact pairwise_lets_of_append hPairwise hBack (hEq ▸ hSortedLeft) hFirst hWidth
  · intro h before source after hPlan
    have hPairwise := h before source after hPlan
    have hEq : covers.filter (·.2 < before.width) = before.covers 0 :=
      (perm_filter_covers hPerm hPlan).eq_of_pairwise (fun _ _ _ _ => earlier_antisymm)
        (hSorted.filter _) (pairwise_earlier_covers hPairwise 0)
    rw [landed_eq_landed_filter hPerm hPlan, hEq, landed_covers hPairwise (Nat.zero_le _)
      (Nat.le_of_eq (Nat.zero_add _)), Nat.zero_add]

theorem leads_insertAll_cells (covers : List (Cover × Nat)) (cells : List (Node Picture)) :
    leads 0 (insertAll covers (cells.map .cell)) =
      cells.mapIdx fun i _ => landed i 0 (covers.map Prod.snd) := by
  rw [leads_insertAll, leads_map_cell, List.mapIdx_mapIdx]
  rfl

theorem length_slots (plan : Plan Picture) :
    plan.slots.length = (sources plan.slots).length + (plan.covers 0).length := by
  induction plan with
  | nil => rfl
  | cons mark plan ih =>
    cases mark with
    | covered cover =>
      rw [slots_covered, sources, Plan.covers, List.length_cons, List.length_cons, ih,
        length_covers (0 + 1) 0, Nat.add_assoc]
    | cell source =>
      rw [slots_cell, sources, Plan.covers, List.length_cons, List.length_cons, ih,
        length_covers (0 + source.columns) 0, Nat.add_right_comm]

theorem Plan.Made.leads_le {row : List (Slot Picture)} (h : plan.Made row) :
    List.Forall₂ (· ≤ ·) (leads 0 row) (leads 0 plan.slots) := by
  obtain ⟨covers, -, hPerm, rfl⟩ := h
  rw [leads_insertAll_cells]
  refine (forall₂_leads_iff (fun i => landed i 0 (covers.map Prod.snd)) 0 plan).mpr
    fun before source after hPlan => ?_
  have hBound := landed_le (sources before.slots).length 0
    ((covers.filter (·.2 < before.width)).map Prod.snd)
  rw [List.length_map, (perm_filter_covers hPerm hPlan).length_eq,
    ← landed_eq_landed_filter hPerm hPlan] at hBound
  exact hBound

theorem Plan.Made.leads_eq_iff {row : List (Slot Picture)} (h : plan.Made row) :
    leads 0 row = leads 0 plan.slots ↔ plan.Orderly := by
  obtain ⟨covers, hSorted, hPerm, rfl⟩ := h
  rw [leads_insertAll_cells, ← landed_eq_iff_orderly hSorted hPerm, ← List.forall₂_eq_eq_eq]
  simpa only [Nat.zero_add] using
    forall₂_leads_iff (R := (· = ·)) (fun i => landed i 0 (covers.map Prod.snd)) 0 plan

/-- A row comes out as planned, or some cell of it stands in a covered column. -/
theorem Plan.Made.eq_slots_or_buried {row : List (Slot Picture)} (h : plan.Made row) :
    plan.Orderly ∧ row = plan.slots ∨ ¬plan.Orderly ∧
      ∃ position source, (position, source) ∈ spots 0 row ∧ position ∈ gaps 0 plan.slots := by
  have hSources : sources row = sources plan.slots := by
    obtain ⟨covers, -, -, rfl⟩ := h
    rw [sources_insertAll, sources_map_cell]
  have hLength : row.length = plan.slots.length := by
    obtain ⟨covers, -, hPerm, rfl⟩ := h
    rw [length_insertAll, List.length_map, hPerm.length_eq, length_slots]
  rcases eq_or_spot_in_gap 0 0 hSources hLength h.leads_le with hEq | ⟨hNe, hSpot⟩
  · exact .inl ⟨h.leads_eq_iff.mp (congrArg (leads 0) hEq), hEq⟩
  · exact .inr ⟨fun hOrderly => hNe (h.leads_eq_iff.mpr hOrderly), hSpot⟩

end Made

end MarkupLayout.Layout
