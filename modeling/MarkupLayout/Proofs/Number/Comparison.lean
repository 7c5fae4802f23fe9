import Mathlib
import MarkupLayout.Number.Exact

/-!
# The order of the doubles

Doubles that are numbers are compared by their place in a linear order, where both zeros have one place.
So the larger of two, taken along a list, is a largest one of the list.
-/

namespace MarkupLayout.Number

open Float.Model Float.Model.UnpackedFloat

/-- Negative doubles come first and positive ones last; those of one sign go by exponent, then by
significand. -/
def rank : UnpackedFloat → ℤ ×ₗ ℤ ×ₗ ℤ
  | .infinity sign => toLex (sign.apply 2, toLex (0, 0))
  | .finite sign significand exponent _ =>
    toLex (sign.apply 1, toLex (sign.apply exponent, sign.apply significand))
  | _ => toLex (0, toLex (0, 0))

theorem compare_sign (s t : Sign) : compare s t = compare (s.apply 1) (t.apply 1) := by
  cases s <;> cases t <;> rfl

theorem unpacked_le_iff (a b : UnpackedFloat) :
    a.le b ↔ a.isNaN = false ∧ b.isNaN = false ∧ rank a ≤ rank b := by
  rcases a with (_ | _) | _ | _ | ⟨_ | _, m, e, h⟩ <;>
    rcases b with (_ | _) | _ | _ | ⟨_ | _, m', e', h'⟩ <;>
    simp [UnpackedFloat.le, UnpackedFloat.compare, UnpackedFloat.isNaN, rank, Prod.Lex.toLex_le_toLex,
      Sign.apply, compare_sign, Ordering.isLE_iff_ne_gt, Ordering.isGE_iff_ne_lt, Ordering.then_eq_lt,
      Ordering.then_eq_gt, compare_gt_iff_gt, compare_lt_iff_lt]
  all_goals omega

theorem unpacked_lt_iff (a b : UnpackedFloat) :
    a.lt b ↔ a.isNaN = false ∧ b.isNaN = false ∧ rank a < rank b := by
  rcases a with (_ | _) | _ | _ | ⟨_ | _, m, e, h⟩ <;>
    rcases b with (_ | _) | _ | _ | ⟨_ | _, m', e', h'⟩ <;>
    simp [UnpackedFloat.lt, UnpackedFloat.compare, UnpackedFloat.isNaN, rank, Prod.Lex.toLex_lt_toLex,
      Sign.apply, compare_sign, Ordering.then_eq_lt, Ordering.swap_then, compare_gt_iff_gt,
      compare_lt_iff_lt]

section Double

variable {x y z : Float}

def place (x : Float) : ℤ ×ₗ ℤ ×ₗ ℤ :=
  rank x.toModel.unpack

theorem le_iff : x ≤ y ↔ x.isNaN = false ∧ y.isNaN = false ∧ place x ≤ place y :=
  decide_eq_true_iff.trans (unpacked_le_iff _ _)

theorem lt_iff : x < y ↔ x.isNaN = false ∧ y.isNaN = false ∧ place x < place y :=
  decide_eq_true_iff.trans (unpacked_lt_iff _ _)

theorem le_self (h : x.isNaN = false) : x ≤ x :=
  le_iff.mpr ⟨h, h, le_refl _⟩

theorem le_of_le_of_lt (hFirst : x ≤ y) (hSecond : y < z) : x ≤ z := by
  obtain ⟨hNumber, -, hPlace⟩ := le_iff.mp hFirst
  obtain ⟨-, hLast, hLess⟩ := lt_iff.mp hSecond
  exact le_iff.mpr ⟨hNumber, hLast, hPlace.trans hLess.le⟩

theorem lt_trans (hFirst : x < y) (hSecond : y < z) : x < z := by
  obtain ⟨hNumber, -, hPlace⟩ := lt_iff.mp hFirst
  obtain ⟨-, hLast, hLess⟩ := lt_iff.mp hSecond
  exact lt_iff.mpr ⟨hNumber, hLast, hPlace.trans hLess⟩

theorem lt_of_not_le (hx : x.isNaN = false) (hy : y.isNaN = false) (h : ¬y ≤ x) : x < y := by
  refine lt_iff.mpr ⟨hx, hy, not_le.mp fun hPlace => ?_⟩
  exact h (le_iff.mpr ⟨hy, hx, hPlace⟩)

theorem le_of_not_lt (hx : x.isNaN = false) (hy : y.isNaN = false) (h : ¬x < y) : y ≤ x := by
  refine le_iff.mpr ⟨hy, hx, not_lt.mp fun hPlace => ?_⟩
  exact h (lt_iff.mpr ⟨hx, hy, hPlace⟩)

end Double

instance instTransLt : Trans (α := Float) (· < ·) (· < ·) (· < ·) where
  trans := lt_trans

/-- A member that no member exceeds; values that are not a number count only if there are no others. -/
structure Largest (sizes : List Float) (size : Float) : Prop where
  mem : size ∈ sizes
  le : ∀ other ∈ sizes, other.isNaN = false → other ≤ size

theorem largest_singleton (size : Float) : Largest [size] size where
  mem := List.mem_singleton_self size
  le _ hOther hNumber := List.mem_singleton.mp hOther ▸ le_self hNumber

theorem Largest.larger {sizes : List Float} {size : Float} (h : Largest sizes size) (next : Float) :
    Largest (sizes ++ [next]) (larger size next) := by
  have hNext : next ∈ sizes ++ [next] := List.mem_append_right _ (List.mem_singleton_self next)
  have hBefore (other : Float) (hOther : other ∈ sizes ++ [next]) : other ∈ sizes ∨ other = next :=
    (List.mem_append.mp hOther).imp_right List.mem_singleton.mp
  rw [Number.larger]
  split
  · next hNone =>
    refine ⟨hNext, fun other hOther hNumber => ?_⟩
    rcases hBefore other hOther with hOther | rfl
    · have hSize := (le_iff.mp (h.le other hOther hNumber)).2.1
      rw [hSize] at hNone
      cases hNone
    · exact le_self hNumber
  · next hSome =>
    split
    · next hLess =>
      refine ⟨hNext, fun other hOther hNumber => ?_⟩
      rcases hBefore other hOther with hOther | rfl
      · exact le_of_le_of_lt (h.le other hOther hNumber) hLess
      · exact le_self hNumber
    · next hLess =>
      refine ⟨List.mem_append_left _ h.mem, fun other hOther hNumber => ?_⟩
      rcases hBefore other hOther with hOther | rfl
      · exact h.le other hOther hNumber
      · exact le_of_not_lt (Bool.eq_false_iff.mpr hSome) hNumber hLess

theorem largest_foldl_larger (first : Float) (rest : List Float) :
    Largest (first :: rest) (rest.foldl larger first) := by
  induction rest using List.reverseRecOn with
  | nil => exact largest_singleton first
  | append_singleton rest next ih =>
    rw [List.foldl_append, List.foldl_cons, List.foldl_nil, ← List.cons_append]
    exact ih.larger next

end MarkupLayout.Number
