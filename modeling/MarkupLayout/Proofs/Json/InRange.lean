import MarkupLayout.Json.Reader
import MarkupLayout.Proofs.Number.Finite

/-!
# Values of JSON texts

JSON has no infinity, and an integer stays an integer only if it fits 64 bits. Every value read from a
text is of this kind, since a number that overflows the doubles is refused.
-/

namespace MarkupLayout.Json

/-- Integers have 64 bits, with a sign or without, and no double is infinite or not a number. -/
inductive InRange : Json → Prop where
  | null : InRange .null
  | bool (value : Bool) : InRange (.bool value)
  | int {value : Int} (hLeast : -2 ^ 63 ≤ value) (hMost : value < 2 ^ 64) : InRange (.int value)
  | float {value : Float} (h : value.isFinite) : InRange (.float value)
  | str (value : String) : InRange (.str value)
  | arr {items : List Json} (h : ∀ item ∈ items, InRange item) : InRange (.arr items)
  | obj {members : List (String × Json)} (h : ∀ member ∈ members, InRange member.2) : InRange (.obj members)

theorem InRange.isFinite_of_number? {json : Json} (h : json.InRange) {x : Float}
    (hNumber : json.number? = some x) : x.isFinite := by
  cases h with
  | int hLeast hMost =>
    cases hNumber
    exact Number.isFinite_ofInt (by omega)
  | float hFinite =>
    cases hNumber
    exact hFinite
  | null | bool | str | arr | obj => cases hNumber

theorem absorb_lt {significand : Nat} (h : significand < wordLimit) (digits : List Char) :
    (absorb significand digits).1 < wordLimit := by
  induction digits generalizing significand with
  | nil => exact h
  | cons c digits ih =>
    rw [absorb]
    split
    · next hNext => exact ih hNext
    · exact h

theorem isFinite_scaled? {x y : Float} {exponent : Int} (hx : x.isFinite) (h : scaled? x exponent = some y) :
    y.isFinite := by
  have hGreatest : Number.atLeastTwo (1e308 : Float).toModel.unpack :=
    Number.atLeastTwo_powerOfTen (by decide) (Nat.le_refl 308)
  fun_induction scaled? x exponent with
  | case1 => exact Option.some.inj h ▸ hx
  | case2 | case3 => cases h
  | case4 x exponent hLast hFirst product hBounded =>
    have hPower := Number.isFinite_powerOfTen (by omega : exponent.toNat ≤ 308)
    exact Option.some.inj h ▸ Number.isFinite_mul hx hPower (Bool.eq_false_iff.mpr hBounded)
  | case5 x exponent hLast hNegative hFirst =>
    have hPower := Number.atLeastTwo_powerOfTen (by omega : 0 < exponent.natAbs) (by omega)
    exact Option.some.inj h ▸ Number.isFinite_div hx hPower
  | case6 => exact Option.some.inj h ▸ hx
  | case7 x exponent hLast hNegative hBelow hSome ih => exact ih (Number.isFinite_div hx hGreatest) h

theorem inRange_value? {numeral : Numeral} {json : Json} (h : numeral.value? = some json) : json.InRange := by
  have hSigned {x : Float} (hx : x.isFinite) : (if numeral.negative then -x else x).isFinite := by
    split
    · exact Number.isFinite_neg hx
    · exact hx
  have hWhole : (absorb 0 numeral.whole).1 < wordLimit := absorb_lt (by decide) numeral.whole
  rw [Numeral.value?] at h
  generalize absorb 0 numeral.whole = read at hWhole h
  obtain ⟨significand, left⟩ := read
  dsimp only at hWhole h
  rw [wordLimit] at hWhole
  split at h
  · -- an integer, unless it is negative and too large or a zero with a sign
    split at h
    · cases h
      exact .int (by omega) (by omega)
    · split at h
      · cases h
        exact .float (hSigned (Number.isFinite_ofNat hWhole))
      · cases h
        exact .int (by omega) (by omega)
  · split at h
    · split at h
      · cases h
      · cases h
        exact .float (hSigned rfl)
    · obtain ⟨x, hScaled, rfl⟩ := Option.map_eq_some_iff.mp h
      have hDigits : (absorb significand (numeral.fraction.getD [])).1 < wordLimit := absorb_lt hWhole _
      exact .float (hSigned (isFinite_scaled? (Number.isFinite_ofNat hDigits) hScaled))

mutual

theorem inRange_decode (depth : Nat) (outline : Outline) {json : Json}
    (h : outline.decode depth = some json) : json.InRange := by
  cases outline with
  | null =>
    cases h
    exact .null
  | bool value =>
    cases h
    exact .bool value
  | number numeral => exact inRange_value? h
  | text pieces =>
    obtain ⟨text, -, rfl⟩ := Option.map_eq_some_iff.mp h
    exact .str _
  | list items =>
    cases depth with
    | zero => cases h
    | succ depth =>
      obtain ⟨values, hValues, rfl⟩ := Option.map_eq_some_iff.mp h
      exact .arr (inRange_decodeItems depth items hValues)
  | record members =>
    cases depth with
    | zero => cases h
    | succ depth =>
      obtain ⟨values, hValues, rfl⟩ := Option.map_eq_some_iff.mp h
      have hMembers := inRange_decodeMembers depth members hValues
      exact .obj fun member hMember => hMembers member (SortedMap.mem_ofList hMember)

theorem inRange_decodeItems (depth : Nat) (items : List Outline) {values : List Json}
    (h : Outline.decodeItems depth items = some values) : ∀ value ∈ values, value.InRange := by
  cases items with
  | nil =>
    cases h
    exact List.forall_mem_nil _
  | cons item items =>
    rw [Outline.decodeItems] at h
    obtain ⟨value, hValue, hRest⟩ := Option.bind_eq_some_iff.mp h
    obtain ⟨others, hOthers, hAll⟩ := Option.bind_eq_some_iff.mp hRest
    cases hAll
    exact List.forall_mem_cons.mpr ⟨inRange_decode depth item hValue, inRange_decodeItems depth items hOthers⟩

theorem inRange_decodeMembers (depth : Nat) (members : List (List Piece × Outline))
    {values : List (String × Json)} (h : Outline.decodeMembers depth members = some values) :
    ∀ value ∈ values, value.2.InRange := by
  cases members with
  | nil =>
    cases h
    exact List.forall_mem_nil _
  | cons member members =>
    obtain ⟨key, item⟩ := member
    rw [Outline.decodeMembers] at h
    obtain ⟨name, -, hMember⟩ := Option.bind_eq_some_iff.mp h
    obtain ⟨value, hValue, hRest⟩ := Option.bind_eq_some_iff.mp hMember
    obtain ⟨others, hOthers, hAll⟩ := Option.bind_eq_some_iff.mp hRest
    cases hAll
    exact List.forall_mem_cons.mpr
      ⟨inRange_decode depth item hValue, inRange_decodeMembers depth members hOthers⟩

end

theorem inRange_parse? {text : String} {json : Json} (h : parse? text = some json) : json.InRange := by
  obtain ⟨outline, -, hDecode⟩ := Option.bind_eq_some_iff.mp h
  exact inRange_decode maxNesting outline hDecode

end MarkupLayout.Json
