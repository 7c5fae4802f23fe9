import MarkupLayout.Proofs.Json.InRange
import MarkupLayout.Style.Value

/-!
# Style values read back from JSON

A style value is written as JSON and read again under its key. What was read from JSON comes back as it
was, except that a zero without its sign or an integer written as such may stand for a double: the two
are equal as numbers.
-/

namespace MarkupLayout

namespace Json

theorem ofNumber_cases {x : Float} (h : x.isFinite) :
    (∃ n, ofNumber x = .int n ∧ Float.ofInt n == x) ∨ ofNumber x = .float x := by
  have hFloat : ofFloat x = .float x := if_pos h
  rw [ofNumber, hFloat]
  split
  · next n hInteger =>
    split
    · next hSmall => exact Or.inl ⟨n, rfl, Number.ofInt_beq_of_integer? hInteger (by omega)⟩
    · exact Or.inr rfl
  · exact Or.inr rfl

theorem number?_ofNumber {x : Float} (h : x.isFinite) : ∃ y, (ofNumber x).number? = some y ∧ y == x := by
  obtain ⟨n, hInt, hEqual⟩ | hFloat := ofNumber_cases h
  · exact ⟨Float.ofInt n, by rw [hInt, number?], hEqual⟩
  · exact ⟨x, by rw [hFloat, number?], Number.beq_self_of_isFinite h⟩

theorem mapM_number?_ofNumber {xs : List Float} (h : ∀ x ∈ xs, x.isFinite) :
    ∃ ys, (xs.map ofNumber).mapM number? = some ys ∧ List.Forall₂ (fun y x => y == x) ys xs := by
  induction xs with
  | nil => exact ⟨[], rfl, .nil⟩
  | cons x xs ih =>
    obtain ⟨hFirst, hOthers⟩ := List.forall_mem_cons.mp h
    obtain ⟨y, hNumber, hEqual⟩ := number?_ofNumber hFirst
    obtain ⟨ys, hNumbers, hAll⟩ := ih hOthers
    exact ⟨y :: ys, by simp [List.mapM_cons, hNumber, hNumbers], .cons hEqual hAll⟩

theorem isFinite_of_mapM_number? {items : List Json} (h : ∀ item ∈ items, item.InRange) {xs : List Float}
    (hNumbers : items.mapM number? = some xs) : ∀ x ∈ xs, x.isFinite := by
  induction items generalizing xs with
  | nil =>
    cases hNumbers
    exact List.forall_mem_nil _
  | cons item items ih =>
    obtain ⟨hFirst, hOthers⟩ := List.forall_mem_cons.mp h
    rw [List.mapM_cons] at hNumbers
    obtain ⟨x, hNumber, hRest⟩ := Option.bind_eq_some_iff.mp hNumbers
    obtain ⟨xs, hXs, hPair⟩ := Option.bind_eq_some_iff.mp hRest
    cases hPair
    exact List.forall_mem_cons.mpr ⟨hFirst.isFinite_of_number? hNumber, ih hOthers hXs⟩

theorem mapM_str? (texts : List String) : (texts.map str).mapM str? = some texts := by
  rw [List.mapM_map]
  exact List.mapM_pure.trans (congrArg some (List.map_id texts))

end Json

namespace Style.Value

variable {key : String}

/-- The same value, where numbers count as the same if they are equal as numbers. -/
def Equals : Value → Value → Prop
  | .number x, .number y => x == y
  | .edges xs, .edges ys => List.Forall₂ (fun x y => x == y) xs.toList ys.toList
  | v, w => v = w

/-- What can be read under a key: a list is no four colors of a border, and raw JSON is of no other
kind. -/
inductive Legible (key : String) : Value → Prop where
  | flag (value : Bool) : Legible key (.flag value)
  | number {value : Float} (h : value.isFinite) : Legible key (.number value)
  | text (value : String) : Legible key (.text value)
  | edges {value : Sides Float} (h : ∀ x ∈ value.toList, x.isFinite) : Legible key (.edges value)
  | sides (value : Sides Bool) : Legible key (.sides value)
  | sideColors (hKey : key = "borderColor") (value : Sides String) : Legible key (.sideColors value)
  | list {items : List String} (h : ofTexts key items = .list items) : Legible key (.list items)
  | raw {json : Json} (h : ofJson key json = .raw json) : Legible key (.raw json)

theorem legible_of_ofNumbers? {xs : List Float} (h : ∀ x ∈ xs, x.isFinite) {value : Value}
    (hValue : ofNumbers? xs = some value) : Legible key value := by
  rw [ofNumbers?.eq_def] at hValue
  split at hValue
  · cases hValue
    exact .edges h
  · next horizontal vertical =>
    cases hValue
    refine .edges fun x (hTwice : x ∈ [horizontal, vertical] ++ [horizontal, vertical]) => h x ?_
    exact or_self_iff.mp (List.mem_append.mp hTwice)
  · cases hValue

theorem legible_ofTexts (texts : List String) : Legible key (ofTexts key texts) := by
  cases hColors : Sides.ofList? texts with
  | none =>
    have hList : ofTexts key texts = .list texts := by rw [ofTexts, hColors]
    rw [hList]
    exact .list hList
  | some colors =>
    by_cases hKey : key = "borderColor"
    · have hColored : ofTexts key texts = .sideColors colors := by simp only [ofTexts, hColors, if_pos hKey]
      rw [hColored]
      exact .sideColors hKey colors
    · have hList : ofTexts key texts = .list texts := by simp only [ofTexts, hColors, if_neg hKey]
      rw [hList]
      exact .list hList

theorem legible_ofItems {items : List Json} (h : ∀ item ∈ items, item.InRange) :
    Legible key (ofItems key items) := by
  cases hNumbers : (items.mapM Json.number?).bind ofNumbers? with
  | some value =>
    obtain ⟨xs, hXs, hValue⟩ := Option.bind_eq_some_iff.mp hNumbers
    rw [ofItems, hNumbers, Option.getD_some]
    exact legible_of_ofNumbers? (Json.isFinite_of_mapM_number? h hXs) hValue
  | none =>
    cases hFlags : (items.mapM Json.bool?).bind Sides.ofList? with
    | some flags =>
      rw [ofItems, hNumbers, hFlags]
      exact .sides flags
    | none =>
      cases hTexts : items.mapM Json.str? with
      | some texts =>
        rw [ofItems, hNumbers, hFlags, hTexts]
        exact legible_ofTexts texts
      | none =>
        have hRaw : ofItems key items = .raw (.arr items) := by
          rw [ofItems, hNumbers, hFlags, hTexts]
          rfl
        rw [hRaw]
        exact .raw hRaw

theorem legible_ofJson {json : Json} (h : json.InRange) : Legible key (ofJson key json) := by
  cases h with
  | null => exact .raw rfl
  | bool value => exact .flag value
  | int hLeast hMost => exact .number (Number.isFinite_ofInt (by omega))
  | float hFinite => exact .number hFinite
  | str value => exact .text value
  | arr hItems => exact legible_ofItems hItems
  | obj => exact .raw rfl

theorem equals_ofNumber {x : Float} (h : x.isFinite) : (ofJson key (.ofNumber x)).Equals (.number x) := by
  obtain ⟨n, hInt, hEqual⟩ | hFloat := Json.ofNumber_cases h
  · rw [hInt]
    exact hEqual
  · rw [hFloat]
    exact Number.beq_self_of_isFinite h

theorem equals_ofItems_ofNumber {edges : Sides Float} (h : ∀ x ∈ edges.toList, x.isFinite) :
    (ofItems key (edges.toList.map .ofNumber)).Equals (.edges edges) := by
  obtain ⟨ys, hNumbers, hAll⟩ := Json.mapM_number?_ofNumber h
  rw [ofItems, hNumbers]
  cases hAll with | cons hLeft hAll =>
  cases hAll with | cons hTop hAll =>
  cases hAll with | cons hRight hAll =>
  cases hAll with | cons hBottom hAll =>
  cases hAll
  exact .cons hLeft (.cons hTop (.cons hRight (.cons hBottom .nil)))

theorem ofItems_str (texts : List String) : ofItems key (texts.map .str) = ofTexts key texts := by
  cases texts with
  | nil => rfl
  | cons first others =>
    have hNumbers : ((first :: others).map Json.str).mapM Json.number? = none := by
      rw [List.map_cons, List.mapM_cons]
      rfl
    have hFlags : ((first :: others).map Json.str).mapM Json.bool? = none := by
      rw [List.map_cons, List.mapM_cons]
      rfl
    rw [ofItems, hNumbers, hFlags, Json.mapM_str?]
    rfl

theorem equals_ofJson_toJson {value : Value} (h : Legible key value) :
    (ofJson key value.toJson).Equals value := by
  cases h with
  | flag value => rfl
  | number hFinite => exact equals_ofNumber hFinite
  | text value => rfl
  | edges hFinite => exact equals_ofItems_ofNumber hFinite
  | sides value => rfl
  | sideColors hKey value =>
    subst hKey
    rfl
  | list hTexts =>
    rw [toJson, Json.ofStrings, ofJson, ofItems_str, hTexts]
    rfl
  | raw hRaw =>
    rw [toJson, hRaw]
    rfl

/-- Under every key, a value that was read from JSON is written so that the same value is read again. -/
theorem ofJson_toJson_ofJson (key : String) {json : Json} (h : json.InRange) :
    (ofJson key (ofJson key json).toJson).Equals (ofJson key json) :=
  equals_ofJson_toJson (legible_ofJson h)

/-- Two numbers are written as four edges, the zero without its sign. -/
theorem ofJson_toJson_ofJson_pair :
    (ofJson "margin" (.arr [.int 4, .float (-0.0)])).toJson = .arr [.int 4, .int 0, .int 4, .int 0] ∧
      (ofJson "margin" (.arr [.int 4, .int 0, .int 4, .int 0])).Equals
        (ofJson "margin" (.arr [.int 4, .float (-0.0)])) := by
  have hWritten : (ofJson "margin" (.arr [.int 4, .float (-0.0)])).toJson =
      .arr [.int 4, .int 0, .int 4, .int 0] := by
    rfl
  have hInRange : (Json.arr [.int 4, .float (-0.0)]).InRange := by
    refine .arr (List.forall_mem_cons.mpr ⟨.int (by decide) (by decide), ?_⟩)
    exact List.forall_mem_singleton.mpr (.float rfl)
  exact ⟨hWritten, hWritten ▸ ofJson_toJson_ofJson "margin" hInRange⟩

end Style.Value

end MarkupLayout
