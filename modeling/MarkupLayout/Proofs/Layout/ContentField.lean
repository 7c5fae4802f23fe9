import MarkupLayout.Layout.Json
import MarkupLayout.Proofs.Layout.LinesInRuns

/-!
# The content field of a node

Each body has a key of its own in the JSON of a node. The keys of the style share the object with it, so
the key of the body is the only one that holds content exactly if the style names no other such key.
-/

namespace MarkupLayout

def Json.has : Json → String → Bool
  | .obj members, key => members.any (·.1 = key)
  | _, _ => false

namespace Layout

variable {Picture Other : Type}

/-- The keys under which nodes hold their content. -/
def contentFields : List String :=
  ["text", "stack", "table", "ul", "ol", "image", "canvas", "svg"]

def Body.field : Body Picture → String
  | .text _ => "text"
  | .inline _ => "text"
  | .stack _ => "stack"
  | .table .. => "table"
  | .list ordered _ _ => if ordered then "ol" else "ul"
  | .picture _ => "image"
  | .line _ => "canvas"
  | .drawing _ => "svg"

/-- The content fields that the JSON of a node has. -/
def Node.fields (n : Node String) : List String :=
  contentFields.filter n.toJson.has

/-- The style of a node names no content field but the one of its body. -/
def Node.Undoubled (n : Node Picture) : Prop :=
  ∀ key ∈ contentFields, key ≠ n.body.field → n.frame.style.get? key = none

theorem Body.field_mem (body : Body Picture) : body.field ∈ contentFields := by
  cases body with
  | list ordered => cases ordered <;> exact of_decide_eq_true rfl
  | _ => exact of_decide_eq_true rfl

theorem filter_contentFields : ∀ field ∈ contentFields, contentFields.filter (· = field) = [field] := by
  decide

theorem fst_of_mem_entryOf {α : Type} {key : String} {part : Option α} {toJson : α → Json}
    {entry : String × Json} (h : entry ∈ entryOf key part toJson) : entry.1 = key := by
  cases part with
  | none => cases h
  | some value => rw [List.mem_singleton.mp h]

section Fields

variable {n : Node String} {key : String}

theorem Body.any_entries (body : Body String) (hKey : key ∈ contentFields) :
    body.entries.any (·.1 = key) = decide (key = body.field) := by
  cases body with
  | list ordered items marker =>
    have hType : (entryOf "type" marker Json.str).any (·.1 = key) = false := by
      rw [List.any_eq_false]
      intro entry hEntry
      rw [fst_of_mem_entryOf hEntry, decide_eq_true_iff]
      rintro rfl
      exact absurd hKey (by decide)
    rw [entries, List.any_cons, hType, Bool.or_false]
    exact decide_eq_decide.mpr eq_comm
  | _ =>
    rw [entries, List.any_cons, List.any_nil, Bool.or_false]
    exact decide_eq_decide.mpr eq_comm

def frameKeys : List String :=
  ["nodeName", "style", "link", "sub", "sup", "rowSpan", "colSpan", "layout"]

theorem fst_mem_frameKeys {frame : Frame} (hOverrides : frame.overrides = ∅) {entry : String × Json}
    (h : entry ∈ frame.entries) : entry.1 ∈ frameKeys := by
  rw [Frame.entries, hOverrides] at h
  simp only [List.mem_append] at h
  rcases h with ((((((h | h) | h) | h) | h) | h) | h) | h
  case inl.inl.inl.inl.inr =>
    obtain ⟨script, -, rfl⟩ := List.mem_map.mp h
    cases script <;> decide
  case inr => cases h
  all_goals
    rw [fst_of_mem_entryOf h]
    decide

theorem frameKeys_apart : ∀ name ∈ frameKeys, name ∉ contentFields := by
  decide

theorem Node.has_toJson (hOverrides : n.frame.overrides = ∅) (hKey : key ∈ contentFields) :
    n.toJson.has key = (n.frame.style.contains key || decide (key = n.body.field)) := by
  obtain ⟨frame, body⟩ := n
  have hFrame : frame.entries.any (·.1 = key) = false := by
    rw [List.any_eq_false]
    intro entry hEntry
    rw [decide_eq_true_iff]
    rintro rfl
    exact frameKeys_apart _ (fst_mem_frameKeys hOverrides hEntry) hKey
  have hStyle : frame.style.toJsonEntries.any (·.1 = key) = frame.style.contains key := by
    rw [← SortedMap.any_entries, StyleMap.toJsonEntries, List.any_map]
    rfl
  show (SortedMap.ofList (frame.style.toJsonEntries ++ body.entries ++ frame.entries)).entries.any _ = _
  rw [SortedMap.any_entries, SortedMap.contains_ofList, List.any_append, List.any_append, hStyle, hFrame,
    body.any_entries hKey, Bool.or_false]
  rfl

/-- A node has its own field and no other exactly if its style names no other. -/
theorem Node.fields_eq_iff (hOverrides : n.frame.overrides = ∅) :
    n.fields = [n.body.field] ↔ n.Undoubled := by
  constructor
  · intro h key hKey hOther
    have hAbsent : key ∉ n.fields := by
      rw [h]
      exact fun hMem => hOther (List.mem_singleton.mp hMem)
    rw [fields, List.mem_filter, n.has_toJson hOverrides hKey] at hAbsent
    simpa [hKey, hOther, SortedMap.contains] using hAbsent
  · intro h
    rw [fields, ← filter_contentFields n.body.field n.body.field_mem]
    refine List.filter_congr fun key hKey => ?_
    rw [has_toJson hOverrides hKey]
    by_cases hOwn : key = n.body.field
    · rw [decide_eq_true hOwn, Bool.or_true]
    · rw [SortedMap.contains, h key hKey hOwn]
      rfl

end Fields

/-- A property of all nodes at any depth. -/
def Throughout (P : Node Picture → Prop) (nodes : List (Node Picture)) : Prop :=
  ∀ n, Occurs n nodes → P n

section Throughout

variable {P : Node Picture → Prop} {nodes others : List (Node Picture)} {n : Node Picture}

theorem throughout_nil : Throughout P [] :=
  fun _ h => absurd h not_occurs_nil

theorem throughout_append_iff :
    Throughout P (nodes ++ others) ↔ Throughout P nodes ∧ Throughout P others := by
  simp only [Throughout, occurs_append_iff, or_imp, forall_and]

theorem throughout_singleton_iff : Throughout P [n] ↔ P n ∧ Throughout P n.body.members := by
  simp only [Throughout, occurs_singleton_iff, or_imp, forall_and, forall_eq]

theorem throughout_grid_iff (hFiller : P .filler) {rows : List (List (Node Picture))} :
    Throughout P (expandSpans rows).flatten ↔ Throughout P rows.flatten := by
  constructor
  · intro h n hn
    refine h n (hn.mono fun cell hCell => ?_)
    obtain ⟨row, hRow, hCell⟩ := List.mem_flatten.mp hCell
    exact mem_grid_of_mem_rows hRow hCell
  · intro h n hn
    obtain ⟨cell, hCell, hn⟩ := occurs_iff.mp hn
    rcases eq_filler_or_mem_of_expandSpans hCell with rfl | ⟨row, hRow, hMem⟩
    · rcases hn with rfl | hn
      · exact hFiller
      · exact absurd hn not_occurs_nil
    · exact h n (occurs_iff.mpr ⟨cell, List.mem_flatten.mpr ⟨row, hRow, hMem⟩, hn⟩)

theorem throughout_mapPictures_iff (f : Picture → Other) {Q : Node Other → Prop}
    (hSame : ∀ n, Q (n.mapPicture f) ↔ P n) : Throughout Q (mapPictures f nodes) ↔ Throughout P nodes := by
  constructor
  · intro h n hn
    exact (hSame n).mp (h _ (hn.mapPictures f))
  · intro h n hn
    obtain ⟨source, hSource, rfl⟩ := occurs_mapPictures hn
    exact (hSame source).mpr (h source hSource)

end Throughout

theorem Body.field_ofChildren (nodes : List (Node Picture)) :
    (Body.ofChildren nodes).field = if anyBlock nodes then "stack" else "text" := by
  rw [ofChildren]
  split <;> rfl

theorem Body.field_collapse (body : Body Picture) : body.collapse.field = body.field := by
  fun_cases collapse body <;> rfl

theorem Node.field_settle (n : Node Picture) : n.settle.body.field = n.body.field := by
  fun_cases settle n <;> rfl

theorem Body.field_mapPicture (f : Picture → Other) (body : Body Picture) :
    (body.mapPicture f).field = body.field := by
  cases body <;> rfl

theorem Node.undoubled_mapPicture (f : Picture → Other) (n : Node Picture) :
    (n.mapPicture f).Undoubled ↔ n.Undoubled := by
  rw [Undoubled, Undoubled, frame_mapPicture, body_mapPicture, Body.field_mapPicture]

end Layout

end MarkupLayout
