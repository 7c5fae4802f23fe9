import MarkupLayout.Convert.Draft

/-!
# Tidy markup

The words of a tree are its texts in document order, cleaned but not rewritten, with a newline for
each line break. A tree is tidy if nothing in it stands for something else than text, no element is
too deep, and its tables hold nothing but sections, rows and cells, apart from blanks.
-/

namespace MarkupLayout.Convert

mutual

def words (path : List Tag) : Markup → String
  | .text raw => Design.trimmed path (Design.normalized path raw)
  | .element tag children =>
    (if tag.kind = "br" then "\n" else "") ++ wordsUnder (path ++ [tag]) children

def wordsUnder (path : List Tag) : List Markup → String
  | [] => ""
  | child :: rest => words path child ++ wordsUnder path rest

end

/-- Where a node stands: directly in a table, in a group of rows, in a row, or elsewhere. -/
inductive Place where
  | flow
  | table
  | group
  | row
deriving DecidableEq

def Place.admits : Place → Tag → Prop
  | .flow, tag => tag.kind ∉ ["svg", "img", "hr", "col", "colgroup"]
  | .table, tag => tag.kind ∈ ["thead", "tbody", "tfoot", "tr"]
  | .group, tag => tag.kind = "tr"
  | .row, tag => tag.kind = "td" ∨ tag.kind = "th"

/-- Where the children of an element at a place stand. -/
def Place.inside : Place → Tag → Place
  | .flow, tag => if tag.kind = "table" then .table else .flow
  | .table, tag => if tag.kind = "tr" then .row else .group
  | .group, _ => .row
  | .row, _ => .flow

mutual

def Tidy (limit : Nat) (place : Place) (path : List Tag) (depth : Nat) : Markup → Prop
  | .text raw => place = .flow ∨ words path (.text raw) = ""
  | .element tag children =>
    depth ≤ limit ∧ place.admits tag ∧ (tag.kind = "br" → children = []) ∧
      TidyAll limit (place.inside tag) (path ++ [tag]) (depth + 1) children

def TidyAll (limit : Nat) (place : Place) (path : List Tag) (depth : Nat) : List Markup → Prop
  | [] => True
  | child :: rest => Tidy limit place path depth child ∧ TidyAll limit place path depth rest

end

instance (place : Place) (tag : Tag) : Decidable (place.admits tag) :=
  match place with
  | .flow => inferInstanceAs (Decidable (tag.kind ∉ ["svg", "img", "hr", "col", "colgroup"]))
  | .table => inferInstanceAs (Decidable (tag.kind ∈ ["thead", "tbody", "tfoot", "tr"]))
  | .group => inferInstanceAs (Decidable (tag.kind = "tr"))
  | .row => inferInstanceAs (Decidable (tag.kind = "td" ∨ tag.kind = "th"))

mutual

def decideTidy (limit : Nat) (place : Place) (path : List Tag) (depth : Nat) :
    (m : Markup) → Decidable (Tidy limit place path depth m)
  | .text raw => inferInstanceAs (Decidable (place = .flow ∨ words path (.text raw) = ""))
  | .element tag children =>
    haveI := decideTidyAll limit (place.inside tag) (path ++ [tag]) (depth + 1) children
    inferInstanceAs (Decidable (depth ≤ limit ∧ place.admits tag ∧ (tag.kind = "br" → children = []) ∧
      TidyAll limit (place.inside tag) (path ++ [tag]) (depth + 1) children))

def decideTidyAll (limit : Nat) (place : Place) (path : List Tag) (depth : Nat) :
    (children : List Markup) → Decidable (TidyAll limit place path depth children)
  | [] => inferInstanceAs (Decidable True)
  | child :: rest =>
    haveI := decideTidy limit place path depth child
    haveI := decideTidyAll limit place path depth rest
    inferInstanceAs (Decidable (Tidy limit place path depth child ∧ TidyAll limit place path depth rest))

end

instance (limit : Nat) (place : Place) (path : List Tag) (depth : Nat) (m : Markup) :
    Decidable (Tidy limit place path depth m) :=
  decideTidy limit place path depth m

theorem Kind.of_eq_table_iff {tag : Tag} : Kind.of tag = .table ↔ tag.kind = "table" := by
  rw [Kind.of]
  split <;> simp_all

theorem Kind.of_eq_lineBreak_iff {tag : Tag} : Kind.of tag = .lineBreak ↔ tag.kind = "br" := by
  rw [Kind.of]
  split <;> simp_all

theorem Kind.of_of_part {place : Place} {tag : Tag} (hPlace : place ≠ .flow) (h : place.admits tag) :
    Kind.of tag = .other ∨ Kind.of tag = .cell := by
  rw [Kind.of]
  cases place with
  | flow => exact absurd rfl hPlace
  | table =>
    simp only [Place.admits, List.mem_cons, List.not_mem_nil, or_false] at h
    rcases h with h | h | h | h <;> rw [h] <;> exact .inl rfl
  | group =>
    rw [Place.admits] at h
    rw [h]
    exact .inl rfl
  | row =>
    rcases h with h | h <;> rw [h] <;> exact .inr rfl

theorem Kind.of_of_flow {tag : Tag} (h : Place.admits .flow tag) :
    Kind.of tag ∉ [.drawing, .picture, .divider, .ignored] := by
  rw [Place.admits] at h
  rw [Kind.of]
  split <;> simp_all

theorem Kind.of_ne_of_admits {place : Place} {tag : Tag} (h : place.admits tag) :
    Kind.of tag ≠ .ignored ∧ Kind.of tag ≠ .drawing := by
  by_cases hPlace : place = .flow
  · subst hPlace
    have hNot := Kind.of_of_flow h
    constructor <;> intro hKind <;> simp [hKind] at hNot
  · rcases Kind.of_of_part hPlace h with hKind | hKind <;> rw [hKind] <;> decide

end MarkupLayout.Convert
