import MarkupLayout.Text.Word

/-!
# Patterns

Patterns of characters, and when a part of a text matches one. The meaning of a pattern depends on what
stands around the part as well, since an edge of a word is seen from both of its sides. A repeated class
of characters asks for a number of them only, and an optional pattern for nothing.
-/

namespace MarkupLayout.Text

/-- Single characters and inclusive ranges. -/
structure CharClass where
  singles : String
  ranges : List (Char × Char)

def CharClass.has (members : CharClass) (c : Char) : Bool :=
  members.singles.toList.contains c || members.ranges.any fun range => range.1 ≤ c && c ≤ range.2

inductive Pattern where
  | literal (text : String)
  | anyInLine
  | oneOf (members : CharClass)
  | wordEdge
  | append (first second : Pattern)
  | repeated (least : Nat) (most : Option Nat) (body : Pattern)

namespace Pattern

instance : Append Pattern := ⟨append⟩

def optional (body : Pattern) : Pattern :=
  repeated 0 (some 1) body

/-- What is asked of a part of a text, given what stands before and after it. -/
def Meaning : Type := List Char → List Char → List Char → Prop

def Meaning.andThen (first second : Meaning) : Meaning :=
  fun before part after => ∃ left right, part = left ++ right ∧
    first before left (right ++ after) ∧ second (before ++ left) right after

def Meaning.times (body : Meaning) : Nat → Meaning
  | 0 => fun _ part _ => part = []
  | n + 1 => body.andThen (body.times n)

/-- Whether exactly one of the characters next to each other here belongs to a word. -/
def isWordEdge (before after : List Char) : Bool :=
  before.getLast?.any isWord != after.head?.any isWord

def Matches : Pattern → Meaning
  | literal text => fun _ part _ => part = text.toList
  | anyInLine => fun _ part _ => ∃ c, c ≠ '\n' ∧ part = [c]
  | oneOf members => fun _ part _ => ∃ c, members.has c ∧ part = [c]
  | wordEdge => fun before part after => part = [] ∧ isWordEdge before after
  | append first second => first.Matches.andThen second.Matches
  | repeated least most body => fun before part after =>
    ∃ n, least ≤ n ∧ (∀ m ∈ most, n ≤ m) ∧ body.Matches.times n before part after

def OccursIn (pattern : Pattern) (text : List Char) : Prop :=
  ∃ before part after, text = before ++ part ++ after ∧ pattern.Matches before part after

variable {before part after : List Char}

theorem matches_repeated_zero (most : Option Nat) (body : Pattern) :
    (repeated 0 most body).Matches before [] after :=
  ⟨0, Nat.le_refl 0, fun m _ => Nat.zero_le m, rfl⟩

theorem times_oneOf (members : CharClass) (n : Nat) : (oneOf members).Matches.times n before part after ↔
    part.length = n ∧ ∀ c ∈ part, members.has c := by
  induction n generalizing before part with
  | zero =>
    constructor
    · rintro rfl
      exact ⟨rfl, nofun⟩
    · rintro ⟨hLength, -⟩
      exact List.length_eq_zero_iff.mp hLength
  | succ n ih =>
    constructor
    · rintro ⟨left, right, rfl, ⟨c, hc, rfl⟩, hRight⟩
      obtain ⟨hLength, hAll⟩ := ih.mp hRight
      exact ⟨congrArg Nat.succ hLength, List.forall_mem_cons.mpr ⟨hc, hAll⟩⟩
    · rintro ⟨hLength, hAll⟩
      obtain ⟨c, rest, rfl⟩ := List.exists_cons_of_length_eq_add_one hLength
      obtain ⟨hc, hRest⟩ := List.forall_mem_cons.mp hAll
      exact ⟨[c], rest, rfl, ⟨c, hc, rfl⟩, ih.mpr ⟨Nat.succ.inj hLength, hRest⟩⟩

theorem matches_repeated_oneOf (members : CharClass) (least : Nat) (most : Option Nat) :
    (repeated least most (oneOf members)).Matches before part after ↔
      least ≤ part.length ∧ (∀ m ∈ most, part.length ≤ m) ∧ ∀ c ∈ part, members.has c := by
  constructor
  · rintro ⟨n, hLeast, hMost, hTimes⟩
    obtain ⟨rfl, hAll⟩ := (times_oneOf members n).mp hTimes
    exact ⟨hLeast, hMost, hAll⟩
  · rintro ⟨hLeast, hMost, hAll⟩
    exact ⟨part.length, hLeast, hMost, (times_oneOf members _).mpr ⟨rfl, hAll⟩⟩

theorem isWordEdge_iff {c : Char} (hc : isWord c) :
    isWordEdge (before ++ [c]) after ↔ ∀ next ∈ after.head?, isWord next = false := by
  rw [isWordEdge, List.getLast?_concat, Option.any_some, hc]
  cases after.head? <;> simp

end Pattern

end MarkupLayout.Text
