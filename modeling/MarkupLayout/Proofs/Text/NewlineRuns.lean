import MarkupLayout.Text.Blank

/-!
# Newline runs

A newline run goes on up to a character that is no gap, whatever was read before. So a text can be
stripped in parts that are cut in front of such characters, and a part without newlines stays as it is.
Whether a character is kept is told by its place in the text alone.
-/

namespace MarkupLayout.Text

variable {c : Char} {text rest : List Char}

theorem ne_newline_of_not_isGap (h : isGap c = false) : c ≠ '\n' := by
  rintro rfl
  cases isGap_newline.symm.trans h

theorem dropNewlineRunsFrom_cons_of_not_isGap (inRun : Bool) (h : isGap c = false) (rest : List Char) :
    dropNewlineRunsFrom inRun (c :: rest) = c :: dropNewlineRuns rest := by
  simp [dropNewlineRunsFrom, dropNewlineRuns, ne_newline_of_not_isGap h, h]

theorem dropNewlineRunsFrom_append (inRun : Bool) (text : List Char)
    (hRest : ∀ c ∈ rest.head?, isGap c = false) :
    dropNewlineRunsFrom inRun (text ++ rest) = dropNewlineRunsFrom inRun text ++ dropNewlineRuns rest := by
  induction text generalizing inRun with
  | nil =>
    cases rest with
    | nil => rfl
    | cons c rest =>
      have hFirst : isGap c = false := hRest c rfl
      rw [List.nil_append, dropNewlineRunsFrom_cons_of_not_isGap inRun hFirst]
      exact (dropNewlineRunsFrom_cons_of_not_isGap false hFirst rest).symm
  | cons c text ih =>
    rw [List.cons_append, dropNewlineRunsFrom, dropNewlineRunsFrom]
    split
    · exact ih true
    · rw [ih false, List.cons_append]

theorem dropNewlineRuns_append_of_not_mem (h : '\n' ∉ text) (rest : List Char) :
    dropNewlineRuns (text ++ rest) = text ++ dropNewlineRuns rest := by
  induction text with
  | nil => rfl
  | cons c text ih =>
    obtain ⟨hFirst, hText⟩ := not_or.mp (mt List.mem_cons.mpr h)
    have hRun : ¬(c == '\n' || (false && isGap c)) = true := by simpa using Ne.symm hFirst
    rw [List.cons_append, dropNewlineRuns, dropNewlineRunsFrom, if_neg hRun, List.cons_append]
    exact congrArg _ (ih hText)

/-- Stripping goes past a spelling of characters that leaves the gaps as they are and spells no other
character with a newline or with a gap in front. -/
theorem dropNewlineRunsFrom_flatMap {spell : Char → List Char} (hGap : ∀ c, isGap c → spell c = [c])
    (hPlain : ∀ c, isGap c = false → ∃ first others, spell c = first :: others ∧
      isGap first = false ∧ '\n' ∉ others) (inRun : Bool) (text : List Char) :
    dropNewlineRunsFrom inRun (text.flatMap spell) = (dropNewlineRunsFrom inRun text).flatMap spell := by
  induction text generalizing inRun with
  | nil => rfl
  | cons c text ih =>
    rw [List.flatMap_cons]
    cases hc : isGap c with
    | true =>
      rw [hGap c hc, List.cons_append, List.nil_append, dropNewlineRunsFrom, dropNewlineRunsFrom]
      split
      · exact ih true
      · rw [List.flatMap_cons, hGap c hc, ih false]
        rfl
    | false =>
      obtain ⟨first, others, hSpell, hFirst, hOthers⟩ := hPlain c hc
      rw [dropNewlineRunsFrom_cons_of_not_isGap inRun hc, List.flatMap_cons, hSpell, List.cons_append,
        dropNewlineRunsFrom_cons_of_not_isGap inRun hFirst, dropNewlineRuns_append_of_not_mem hOthers,
        List.cons_append]
      exact congrArg (fun stripped => first :: (others ++ stripped)) (ih false)

section Place

variable {place : Nat}

/-- The character at a place is a newline, or behind a newline before it there are only gaps up to it. -/
def InNewlineRun (text : List Char) (place : Nat) : Prop :=
  ∃ start ≤ place, text[start]? = some '\n' ∧
    ∀ between ≤ place, start < between → text[between]?.any isGap

instance (text : List Char) (place : Nat) : Decidable (InNewlineRun text place) :=
  inferInstanceAs (Decidable (∃ start ≤ place, _))

/-- The same with a newline run that may have begun before the text. -/
def InRunFrom (inRun : Bool) (text : List Char) (place : Nat) : Prop :=
  InNewlineRun text place ∨ inRun ∧ ∀ between ≤ place, text[between]?.any isGap

instance (inRun : Bool) (text : List Char) (place : Nat) : Decidable (InRunFrom inRun text place) :=
  inferInstanceAs (Decidable (_ ∨ _))

theorem inNewlineRun_zero : InNewlineRun (c :: rest) 0 ↔ c = '\n' := by
  constructor
  · rintro ⟨start, hStart, hNewline, -⟩
    obtain rfl := Nat.le_zero.mp hStart
    exact Option.some.inj hNewline
  · rintro rfl
    exact ⟨0, Nat.le_refl 0, rfl, fun between hLast hFirst => absurd hFirst (Nat.not_lt.mpr hLast)⟩

theorem inNewlineRun_succ : InNewlineRun (c :: rest) (place + 1) ↔
    InNewlineRun rest place ∨ c = '\n' ∧ ∀ between ≤ place, rest[between]?.any isGap := by
  constructor
  · rintro ⟨start, hStart, hNewline, hGaps⟩
    cases start with
    | zero =>
      refine Or.inr ⟨Option.some.inj hNewline, fun between hLast => ?_⟩
      exact hGaps (between + 1) (Nat.succ_le_succ hLast) (Nat.succ_pos between)
    | succ start =>
      refine Or.inl ⟨start, Nat.le_of_succ_le_succ hStart, hNewline, fun between hLast hFirst => ?_⟩
      exact hGaps (between + 1) (Nat.succ_le_succ hLast) (Nat.succ_lt_succ hFirst)
  · rintro (⟨start, hStart, hNewline, hGaps⟩ | ⟨rfl, hGaps⟩)
    · refine ⟨start + 1, Nat.succ_le_succ hStart, hNewline, fun between hLast hFirst => ?_⟩
      obtain ⟨between, rfl⟩ := Nat.exists_eq_succ_of_ne_zero (Nat.ne_zero_of_lt hFirst)
      exact hGaps between (Nat.le_of_succ_le_succ hLast) (Nat.lt_of_succ_lt_succ hFirst)
    · refine ⟨0, Nat.zero_le _, rfl, fun between hLast hFirst => ?_⟩
      obtain ⟨between, rfl⟩ := Nat.exists_eq_succ_of_ne_zero (Nat.ne_zero_of_lt hFirst)
      exact hGaps between (Nat.le_of_succ_le_succ hLast)

theorem inRunFrom_zero (inRun : Bool) :
    InRunFrom inRun (c :: rest) 0 ↔ (c == '\n' || (inRun && isGap c)) := by
  simp [InRunFrom, inNewlineRun_zero]

theorem inRunFrom_succ (inRun : Bool) : InRunFrom inRun (c :: rest) (place + 1) ↔
    InRunFrom (c == '\n' || (inRun && isGap c)) rest place := by
  have hGaps : (∀ between ≤ place + 1, (c :: rest)[between]?.any isGap) ↔
      isGap c ∧ ∀ between ≤ place, rest[between]?.any isGap := by
    constructor
    · exact fun h => ⟨h 0 (Nat.zero_le _), fun between hLast => h (between + 1) (Nat.succ_le_succ hLast)⟩
    · rintro ⟨hFirst, hOthers⟩ between hLast
      cases between with
      | zero => exact hFirst
      | succ between => exact hOthers between (Nat.le_of_succ_le_succ hLast)
  rw [InRunFrom, InRunFrom, inNewlineRun_succ, hGaps, Bool.or_eq_true, Bool.and_eq_true, beq_iff_eq,
    or_and_right, or_assoc, and_assoc]

theorem dropNewlineRunsFrom_eq_filter (inRun : Bool) (text : List Char) :
    dropNewlineRunsFrom inRun text =
      (text.zipIdx.filter fun entry => ¬InRunFrom inRun text entry.2).map Prod.fst := by
  induction text generalizing inRun with
  | nil => rfl
  | cons c rest ih =>
    have hRest : ((rest.zipIdx 1).filter fun entry => ¬InRunFrom inRun (c :: rest) entry.2).map Prod.fst =
        dropNewlineRunsFrom (c == '\n' || (inRun && isGap c)) rest := by
      rw [List.zipIdx_succ, List.filter_map, List.map_map, ih]
      simp only [Function.comp_def, inRunFrom_succ]
    rw [dropNewlineRunsFrom, List.zipIdx_cons, List.filter_cons, Nat.zero_add]
    simp only [inRunFrom_zero]
    cases hRun : c == '\n' || (inRun && isGap c) <;> simpa [hRun] using hRest.symm

/-- Stripping keeps, in their order, the characters that are in no newline run, so no newline is left and
stripping once more changes nothing. -/
theorem dropNewlineRuns_keeps (text : List Char) :
    dropNewlineRuns text = (text.zipIdx.filter fun entry => ¬InNewlineRun text entry.2).map Prod.fst ∧
    '\n' ∉ dropNewlineRuns text ∧ dropNewlineRuns (dropNewlineRuns text) = dropNewlineRuns text := by
  have hKept : dropNewlineRuns text =
      (text.zipIdx.filter fun entry => ¬InNewlineRun text entry.2).map Prod.fst := by
    rw [dropNewlineRuns, dropNewlineRunsFrom_eq_filter]
    simp [InRunFrom]
  have hNone : '\n' ∉ dropNewlineRuns text := by
    intro hNewline
    rw [hKept] at hNewline
    obtain ⟨⟨c, place⟩, hEntry, rfl⟩ := List.mem_map.mp hNewline
    obtain ⟨hPlace, hOutside⟩ := List.mem_filter.mp hEntry
    refine of_decide_eq_true hOutside ⟨place, Nat.le_refl place, ?_, ?_⟩
    · exact List.mk_mem_zipIdx_iff_getElem?.mp hPlace
    · exact fun between hLast hFirst => absurd hFirst (Nat.not_lt.mpr hLast)
  refine ⟨hKept, hNone, ?_⟩
  calc dropNewlineRuns (dropNewlineRuns text)
    _ = dropNewlineRuns (dropNewlineRuns text ++ []) := by rw [List.append_nil]
    _ = dropNewlineRuns text ++ [] := dropNewlineRuns_append_of_not_mem hNone []
    _ = dropNewlineRuns text := List.append_nil _

example : dropNewlineRuns "a\n \uFEFF\n b \n".toList = "ab ".toList := by decide

end Place

end MarkupLayout.Text
