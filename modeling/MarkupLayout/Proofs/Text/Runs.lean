import Mathlib.Data.List.TakeWhile
import MarkupLayout.Text.Blank

/-!
# Runs of characters

A run of characters of a kind ends in front of the first one that is not of the kind. Trimming takes the
runs of blanks off both ends of a text, and leaves a body that neither begins nor ends with a blank.
-/

namespace MarkupLayout.Text

section Run

variable {p : Char → Bool} {run rest : List Char}

theorem takeWhile_run (hRun : ∀ c ∈ run, p c) (hRest : ∀ c ∈ rest.head?, p c = false) :
    (run ++ rest).takeWhile p = run := by
  rw [List.takeWhile_append_of_pos hRun]
  cases rest with
  | nil => exact List.append_nil run
  | cons c rest =>
    rw [List.takeWhile_cons_of_neg (Bool.eq_false_iff.mp (hRest c rfl)), List.append_nil]

theorem dropWhile_run (hRun : ∀ c ∈ run, p c) (hRest : ∀ c ∈ rest.head?, p c = false) :
    (run ++ rest).dropWhile p = rest := by
  rw [List.dropWhile_append_of_pos hRun]
  cases rest with
  | nil => rfl
  | cons c rest => exact List.dropWhile_cons_of_neg (Bool.eq_false_iff.mp (hRest c rfl))

theorem exists_run (p : Char → Bool) (text : List Char) : ∃ run, text = run ++ text.dropWhile p ∧
    (∀ c ∈ run, p c) ∧ ∀ c ∈ (text.dropWhile p).head?, p c = false := by
  refine ⟨text.takeWhile p, List.takeWhile_append_dropWhile.symm, fun c hc => List.mem_takeWhile_imp hc, ?_⟩
  intro c hc
  have hHead := List.head?_dropWhile_not p text
  rwa [Option.mem_def.mp hc] at hHead

end Run

/-- The body is what stands between blanks at the beginning and blanks at the end of the text. -/
structure Trimmed (text body : List Char) : Prop where
  around : ∃ before after, text = before ++ (body ++ after) ∧ (∀ c ∈ before, isBlank c) ∧
    ∀ c ∈ after, isBlank c
  start : ∀ c ∈ body.head?, isBlank c = false
  ending : ∀ c ∈ body.getLast?, isBlank c = false

theorem trimmed_trim (text : List Char) : Trimmed text (trim text) := by
  obtain ⟨before, hText, hBefore, hStart⟩ := exists_run isBlank text
  obtain ⟨after, hReverse, hAfter, hEnding⟩ := exists_run isBlank (text.dropWhile isBlank).reverse
  have hBody : text.dropWhile isBlank = trim text ++ after.reverse := by
    rw [trim, trimBy, trimEndBy, trimStartBy, ← List.reverse_append, ← hReverse, List.reverse_reverse]
  refine ⟨⟨before, after.reverse, hBody ▸ hText, hBefore, fun c hc => hAfter c (List.mem_reverse.mp hc)⟩,
    ?_, ?_⟩
  · intro c hc
    refine hStart c ?_
    rw [hBody, List.head?_append, Option.mem_def.mp hc]
    rfl
  · intro c hc
    refine hEnding c ?_
    rwa [trim, trimBy, trimEndBy, trimStartBy, List.getLast?_reverse] at hc

theorem Trimmed.trim_eq {text body : List Char} (h : Trimmed text body) : trim text = body := by
  obtain ⟨⟨before, after, rfl, hBefore, hAfter⟩, hStart, hEnding⟩ := h
  have hAfterReverse : ∀ c ∈ after.reverse, isBlank c := fun c hc => hAfter c (List.mem_reverse.mp hc)
  have hEnd : trimEndBy isBlank (body ++ after) = body := by
    rw [trimEndBy, List.reverse_append, dropWhile_run hAfterReverse, List.reverse_reverse]
    rwa [List.head?_reverse]
  rw [trim, trimBy, trimStartBy]
  cases body with
  | nil =>
    have hAll : ∀ c ∈ before ++ ([] ++ after), isBlank c := List.forall_mem_append.mpr ⟨hBefore, hAfter⟩
    rw [List.dropWhile_eq_nil_iff.mpr hAll]
    rfl
  | cons c body =>
    have hHead : ∀ d ∈ (c :: body ++ after).head?, isBlank d = false := hStart
    rw [dropWhile_run hBefore hHead, hEnd]

end MarkupLayout.Text
