import MarkupLayout.Text.Split

/-!
# Fields of a text

No field of a text holds the separator, and fields without it, joined and cut again, are the same ones.
-/

namespace MarkupLayout.Text

theorem mem_of_mem_fields {separator : Char} {text part : List Char} {c : Char}
    (hPart : part ∈ fields separator text) (h : c ∈ part) : c ∈ text := by
  induction text generalizing part with
  | nil =>
    rw [List.mem_singleton.mp hPart] at h
    exact h
  | cons first rest ih =>
    obtain ⟨head, tail, hRest⟩ := List.exists_cons_of_ne_nil (fields_ne_nil separator rest)
    rw [fields, hRest] at hPart
    rw [hRest] at ih
    split at hPart
    · rcases List.mem_cons.mp hPart with rfl | hPart
      · cases h
      · exact List.mem_cons_of_mem _ (ih hPart h)
    · rcases List.mem_cons.mp hPart with rfl | hPart
      · rcases List.mem_cons.mp h with rfl | h
        · exact List.mem_cons_self ..
        · exact List.mem_cons_of_mem _ (ih (List.mem_cons_self ..) h)
      · exact List.mem_cons_of_mem _ (ih (List.mem_cons_of_mem _ hPart) h)

theorem fields_eq_splitOn (separator : Char) (text : List Char) :
    fields separator text = text.splitOn separator := by
  induction text with
  | nil => rfl
  | cons c rest ih =>
    obtain ⟨part, parts, hRest⟩ := List.exists_cons_of_ne_nil (fields_ne_nil separator rest)
    rw [List.splitOn_cons_eq_if_modifyHead, ← ih, fields, hRest]
    simp only [beq_iff_eq, List.modifyHead_cons]

theorem not_mem_of_mem_fields {separator : Char} {text part : List Char}
    (h : part ∈ fields separator text) : separator ∉ part := by
  induction text generalizing part with
  | nil =>
    rw [List.mem_singleton.mp h]
    exact List.not_mem_nil
  | cons c rest ih =>
    obtain ⟨first, parts, hRest⟩ := List.exists_cons_of_ne_nil (fields_ne_nil separator rest)
    rw [fields, hRest] at h
    rw [hRest] at ih
    split at h
    · rcases List.mem_cons.mp h with rfl | h
      · exact List.not_mem_nil
      · exact ih h
    · next hOther =>
      rcases List.mem_cons.mp h with rfl | h
      · exact List.not_mem_cons_of_ne_of_not_mem (Ne.symm hOther) (ih (List.mem_cons_self ..))
      · exact ih (List.mem_cons_of_mem _ h)

theorem fields_intercalate {separator : Char} {parts : List (List Char)} (hParts : parts ≠ [])
    (h : ∀ part ∈ parts, separator ∉ part) : fields separator ([separator].intercalate parts) = parts := by
  rw [fields_eq_splitOn]
  exact List.splitOn_intercalate separator h hParts

end MarkupLayout.Text
