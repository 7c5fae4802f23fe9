import MarkupLayout.Text.Blank

/-!
# Cutting text into parts

Text is cut at a separator, which keeps empty parts, or into words, which has none. Joining the
parts of a cut gives the text back.
-/

namespace MarkupLayout.Text

/-- The parts between separators; the empty text has one empty part. -/
def fields (separator : Char) : List Char → List (List Char)
  | [] => [[]]
  | c :: rest =>
    if c = separator then [] :: fields separator rest
    else match fields separator rest with
      | [] => [[c]]
      | part :: parts => (c :: part) :: parts

def wordsFrom (word : List Char) : List Char → List (List Char)
  | [] => if word.isEmpty then [] else [word]
  | c :: rest =>
    if isBlank c then
      if word.isEmpty then wordsFrom [] rest else word :: wordsFrom [] rest
    else wordsFrom (word ++ [c]) rest

def words (text : List Char) : List (List Char) :=
  wordsFrom [] text

theorem fields_ne_nil (separator : Char) (text : List Char) : fields separator text ≠ [] := by
  cases text with
  | nil => simp [fields]
  | cons c rest =>
    simp only [fields]
    split
    · simp
    · split <;> simp

theorem intercalate_fields (separator : Char) (text : List Char) :
    [separator].intercalate (fields separator text) = text := by
  induction text with
  | nil => rfl
  | cons c rest ih =>
    simp only [fields]
    obtain ⟨part, parts, h⟩ := List.exists_cons_of_ne_nil (fields_ne_nil separator rest)
    rw [h] at ih ⊢
    split
    · next hc => simp [List.intercalate, ← ih, hc]
    · cases parts <;> simp_all [List.intercalate]

def containsRun (part : List Char) : List Char → Bool
  | [] => part.isEmpty
  | c :: rest => part.isPrefixOf (c :: rest) || containsRun part rest

def contains (text part : String) : Bool :=
  containsRun part.toList text.toList

def startsWith (text start : String) : Bool :=
  start.toList.isPrefixOf text.toList

def endsWith (text ending : String) : Bool :=
  ending.toList.isSuffixOf text.toList

end MarkupLayout.Text
