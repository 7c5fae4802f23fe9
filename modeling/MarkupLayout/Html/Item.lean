import MarkupLayout.Html.TagText

/-!
# Reading the text of a page

Reading takes the items at the beginning of a text and always consumes some of it: running text up
to the next angle, or what that angle begins.
-/

namespace MarkupLayout.Html.Item

def afterMark (text : List Char) : List Char :=
  (text.dropWhile (· ≠ '>')).tail

def afterComment : List Char → List Char
  | [] => []
  | '-' :: '-' :: '>' :: rest => rest
  | '-' :: '-' :: '!' :: '>' :: rest => rest
  | _ :: rest => afterComment rest

def afterCommentStart : List Char → List Char
  | '>' :: rest => rest
  | '-' :: '>' :: rest => rest
  | text => afterComment text

def splitSection : List Char → List Char × List Char
  | [] => ([], [])
  | ']' :: ']' :: '>' :: rest => ([], rest)
  | c :: rest => ((c :: (splitSection rest).1), (splitSection rest).2)

/-- Reads what follows `<!`. -/
def declaration (sections : Bool) (text : List Char) : List Item × List Char :=
  match text with
  | '-' :: '-' :: rest => ([.token .comment], afterCommentStart rest)
  | text =>
    match Doctype.afterWord? "doctype" text with
    | some rest =>
      let body := rest.takeWhile (· ≠ '>')
      ([.doctype (body.length < rest.length && Doctype.isCurrent body)], afterMark rest)
    | none =>
      if sections && "[CDATA[".toList.isPrefixOf text then
        let (chars, rest) := splitSection (text.drop 7)
        ((lineFeeds chars).map char, rest)
      else ([.token .comment], afterMark text)

/-- Reads what follows `<`. -/
def angle (sections : Bool) (text : List Char) : List Item × List Char :=
  match text with
  | [] => ([char '<'], [])
  | ['/'] => ([char '<', char '/'], [])
  | '!' :: rest => declaration sections rest
  | '?' :: rest => ([.token .comment], afterMark rest)
  | '/' :: '>' :: rest => ([.fault], rest)
  | '/' :: c :: rest =>
    if c.isAlpha then
      match TagText.read? (c :: rest) with
      | some ((tag, _), after) => ([.token (.closing tag.name)], after)
      | none => ([], [])
    else ([.token .comment], afterMark rest)
  | c :: rest =>
    if c.isAlpha then
      match TagText.read? (c :: rest) with
      | some ((tag, empty), after) => ([.token (.opening tag empty)], after)
      | none => ([], [])
    else ([char '<'], c :: rest)

/-- Reads the items at the beginning of a text; `sections` tells that literal sections are known
there. -/
def read (sections : Bool) : List Char → List Item × List Char
  | [] => ([], [])
  | '<' :: rest => angle sections rest
  | text => readText false (· == '<') ⟨text, false⟩

theorem length_afterMark (text : List Char) : (afterMark text).length ≤ text.length := by
  have := TagText.length_dropWhile_le (· ≠ '>') text
  simp only [afterMark, List.length_tail]
  omega

theorem length_afterComment (text : List Char) : (afterComment text).length ≤ text.length := by
  fun_induction afterComment text <;> simp_all <;> omega

theorem length_afterCommentStart (text : List Char) :
    (afterCommentStart text).length ≤ text.length := by
  unfold afterCommentStart
  split
  · simp
  · simp
    omega
  · exact length_afterComment text

theorem length_splitSection (text : List Char) : (splitSection text).2.length ≤ text.length := by
  fun_induction splitSection text <;> simp_all <;> omega

theorem length_afterWord? {word : String} {text rest : List Char}
    (h : Doctype.afterWord? word text = some rest) : rest.length ≤ text.length := by
  simp only [Doctype.afterWord?, Option.ite_none_right_eq_some, Option.some.injEq] at h
  rw [← h.2, List.length_drop]
  omega

theorem length_declaration (sections : Bool) (text : List Char) :
    (declaration sections text).2.length ≤ text.length := by
  unfold declaration
  split
  · next rest =>
    have := length_afterCommentStart rest
    simp
    omega
  · split
    · next rest hrest =>
      exact Nat.le_trans (length_afterMark rest) (length_afterWord? hrest)
    · split
      · have := length_splitSection (text.drop 7)
        rw [List.length_drop] at this
        simp only
        omega
      · exact length_afterMark _

theorem length_angle (sections : Bool) (text : List Char) :
    (angle sections text).2.length ≤ text.length := by
  unfold angle
  split
  · simp
  · simp
  · next rest =>
    have := length_declaration sections rest
    simp
    omega
  · next rest =>
    have := length_afterMark rest
    simp
    omega
  · simp
    omega
  · next c rest _ =>
    split
    · split
      · next htag =>
        have := TagText.length_read? htag
        simp at this ⊢
        omega
      · simp
    · have := length_afterMark rest
      simp
      omega
  · split
    · split
      · next htag => exact TagText.length_read? htag
      · simp
    · simp

theorem length_read (sections : Bool) (c : Char) (rest : List Char) :
    (read sections (c :: rest)).2.length ≤ rest.length := by
  unfold read
  split
  · next heq => simp at heq
  · next heq =>
    cases heq
    exact length_angle sections rest
  · next hangle =>
    have hc : c ≠ '<' := fun hc => hangle rest (by rw [hc])
    have hnext := Source.next?_cons c rest
    split at hnext
    · exact length_readText_of_next? hnext (by decide)
    · exact length_readText_of_next? hnext (by simpa using hc)

theorem length_read_le (sections : Bool) (text : List Char) :
    (read sections text).2.length ≤ text.length := by
  cases text with
  | nil => simp [read]
  | cons c rest =>
    have := length_read sections c rest
    simp
    omega

end MarkupLayout.Html.Item
