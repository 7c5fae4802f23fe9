/-!
# Line ends

A line of a page ends with a line feed, a carriage return, or the two together. A page is read as if
every line ended with a line feed: a carriage return counts as one, and a line feed right behind it
counts no more. Text that was only looked at may be put back in between, so what is left of a page
tells whether a line end has just begun.
-/

namespace MarkupLayout.Html

structure Source where
  text : List Char
  /-- Whether a carriage return was taken last. -/
  inLineEnd : Bool := false

namespace Source

/-- Takes a character that does not belong to the line end before it. -/
def first? : List Char → Option (Char × Source)
  | [] => none
  | '\r' :: rest => some ('\n', ⟨rest, true⟩)
  | c :: rest => some (c, ⟨rest, false⟩)

def next? (source : Source) : Option (Char × Source) :=
  match source.inLineEnd, source.text with
  | true, '\n' :: rest => first? rest
  | _, text => first? text

theorem length_first? {text : List Char} {c : Char} {rest : Source}
    (h : first? text = some (c, rest)) : rest.text.length < text.length := by
  unfold first? at h
  split at h <;> simp at h
  all_goals
    rw [← h.2]
    simp

theorem length_next? {source rest : Source} {c : Char} (h : source.next? = some (c, rest)) :
    rest.text.length < source.text.length := by
  unfold next? at h
  split at h
  · next heq =>
    rw [heq]
    exact Nat.lt_succ_of_lt (length_first? h)
  · exact length_first? h

theorem next?_cons (c : Char) (rest : List Char) :
    next? ⟨c :: rest, false⟩ =
      some (if c = '\r' then ('\n', ⟨rest, true⟩) else (c, ⟨rest, false⟩)) := by
  by_cases h : c = '\r' <;> simp [next?, first?, h]

end Source

def lineFeeds : List Char → List Char
  | '\r' :: '\n' :: rest => '\n' :: lineFeeds rest
  | '\r' :: rest => '\n' :: lineFeeds rest
  | c :: rest => c :: lineFeeds rest
  | [] => []

end MarkupLayout.Html
