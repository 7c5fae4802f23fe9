import MarkupLayout.Html.TagText

/-!
# Raw text

The content of some elements is text up to their end tag, whatever tags it seems to hold. Inside a
script an end tag does not count within a nested script that stands in a comment.
-/

namespace MarkupLayout.Html

/-- The ways in which the content of an element is read without tags. -/
inductive RawText where
  | literal
  /-- Text with character references. -/
  | referring
  | script
  /-- Everything up to the end of the page. -/
  | endless
deriving DecidableEq

namespace RawText

def beginsTag (mark name text : List Char) : Bool :=
  mark.isPrefixOf text &&
    let text := text.drop mark.length
    (text.take name.length).map Char.toLower == name &&
      (text.drop name.length).head?.any TagText.isTagBreak

def split (name : List Char) : List Char → List Char × List Char
  | [] => ([], [])
  | c :: rest =>
    if beginsTag ['<', '/'] name (c :: rest) then ([], c :: rest)
    else (c :: (split name rest).1, (split name rest).2)

/-- Where a position in a script stands: outside comments, in a comment, or in a script inside a
comment. -/
inductive Nesting where
  | outside
  | comment
  | inner

def scriptName : List Char := "script".toList

def Nesting.next (nesting : Nesting) (text : List Char) : Nesting :=
  match nesting with
  | .outside => if "<!--".toList.isPrefixOf text then .comment else .outside
  | .comment =>
    if "-->".toList.isPrefixOf text then .outside
    else if beginsTag ['<'] scriptName text then .inner
    else .comment
  | .inner =>
    if "-->".toList.isPrefixOf text then .outside
    else if beginsTag ['<', '/'] scriptName text then .comment
    else .inner

def Nesting.ends (nesting : Nesting) (text : List Char) : Bool :=
  match nesting with
  | .inner => false
  | _ => beginsTag ['<', '/'] scriptName text

def splitScript (nesting : Nesting) : List Char → List Char × List Char
  | [] => ([], [])
  | c :: rest =>
    if nesting.ends (c :: rest) then ([], c :: rest)
    else
      let (inside, after) := splitScript (nesting.next (c :: rest)) rest
      (c :: inside, after)

def plain (text : List Char) : List Item :=
  (TagText.nullReplaced (lineFeeds text)).map .char

def read (raw : RawText) (name text : List Char) : List Item × List Char :=
  match raw with
  | .literal =>
    let (inside, rest) := split name text
    (plain inside, rest)
  | .referring =>
    let (inside, rest) := split name text
    ((Item.readText false (fun _ => false) ⟨TagText.nullReplaced inside, false⟩).1, rest)
  | .script =>
    let (inside, rest) := splitScript .outside text
    (plain inside, rest)
  | .endless => (plain text, [])

theorem split_append (name text : List Char) :
    (split name text).1 ++ (split name text).2 = text := by
  induction text with
  | nil => rfl
  | cons c rest ih =>
    simp only [split]
    split <;> simp [ih]

theorem splitScript_append (nesting : Nesting) (text : List Char) :
    (splitScript nesting text).1 ++ (splitScript nesting text).2 = text := by
  induction text generalizing nesting with
  | nil => rfl
  | cons c rest ih =>
    simp only [splitScript]
    split <;> simp [ih]

theorem length_read (raw : RawText) (name text : List Char) :
    (raw.read name text).2.length ≤ text.length := by
  have hsplit := congrArg List.length (split_append name text)
  have hscript := congrArg List.length (splitScript_append .outside text)
  simp only [List.length_append] at hsplit hscript
  cases raw <;> simp only [read] <;> first | omega | simp

end RawText

end MarkupLayout.Html
