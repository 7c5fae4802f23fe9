import MarkupLayout.Html.Reference
import MarkupLayout.Markup.Basic

/-!
# Tokens of HTML text

The characters, tags and comments that a page is made of, besides its declarations, and the reading
of running text with its references. What a token does to the page is left to the rules of the page.
-/

namespace MarkupLayout.Html

inductive Token where
  | char (c : Char)
  /-- `empty` tells that a slash closes the tag. -/
  | opening (tag : Tag) (empty : Bool)
  | closing (name : String)
  | comment

inductive Item where
  | token (token : Token)
  /-- A document type declaration, with whether it asks for the current rules. -/
  | doctype (current : Bool)
  /-- A fault in the text, which stands for nothing but keeps its two sides apart. -/
  | fault

namespace Item

def char (c : Char) : Item :=
  .token (.char c)

def char? : Item → Option Char
  | .token (.char c) => some c
  | _ => none

def ofReference (reference : Reference) : List Item :=
  (if reference.isFaulty then [.fault] else []) ++ reference.chars.map .char

def readText (inAttribute : Bool) (ends : Char → Bool) (source : Source) :
    List Item × List Char :=
  match _hnext : source.next? with
  | none => ([], [])
  | some (c, rest) =>
    if ends c then ([], c :: rest.text)
    else if c = '&' then
      let reference := Reference.read NamedCharacter.all inAttribute rest.text
      let (items, after) := readText inAttribute ends reference.rest
      (ofReference reference ++ items, after)
    else
      let (items, after) := readText inAttribute ends rest
      (char c :: items, after)
termination_by source.text.length
decreasing_by
  · have := Source.length_next? _hnext
    have := Reference.length_read NamedCharacter.all inAttribute rest.text
    omega
  · exact Source.length_next? _hnext

theorem length_readText (inAttribute : Bool) (ends : Char → Bool) (source : Source) :
    (readText inAttribute ends source).2.length ≤ source.text.length := by
  fun_induction readText inAttribute ends source with
  | case1 => simp
  | case2 source c rest hnext =>
    have := Source.length_next? hnext
    simp
    omega
  | case3 source rest reference items after hread hnext _ ih =>
    have := Source.length_next? hnext
    have : reference.rest.text.length ≤ rest.text.length :=
      Reference.length_read NamedCharacter.all inAttribute rest.text
    simp only [hread] at ih ⊢
    omega
  | case4 source c rest hnext _ _ items after hread ih =>
    have := Source.length_next? hnext
    simp only [hread] at ih ⊢
    omega

theorem length_readText_of_next? {inAttribute : Bool} {ends : Char → Bool} {source rest : Source}
    {c : Char} (hnext : source.next? = some (c, rest)) (hends : ¬ends c) :
    (readText inAttribute ends source).2.length ≤ rest.text.length := by
  have hplain := length_readText inAttribute ends rest
  have hreference := Reference.length_read NamedCharacter.all inAttribute rest.text
  have hafter := length_readText inAttribute ends
    (Reference.read NamedCharacter.all inAttribute rest.text).rest
  rw [readText]
  split
  · next heq => simp [hnext] at heq
  · next heq =>
    simp only [hnext, Option.some.injEq, Prod.mk.injEq] at heq
    obtain ⟨rfl, rfl⟩ := heq
    rw [if_neg hends]
    split
    · exact Nat.le_trans hafter hreference
    · exact hplain

end Item

end MarkupLayout.Html
