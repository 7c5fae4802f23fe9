import MarkupLayout.Html.Doctype
import MarkupLayout.Html.Token

/-!
# The text of tags

A tag is written with its name, its attributes and an end mark. Names are written in any case, and
values with or without quotes. A tag that the text breaks off is none.
-/

namespace MarkupLayout.Html.TagText

/-- Null characters are replaced wherever they are not dropped. -/
def nullReplaced (text : List Char) : List Char :=
  text.map fun c => if c = '\x00' then '\uFFFD' else c

def nameOf (text : List Char) : String :=
  String.ofList ((nullReplaced text).map Char.toLower)

def isTagBreak (c : Char) : Bool :=
  isSpace c || c == '/' || c == '>'

/-- Splits off the name of an attribute; its first character may be an equals sign. -/
def splitAttrName : List Char → List Char × List Char
  | [] => ([], [])
  | c :: rest => (c :: rest.takeWhile inName, rest.dropWhile inName)
where
  inName (c : Char) : Bool := !isTagBreak c && c ≠ '='

/-- Skips the white space before a value, a character at a time. The line feed of a line end that
has begun is skipped together with the character behind it, whatever that is. -/
def skipSpace (source : Source) : Source :=
  match source.text with
  | [] => source
  | c :: _ =>
    if isSpace c then
      match _hnext : source.next? with
      | none => ⟨[], false⟩
      | some (_, rest) => skipSpace rest
    else source
termination_by source.text.length
decreasing_by exact Source.length_next? _hnext

def spelledBy (items : List Item) : String :=
  String.ofList (nullReplaced (items.filterMap Item.char?))

def endsBare (c : Char) : Bool :=
  isSpace c || c == '>'

def value? (text : List Char) : Option (String × List Char) :=
  match (skipSpace ⟨text, false⟩).text with
  | [] => none
  | mark :: rest =>
    if Doctype.isQuote mark then
      match Item.readText true (· == mark) ⟨rest, false⟩ with
      | (_, []) => none
      | (items, _ :: after) => some (spelledBy items, after)
    else
      match Item.readText true endsBare ⟨mark :: rest, false⟩ with
      | (_, []) => none
      | (items, after) => some (spelledBy items, after)

def attr? (text : List Char) : Option ((String × String) × List Char) :=
  let (name, rest) := splitAttrName text
  match rest.dropWhile isSpace with
  | '=' :: rest => (value? rest).map fun (value, rest) => ((nameOf name, value), rest)
  | rest => some ((nameOf name, ""), rest)

/-- Of attributes with one name the first counts. -/
def addAttr (attrs : SortedMap String) (entry : String × String) : SortedMap String :=
  if attrs.contains entry.1 then attrs else attrs.insert entry.1 entry.2

theorem length_dropWhile_le (p : Char → Bool) (text : List Char) :
    (text.dropWhile p).length ≤ text.length :=
  (List.dropWhile_suffix p).length_le

theorem length_skipSpace (source : Source) :
    (skipSpace source).text.length ≤ source.text.length := by
  fun_induction skipSpace source with
  | case1 => simp
  | case2 => simp
  | case3 source _ _ _ _ _ rest hnext ih =>
    have := Source.length_next? hnext
    omega
  | case4 => simp

theorem length_value? {text rest : List Char} {value : String}
    (h : value? text = some (value, rest)) : rest.length ≤ text.length := by
  have hskip := length_skipSpace ⟨text, false⟩
  unfold value? at h
  split at h
  · simp at h
  · next mark after heq =>
    rw [heq] at hskip
    have hquoted := Item.length_readText true (· == mark) ⟨after, false⟩
    have hbare := Item.length_readText true endsBare ⟨mark :: after, false⟩
    split at h
    · split at h
      · simp at h
      · next hread =>
        rw [hread] at hquoted
        simp at h hskip hquoted
        rw [← h.2]
        omega
    · split at h
      · simp at h
      · next hread =>
        rw [hread] at hbare
        simp at h hskip hbare
        rw [← h.2]
        omega

theorem length_splitAttrName (text : List Char) :
    (splitAttrName text).2.length ≤ text.length - 1 := by
  cases text with
  | nil => simp [splitAttrName]
  | cons c rest => simpa [splitAttrName] using length_dropWhile_le _ rest

theorem length_attr? {text rest : List Char} {entry : String × String}
    (h : attr? text = some (entry, rest)) : rest.length ≤ text.length - 1 := by
  have hname := length_splitAttrName text
  have hspace := length_dropWhile_le isSpace (splitAttrName text).2
  revert h
  simp only [attr?]
  split
  · next after heq =>
    rw [heq] at hspace
    simp only [Option.map_eq_some_iff, Prod.mk.injEq, Prod.exists]
    rintro ⟨value, after', hvalue, -, rfl⟩
    have := length_value? hvalue
    simp at hspace
    omega
  · rintro ⟨⟩
    omega

def attrs? (attrs : SortedMap String) (text : List Char) :
    Option ((SortedMap String × Bool) × List Char) :=
  match _htext : text.dropWhile isSpace with
  | [] => none
  | '>' :: rest => some ((attrs, false), rest)
  | '/' :: '>' :: rest => some ((attrs, true), rest)
  | '/' :: rest => attrs? attrs rest
  | c :: rest =>
    match _hattr : attr? (c :: rest) with
    | none => none
    | some (entry, after) => attrs? (addAttr attrs entry) after
termination_by text.length
decreasing_by
  all_goals
    have hspace := length_dropWhile_le isSpace text
    rw [_htext] at hspace
  · simp at hspace
    omega
  · have := length_attr? _hattr
    simp at hspace this
    omega

theorem length_attrs? {attrs : SortedMap String} {text rest : List Char}
    {found : SortedMap String × Bool} (h : attrs? attrs text = some (found, rest)) :
    rest.length ≤ text.length := by
  fun_induction attrs? attrs text with
  | case1 => simp at h
  | case2 attrs text after htext =>
    have := length_dropWhile_le isSpace text
    rw [htext] at this
    simp_all
    omega
  | case3 attrs text after htext =>
    have := length_dropWhile_le isSpace text
    rw [htext] at this
    simp_all
    omega
  | case4 attrs text after _ htext ih =>
    have := length_dropWhile_le isSpace text
    rw [htext] at this
    have := ih h
    simp at *
    omega
  | case5 => simp at h
  | case6 attrs text c after _ _ _ htext entry more hattr ih =>
    have hspace := length_dropWhile_le isSpace text
    rw [htext] at hspace
    have := length_attr? hattr
    have := ih h
    simp at *
    omega

def read? (text : List Char) : Option ((Tag × Bool) × List Char) :=
  (attrs? ∅ (text.dropWhile fun c => !isTagBreak c)).map fun ((attrs, empty), rest) =>
    ((⟨nameOf (text.takeWhile fun c => !isTagBreak c), attrs⟩, empty), rest)

theorem length_read? {text rest : List Char} {found : Tag × Bool}
    (h : read? text = some (found, rest)) : rest.length ≤ text.length := by
  simp only [read?, Option.map_eq_some_iff, Prod.mk.injEq, Prod.exists] at h
  obtain ⟨attrs, empty, after, hattrs, -, rfl⟩ := h
  exact Nat.le_trans (length_attrs? hattrs) (length_dropWhile_le _ _)

end MarkupLayout.Html.TagText
