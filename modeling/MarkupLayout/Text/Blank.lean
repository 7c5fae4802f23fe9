/-!
# Blank characters and trimming

The white space of style text and attribute numbers, the wider blanks of running text, and the
removal of newline runs. Which text is cleaned in which way is left to the modules that use it.
-/

namespace MarkupLayout.Text

/-- The characters with the Unicode property `White_Space`. -/
def isBlank (c : Char) : Bool :=
  let code := c.toNat
  (9 ≤ code && code ≤ 13) || code == 0x20 || code == 0x85 || code == 0xA0 || code == 0x1680 ||
    (0x2000 ≤ code && code ≤ 0x200A) || code == 0x2028 || code == 0x2029 || code == 0x202F ||
    code == 0x205F || code == 0x3000

/-- Blank in running text, where the zero-width no-break space counts too. -/
def isGap (c : Char) : Bool :=
  isBlank c || c == '\uFEFF'

def trimStartBy (p : Char → Bool) (text : List Char) : List Char :=
  text.dropWhile p

def trimEndBy (p : Char → Bool) (text : List Char) : List Char :=
  (text.reverse.dropWhile p).reverse

def trimBy (p : Char → Bool) (text : List Char) : List Char :=
  trimEndBy p (trimStartBy p text)

def trim (text : List Char) : List Char :=
  trimBy isBlank text

/-- The walk behind `dropNewlineRuns`; `inRun` says that a newline run has begun. -/
def dropNewlineRunsFrom (inRun : Bool) : List Char → List Char
  | [] => []
  | c :: rest =>
    if c == '\n' || (inRun && isGap c) then dropNewlineRunsFrom true rest
    else c :: dropNewlineRunsFrom false rest

/-- Removes every newline together with the blanks that follow it. -/
def dropNewlineRuns (text : List Char) : List Char :=
  dropNewlineRunsFrom false text

theorem isGap_newline : isGap '\n' = true := rfl

end MarkupLayout.Text
