import MarkupLayout.Layout.Basic

/-!
# Stacks and inline runs

Children stand in a stack as soon as one of them is a block, directly or inside an inline run, and
in an inline run otherwise. A run that is nothing but one plain text shrinks to that text.
-/

namespace MarkupLayout.Layout

variable {Picture : Type}

def blockTags : List String :=
  ["P", "DIV", "TABLE", "SVG", "UL", "OL", "IMG", "H1", "H2", "H3", "H4", "H5", "H6"]

mutual

def Node.isBlock : Node Picture → Bool
  | .node frame body => frame.tag.any (blockTags.contains ·) || body.isBlock

def Body.isBlock : Body Picture → Bool
  | .stack _ => true
  | .inline nodes => anyBlock nodes
  | _ => false

def anyBlock : List (Node Picture) → Bool
  | [] => false
  | n :: rest => n.isBlock || anyBlock rest

end

def Body.ofChildren (nodes : List (Node Picture)) : Body Picture :=
  if anyBlock nodes then .stack nodes else .inline nodes

/-- A child without content still takes its place, as an empty text. -/
def Node.settle : Node Picture → Node Picture
  | .node frame (.inline []) => .node frame (.text "")
  | n => n

/-- Replaces a run of one untagged text by that text. -/
def Body.collapse : Body Picture → Body Picture
  | .inline [.node frame (.text content)] =>
    if frame.tag.isNone && content ≠ "" then .text content
    else .inline [.node frame (.text content)]
  | body => body

end MarkupLayout.Layout
