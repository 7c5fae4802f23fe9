import MarkupLayout.Html.Vocabulary

/-!
# Open elements

A page under construction is a list of frames, innermost first: each is an element whose end has
not come yet, with the content read so far. Closing a frame makes it content of the frame around
it, or puts it before the table it would not be allowed in.
-/

namespace MarkupLayout.Html

inductive Piece where
  /-- A run of text in reverse order. -/
  | chars (reversed : List Char)
  | node (markup : Markup)
  /-- A comment, which leaves no trace but keeps the texts on its two sides apart. -/
  | comment

structure Frame where
  /-- Tells frames with equal tags apart. -/
  serial : Nat
  vocabulary : Vocabulary := .html
  tag : Tag
  /-- The pieces of the content, newest first. -/
  content : List Piece := []
  /-- Whether the element goes before the innermost table instead of into the frame around it. -/
  beforeTable : Bool := false
  /-- Whether the element still counts as open. One that does not merely awaits the end of those
  inside it. -/
  counts : Bool := true

namespace Frame

def isOne (names : List String) (frame : Frame) : Bool :=
  frame.vocabulary = .html && names.contains frame.tag.name

def is (name : String) (frame : Frame) : Bool :=
  frame.isOne [name]

def add (frame : Frame) (piece : Piece) : Frame :=
  match piece, frame.content with
  | .chars new, .chars old :: older => { frame with content := .chars (new ++ old) :: older }
  | _, content => { frame with content := piece :: content }

def markupOf? : Piece → Option Markup
  | .chars reversed => some (.text (String.ofList reversed.reverse))
  | .node markup => some markup
  | .comment => none

/-- The finished content. What a template holds is no content. -/
def children (frame : Frame) : List Markup :=
  if frame.is "template" then [] else frame.content.reverse.filterMap markupOf?

def markup (frame : Frame) : Markup :=
  .element frame.tag frame.children

end Frame

namespace Frames

def add (piece : Piece) : List Frame → List Frame
  | [] => []
  | frame :: around => frame.add piece :: around

/-- Adds a piece before the innermost table, or into a template on the way there. -/
def addBeforeTable (piece : Piece) : List Frame → List Frame
  | [] => []
  | [root] => [root.add piece]
  | frame :: parent :: around =>
    if frame.is "template" then frame.add piece :: parent :: around
    else if frame.is "table" then frame :: parent.add piece :: around
    else frame :: addBeforeTable piece (parent :: around)

def attach (frame : Frame) (around : List Frame) : List Frame :=
  if frame.beforeTable then addBeforeTable (.node frame.markup) around
  else add (.node frame.markup) around

@[simp] theorem length_add (piece : Piece) (frames : List Frame) :
    (add piece frames).length = frames.length := by
  cases frames <;> rfl

@[simp] theorem length_addBeforeTable (piece : Piece) (frames : List Frame) :
    (addBeforeTable piece frames).length = frames.length := by
  fun_induction addBeforeTable piece frames <;> simp_all

@[simp] theorem length_attach (frame : Frame) (around : List Frame) :
    (attach frame around).length = around.length := by
  unfold attach
  split <;> simp

/-- Closes the innermost frames as long as they do not count or the test holds. The outermost
frame stays open. -/
def closeWhile (test : Frame → Bool) : List Frame → List Frame
  | frame :: parent :: around =>
    if !frame.counts || test frame then closeWhile test (attach frame (parent :: around))
    else frame :: parent :: around
  | frames => frames
termination_by frames => frames.length
decreasing_by simp

def close : List Frame → List Frame
  | frame :: parent :: around => closeWhile (fun _ => false) (attach frame (parent :: around))
  | frames => frames

def closeThrough (test : Frame → Bool) (frames : List Frame) : List Frame :=
  close (closeWhile (fun frame => !test frame) frames)

def reaches (target bound : Frame → Bool) : List Frame → Bool
  | [] => false
  | frame :: around =>
    if !frame.counts then reaches target bound around
    else target frame || (!bound frame && reaches target bound around)

def release (serial : Nat) (frames : List Frame) : List Frame :=
  closeWhile (fun _ => false) (frames.map fun frame =>
    if frame.serial = serial then { frame with counts := false } else frame)

def any (test : Frame → Bool) (frames : List Frame) : Bool :=
  frames.any fun frame => frame.counts && test frame

end Frames

end MarkupLayout.Html
