import MarkupLayout.Html.Page

/-!
# Formatting that ends inside a block

The end tag of a formatting element may stand inside a block that was opened after it. The element
is then split: it ends before the block, and a copy of it takes the content that the block has so
far. The elements between the two are copied around the block as well.
-/

namespace MarkupLayout.Html.Page

/-- Closes the innermost element with a name, unless a special element stands in between. -/
def closeAny (page : Page) (name : String) : Page :=
  if page.reaches [name] (·.isOne Kind.special) then (page.closeImplied name).closeThrough [name]
  else page

def replaceKnown (page : Page) (serial : Nat) (entries : List Formatting) : Page :=
  { page with formatting := page.formatting.flatMap fun entry =>
      if entry.any (·.serial == serial) then entries.map some else [entry] }

/-- The copies of the elements between a formatting element and the block inside it. -/
structure Copies where
  page : Page
  met : Nat := 0
  /-- The copies, innermost first. -/
  frames : List Frame := []

/-- Goes from the block to the next element around it. Of the three next to the block those that
are still formatting are copied; the others end with the split element. -/
def Copies.step (copies : Copies) (frame : Frame) : Copies :=
  if !frame.counts then copies
  else
    let met := copies.met + 1
    let page := copies.page
    match page.known? frame.serial with
    | none => { copies with met }
    | some known =>
      if 3 < met then { copies with page := page.forget frame.serial, met }
      else
        let copy : Formatting := ⟨page.nextSerial, known.tag⟩
        let page := page.replaceKnown frame.serial [copy]
        { page := { page with nextSerial := page.nextSerial + 1 }
          met
          frames := copies.frames ++ [{ serial := copy.serial, tag := copy.tag }] }

/-- Splits a formatting element around a block. The frames are those inside the block, the block,
those between the two, the element, and those around it, each innermost first. -/
def splitAround (page : Page) (known : Formatting) (inner : List Frame) (block : Frame)
    (between : List Frame) (element : Frame) (around : List Frame) : Page :=
  let copies := between.foldl Copies.step { page }
  let page := copies.page
  let twin : Formatting := ⟨page.nextSerial, known.tag⟩
  let page := { page with nextSerial := page.nextSerial + 1 }
  let page := match copies.frames with
    | [] => page.replaceKnown known.serial [twin]
    | first :: _ =>
      match page.known? first.serial with
      | some copy => (page.forget known.serial).replaceKnown first.serial [twin, copy]
      | none => page.forget known.serial
  let ended := { page with frames := between ++ element :: around }.closeSerial known.serial
  let moved := copies.frames.reverse.foldl
    (fun page frame => { page with frames :=
      { frame with beforeTable := page.placesBeside } :: page.frames }) ended
  let emptied := { block with content := [], beforeTable := moved.placesBeside }
  let taking : Frame := { serial := twin.serial, tag := twin.tag, content := block.content }
  { moved with frames := inner ++ taking :: emptied :: moved.frames }

/-- One attempt to end a formatting element; none once there is nothing more to do. -/
def endFormattingOnce (page : Page) (name : String) : Page × Bool :=
  match page.recent.find? (·.tag.name = name) with
  | none => (page.closeAny name, false)
  | some known =>
    let here (frame : Frame) : Bool := frame.serial == known.serial
    if !page.isOpen known.serial then (page.forget known.serial, false)
    else if !Frames.reaches here Kind.boundsAny page.frames then (page, false)
    else
      let inside := page.frames.takeWhile fun frame => !here frame
      let isBlock (frame : Frame) : Bool := frame.counts && frame.isOne Kind.special
      let between := (inside.reverse.takeWhile fun frame => !isBlock frame).reverse
      match (inside.take (inside.length - between.length)).reverse,
          page.frames.drop inside.length with
      | block :: inner, element :: around =>
        (page.splitAround known inner.reverse block between element around, true)
      | _, _ => ((page.closeSerial known.serial).forget known.serial, false)

def endFormattingElement : Nat → Page → String → Page
  | 0, page, _ => page
  | attempts + 1, page, name =>
    match page.endFormattingOnce name with
    | (page, true) => endFormattingElement attempts page name
    | (page, false) => page

def closeFormatting (page : Page) (name : String) : Page :=
  match page.frames with
  | frame :: _ =>
    if frame.is name && (page.known? frame.serial).isNone then page.close
    else endFormattingElement 8 page name
  | [] => page

/-- A link inside a link ends the outer one. -/
def endOpenLink (page : Page) : Page :=
  match page.recent.find? (·.tag.name = "a") with
  | none => page
  | some known =>
    let page := (page.closeFormatting "a").forget known.serial
    { page with frames := Frames.release known.serial page.frames }

end MarkupLayout.Html.Page
