import MarkupLayout.Number.Exact
import MarkupLayout.Picture.Png
import MarkupLayout.Picture.Resolver

/-!
# Thumbnails

A thumbnail keeps the proportions of its picture and fills the box it is given as far as it can,
enlarging small pictures too. The size of a picture is read from its bytes; the encoding of the
pixels is left to an encoder that the caller supplies.
-/

namespace MarkupLayout.Picture

/-- A side of the thumbnail: rounded, but never nothing. -/
def scaledSide (side : Nat) (ratio : Float) : Nat :=
  ((Number.integer? (Number.round (Float.ofNat side * ratio))).getD 0).toNat.max 1

def sideLimit : Nat := 0xFFFFFFFF

def fitInto (picture box : Size) : Size :=
  let widthRatio := Float.ofNat box.width / Float.ofNat picture.width
  let heightRatio := Float.ofNat box.height / Float.ofNat picture.height
  let ratio := if heightRatio < widthRatio then heightRatio else widthRatio
  let width := scaledSide picture.width ratio
  let height := scaledSide picture.height ratio
  if sideLimit < width then
    ⟨sideLimit, scaledSide picture.height (Float.ofNat sideLimit / Float.ofNat picture.width)⟩
  else if sideLimit < height then
    ⟨scaledSide picture.width (Float.ofNat sideLimit / Float.ofNat picture.height), sideLimit⟩
  else ⟨width, height⟩

/-- The longest side that the format of thumbnails can hold. -/
def formatLimit : Nat := 65535

inductive ThumbnailError where
  | unknownFormat
  | tooLarge
deriving DecidableEq, Repr

def ThumbnailError.message : ThumbnailError → String
  | unknownFormat => "The image format could not be determined"
  | tooLarge => "The image is too large for its format"

def thumbnailSize (bytes : List UInt8) (box : Size) : Except ThumbnailError Size :=
  match Png.size? bytes with
  | none => .error .unknownFormat
  | some picture =>
    let size := fitInto picture box
    if size.width ≤ formatLimit && size.height ≤ formatLimit then .ok size else .error .tooLarge

/-- The thumbnailer that scales a picture and leaves its pixels to an encoder. -/
def Thumbnailer.ofEncoder (encode : ByteArray → Size → String) : Thumbnailer := fun bytes box =>
  match thumbnailSize bytes.toList box with
  | .error e => .error e.message
  | .ok size => .ok (encode bytes size)

end MarkupLayout.Picture
