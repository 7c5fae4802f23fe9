import MarkupLayout.Picture.Cache

/-!
# Sizes of PNG pictures

A PNG file is a signature and a sequence of chunks, each with a checksum. The header chunk gives
the size; a file counts as a picture if the header makes sense, all chunks up to the last of the
picture data are whole, and another chunk begins after them. The pixels are not looked at.
-/

namespace MarkupLayout.Picture.Png

def signature : List UInt8 :=
  [0x89, 0x50, 0x4E, 0x47, 0x0D, 0x0A, 0x1A, 0x0A]

/-- One bit of a cyclic redundancy check with the reversed polynomial of PNG. -/
def checkBit (crc : UInt32) : UInt32 :=
  if crc % 2 = 1 then crc / 2 ^^^ 0xEDB88320 else crc / 2

def checkByte (crc : UInt32) (byte : UInt8) : UInt32 :=
  (List.range 8).foldl (fun crc _ => checkBit crc) (crc ^^^ byte.toUInt32)

def checksum (bytes : List UInt8) : UInt32 :=
  bytes.foldl checkByte 0xFFFFFFFF ^^^ 0xFFFFFFFF

/-- The number that bytes denote, the highest first. -/
def bigEndian (bytes : List UInt8) : Nat :=
  bytes.foldl (fun value byte => 256 * value + byte.toNat) 0

structure Chunk where
  kind : List UInt8
  data : List UInt8

/-- Splits off a chunk that is whole and has the right checksum. -/
def Chunk.take? (bytes : List UInt8) : Option (Chunk × List UInt8) :=
  let length := bigEndian (bytes.take 4)
  let checked := (bytes.drop 4).take (4 + length)
  let rest := bytes.drop (8 + length)
  if bytes.length < 12 + length then none
  else if bigEndian (rest.take 4) = (checksum checked).toNat then
    some (⟨checked.take 4, checked.drop 4⟩, rest.drop 4)
  else none

def headerKind : List UInt8 := [0x49, 0x48, 0x44, 0x52]

def dataKind : List UInt8 := [0x49, 0x44, 0x41, 0x54]

def endKind : List UInt8 := [0x49, 0x45, 0x4E, 0x44]

def headerSize? (header : Chunk) : Option Size :=
  match header.data.drop 8 with
  | [depth, color, compression, filter, interlace] =>
    let width := bigEndian (header.data.take 4)
    let height := bigEndian ((header.data.drop 4).take 4)
    let depths : List UInt8 :=
      if color = 0 then [1, 2, 4, 8, 16]
      else if color = 3 then [1, 2, 4, 8]
      else if color = 2 ∨ color = 4 ∨ color = 6 then [8, 16]
      else []
    if header.kind = headerKind ∧ header.data.length = 13 ∧ depth ∈ depths ∧ compression = 0 ∧
        filter = 0 ∧ interlace ≤ 1 ∧ 0 < width ∧ 0 < height then
      some ⟨width, height⟩
    else none
  | _ => none

/-- Whether whole chunks lead to picture data and beyond it; `seen` says that data came already. -/
def hasData (seen : Bool) : Nat → List UInt8 → Bool
  | 0, _ => false
  | fuel + 1, bytes =>
    let kind := (bytes.drop 4).take 4
    if kind.length < 4 then false
    else if kind = dataKind then
      match Chunk.take? bytes with
      | some (_, rest) => hasData true fuel rest
      | none => false
    else if seen then true
    else if kind = endKind then false
    else match Chunk.take? bytes with
      | some (_, rest) => hasData false fuel rest
      | none => false

def size? (bytes : List UInt8) : Option Size :=
  if signature.isPrefixOf bytes then do
    let (header, rest) ← Chunk.take? (bytes.drop signature.length)
    let size ← headerSize? header
    if hasData false rest.length rest then some size else none
  else none

end MarkupLayout.Picture.Png
