import SlidePress.Picture.WebP.Lossless
import SlidePress.Picture.WebP.Lossy

/-!
Pictures in pieces, each behind its name and its length. The first piece is a picture of one of two
kinds, or the description of a larger one, which is followed by its pieces.
-/

namespace SlidePress.Picture.WebP

structure Piece where
  name : List UInt8
  data : List UInt8

def lossyName : List UInt8 := ascii "VP8 "
def losslessName : List UInt8 := ascii "VP8L"
def descriptionName : List UInt8 := ascii "VP8X"
def alphaName : List UInt8 := ascii "ALPH"
def animationName : List UInt8 := ascii "ANIM"
def frameName : List UInt8 := ascii "ANMF"

/-- The pieces that say nothing of how a picture is shown. -/
def idleNames : List (List UInt8) := [ascii "ICCP", ascii "EXIF", ascii "XMP "]

def frontNames : List (List UInt8) := [ascii "RIFF", ascii "WEBP", descriptionName]

def knownNames : List (List UInt8) :=
  [lossyName, losslessName, alphaName, animationName, frameName] ++ idleNames ++ frontNames

/-- Reads a piece, if there is one more. Its end may be missing. Behind a piece of an odd length
stands one byte more, and if that is missing, the last byte of the piece counts as this one. -/
def readPiece : Reading (Option Piece) := do
  if (← get).length < 4 then return none
  else
    let name ← Reading.bytes 4
    let length ← Reading.low 4
    let rest ← get
    let data := rest.take (length + length % 2)
    set (rest.drop (length + length % 2))
    return some ⟨name, if length % 2 = 1 then data.dropLast else data⟩

/-- Reads the next piece of a known name. Pieces of other names can only stand behind all of those. -/
def readKnown : (fuel : Nat) → (hasPassed : Bool) → Reading (Option Piece)
  | 0, _ => failure
  | fuel + 1, hasPassed => do
    match ← readPiece with
    | none => return none
    | some piece =>
      if !knownNames.contains piece.name then readKnown fuel true
      else
        guard !hasPassed
        return some piece

def Piece.dimensions? (piece : Piece) : Option Dimensions :=
  if piece.name = lossyName then readLossy.run' piece.data
  else if piece.name = losslessName then losslessDimensions? piece.data
  else none

/-- The number of pixels of which the transparency stands in bytes, for a picture of a size. It is
written as it is, or as the pixels of a picture. -/
def alphaCount? (size : Dimensions) : List UInt8 → Option Nat
  | [] => none
  | mode :: bytes =>
    let mode := mode.toNat
    if 2 ≤ mode / 16 then none
    else
      match mode % 4 with
      | 0 => some bytes.length
      | 1 =>
        if 0xFFFF < size.1 ∨ 0xFFFF < size.2 then none
        else ((readStored size.1 size.2).run' ⟨⟨bytes.toArray⟩, 0⟩).map fun _ => size.1 * size.2
      | _ => none

/-- Reads the picture in or behind a piece: transparency stands in front of a picture that is stored
with losses. -/
def readStill (size : Dimensions) (piece : Piece) : Reading Unit := do
  if piece.name = alphaName then
    let count ← StateT.lift (alphaCount? size piece.data)
    let some piece ← readPiece | failure
    guard (piece.name = lossyName)
    let (width, height) ← StateT.lift piece.dimensions?
    guard (width * height = count)
  else guard piece.dimensions?.isSome

/-- Reads a frame of an animation, which lies inside of the whole. -/
def readFrame (size : Dimensions) : Reading Unit := do
  let left ← Reading.low 3
  let top ← Reading.low 3
  let width := (← Reading.low 3) + 1
  let height := (← Reading.low 3) + 1
  guard (2 * left + width ≤ size.1 ∧ 2 * top + height ≤ size.2)
  Reading.skip 3
  guard ((← Reading.byte) < 4)
  let some piece ← readPiece | failure
  readStill (width, height) piece

/-- What has been found in the pieces behind a description. -/
structure Found where
  hasStill : Bool := false
  isAnimated : Bool := false
  hasFrame : Bool := false

/-- Reads the pieces behind a description. Only the first picture and the first word of an animation
are looked at. -/
def readPieces (size : Dimensions) : (fuel : Nat) → Found → Reading Found
  | 0, _ => failure
  | fuel + 1, found => do
    match ← readKnown ((← get).length + 1) false with
    | none => return found
    | some piece =>
      let found ←
        if piece.name = animationName then do
          guard (found.isAnimated ∨ 6 ≤ piece.data.length)
          pure { found with isAnimated := true }
        else if piece.name = frameName then do
          guard ((readFrame size).run' piece.data).isSome
          pure { found with hasFrame := true }
        else if idleNames.contains piece.name then pure found
        else do
          guard !frontNames.contains piece.name
          if !found.hasStill then readStill size piece
          pure { found with hasStill := true }
      readPieces size fuel found

def readDescription : Reading Dimensions := do
  let flags ← Reading.byte
  guard (flags / 64 = 0 ∧ flags % 2 = 0)
  guard ((← Reading.low 3) = 0)
  let width ← Reading.low 3
  let height ← Reading.low 3
  guard ((width + 1) * (height + 1) ≤ 0xFFFFFFFF)
  return (width + 1, height + 1)

def read : Reading Dimensions := do
  Reading.mark "RIFF"
  Reading.skip 4
  Reading.mark "WEBP"
  let some piece ← readPiece | failure
  if piece.name ≠ descriptionName then StateT.lift piece.dimensions?
  else
    let size ← StateT.lift (readDescription.run' piece.data)
    let found ← readPieces size ((← get).length + 1) {}
    guard (if found.isAnimated then found.hasFrame else found.hasStill)
    return size

end SlidePress.Picture.WebP
