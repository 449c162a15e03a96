import SlidePress.Picture.Reading

/-!
Kinds of pictures whose dimensions stand in a header of a fixed form.
-/

/-! ### Farbfeld

Pictures with a header of a mark and the dimensions. Each pixel has four samples of two bytes.
-/

namespace SlidePress.Picture.Farbfeld

def pixelBytes : Nat := 8

def read : Reading Dimensions := do
  Reading.mark "farbfeld"
  let width ← Reading.high 4
  let height ← Reading.high 4
  guard (isCountable (width, height) pixelBytes)
  return (width, height)

end SlidePress.Picture.Farbfeld

/-! ### Qoi

Pictures with a header of a mark, the dimensions, the number of samples of a pixel, and what their
values stand for.
-/

namespace SlidePress.Picture.Qoi

def mostPixels : Nat := 400000000

def read : Reading Dimensions := do
  Reading.mark "qoif"
  let width ← Reading.high 4
  let height ← Reading.high 4
  let samples ← Reading.byte
  let meaning ← Reading.byte
  guard (0 < width * height ∧ width * height ≤ mostPixels)
  guard ((samples = 3 ∨ samples = 4) ∧ meaning ≤ 1)
  return (width, height)

end SlidePress.Picture.Qoi

/-! ### Targa

Pictures whose header has fields at fixed places and no mark. A name and a palette can follow it.
-/

namespace SlidePress.Picture.Targa

/-- What a header says of the palette. -/
structure Palette where
  kind : Nat
  size : Nat
  /-- The bits of a color. -/
  bits : Nat

/-- The bytes of all colors; only a palette of the first kind has any. -/
def Palette.byteCount (palette : Palette) : Nat :=
  if palette.kind = 1 then (palette.bits + 7) / 8 * palette.size else 0

def hasColors (kind : Nat) : Bool :=
  kind ∈ [1, 2, 9, 10]

/-- The bits for transparency and those for everything else that pixels can have, with colors and
without. -/
def pixelBits (hasColors : Bool) : List (Nat × Nat) :=
  if hasColors then [(0, 32), (8, 24), (0, 24)] else [(8, 8), (0, 8), (8, 0)]

/-- Reads the header of a picture, its name, and its palette. The name is passed over without a look
at it, so that a file may end before the end of the name. -/
def read : Reading Dimensions := do
  let nameSize ← Reading.byte
  let paletteKind ← Reading.byte
  let kind ← Reading.byte
  Reading.skip 2
  let palette : Palette := ⟨paletteKind, ← Reading.low 2, ← Reading.byte⟩
  Reading.skip 4
  let width ← Reading.low 2
  let height ← Reading.low 2
  let bits ← Reading.byte
  let transparent := (← Reading.byte) % 16
  modify (·.drop nameSize)
  Reading.skip palette.byteCount
  guard (bits % 8 = 0 ∧ bits ≤ 32)
  guard (palette.kind ≠ 0 ∨ transparent ≤ bits)
  let others := if palette.kind = 0 then bits - transparent else palette.bits
  guard ((transparent, others) ∈ pixelBits (hasColors kind))
  return (width, height)

end SlidePress.Picture.Targa

/-! ### Texture

Textures whose pixels are packed in blocks of four rows and four columns.
-/

namespace SlidePress.Picture.Texture

def headerSize : Nat := 124
def pixelsSize : Nat := 32

/-- The flags that have to be set in a header, and all that can be. -/
def neededFlags : Nat := 0x1007
def knownFlags : Nat := 0x8A100F

def packedFlag : Nat := 2

/-- Reads a longer header behind the first one. The result is the number of the way in which the
pixels are packed. -/
def readExtension : Reading Nat := do
  let packing ← Reading.low 4
  let directions ← Reading.low 4
  let flags ← Reading.low 4
  let count ← Reading.low 4
  let transparency ← Reading.low 4
  guard (2 ≤ directions ∧ directions ≤ 4)
  guard (flags = 0 ∨ flags = 4)
  guard (directions = 4 → count = 1)
  guard (transparency ≤ 4)
  return packing

/-- The bytes of a pixel once it is unpacked, by the number of the way in which it is packed. -/
def pixelBytes? (packing : Nat) : Option Nat :=
  if 70 ≤ packing ∧ packing ≤ 72 then some 3
  else if 73 ≤ packing ∧ packing ≤ 78 then some 4
  else none

def read : Reading Dimensions := do
  Reading.mark "DDS "
  guard ((← Reading.low 4) = headerSize)
  let flags ← Reading.low 4
  guard (flags &&& neededFlags = neededFlags ∧ flags ||| knownFlags = knownFlags)
  let height ← Reading.low 4
  let width ← Reading.low 4
  Reading.skip 56
  guard ((← Reading.low 4) = pixelsSize)
  let pixelFlags ← Reading.low 4
  let name ← Reading.bytes 4
  Reading.skip 40
  guard (pixelFlags.testBit packedFlag)
  let pixelBytes ←
    if name = ascii "DXT1" then pure 3
    else if name = ascii "DXT3" ∨ name = ascii "DXT5" then pure 4
    else
      guard (name = ascii "DX10")
      StateT.lift (pixelBytes? (← readExtension))
  guard (isCountable (width, height) pixelBytes ∧ width % 4 = 0 ∧ height % 4 = 0)
  return (width, height)

end SlidePress.Picture.Texture
