import SlidePress.Bytes
import SlidePress.Picture.Reading

/-!
The pieces of a picture and the header, which is the first of them. Behind every piece stands a
checksum of its name and of what is in it.
-/

namespace SlidePress.Picture

def signature : List UInt8 := [0x89, 0x50, 0x4E, 0x47, 0x0D, 0x0A, 0x1A, 0x0A]

def headerName : List UInt8 := ascii "IHDR"
def pixelsName : List UInt8 := ascii "IDAT"
def endName : List UInt8 := ascii "IEND"

/-- A piece of a picture: its name, what is in it, and whether its checksum is right. -/
structure Chunk where
  name : List UInt8
  data : List UInt8
  isSound : Bool

namespace Chunk

def readFront : Reading (Nat × List UInt8) := do
  let length ← Reading.high 4
  let name ← Reading.bytes 4
  return (length, name)

def readRest (length : Nat) (name : List UInt8) : Reading Chunk := do
  let data ← Reading.bytes length
  let sum ← Reading.high 4
  return { name, data, isSound := (checksum ⟨(name ++ data).toArray⟩).toNat = sum }

/-- Whether a picture can do without a piece of this name: its first letter is a small one. -/
def isSpare (name : List UInt8) : Bool :=
  name.head?.any (·.toNat.testBit 5)

end Chunk

/-- What the samples of a pixel stand for. -/
inductive PixelKind where
  | gray
  | color
  | palette
  | grayAlpha
  | colorAlpha
  deriving DecidableEq, Repr

namespace PixelKind

def ofNumber? : Nat → Option PixelKind
  | 0 => some .gray
  | 2 => some .color
  | 3 => some .palette
  | 4 => some .grayAlpha
  | 6 => some .colorAlpha
  | _ => none

def sampleBits : PixelKind → List Nat
  | .gray => [1, 2, 4, 8, 16]
  | .palette => [1, 2, 4, 8]
  | .color | .grayAlpha | .colorAlpha => [8, 16]

/-- The number of samples of a pixel that is written out, without a palette and with one sample
more if some pixels are transparent. -/
def samples (kind : PixelKind) (hasTransparency : Bool) : Nat :=
  match kind with
  | .gray => if hasTransparency then 2 else 1
  | .color | .palette => if hasTransparency then 4 else 3
  | .grayAlpha => 2
  | .colorAlpha => 4

end PixelKind

/-- What the header of a picture says. -/
structure Header where
  dimensions : Dimensions
  bits : Nat
  kind : PixelKind

def Header.read : Reading Header := do
  let width ← Reading.high 4
  let height ← Reading.high 4
  guard (0 < width ∧ 0 < height)
  let bits ← Reading.byte
  let kind ← StateT.lift (PixelKind.ofNumber? (← Reading.byte))
  guard (bits ∈ kind.sampleBits)
  guard ((← Reading.high 2) = 0)
  guard ((← Reading.byte) ≤ 1)
  return { dimensions := (width, height), bits, kind }

end SlidePress.Picture
