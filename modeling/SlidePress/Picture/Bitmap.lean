import SlidePress.Picture.Reading

/-!
Pictures with a header in one of six sizes, and behind it the colors of a palette if the pixels have
eight bits at most. Where such a picture is an icon, the front with the mark is left out.
-/

namespace SlidePress.Picture.Bitmap

/-- The headers, by their sizes. The first is shorter than the fields of all others, and in the last
three there is a mask for transparency. -/
def coreSize : Nat := 12
def infoSizes : List Nat := [40, 52]
def maskedSizes : List Nat := [56, 108, 124]

def largestSide : Nat := 0xFFFF

/-- How pixels are stored. -/
inductive Storage where
  | plain
  | runsOfBytes
  | runsOfHalves
  | masked

structure Header where
  dimensions : Dimensions
  /-- The bits of a pixel. -/
  bits : Nat
  storage : Storage := .plain
  /-- The number of colors of the palette, or zero for as many as pixels can have. -/
  colors : Nat := 0

namespace Header

def hasPalette (header : Header) : Bool :=
  match header.storage with
  | .plain => header.bits ≤ 8
  | .runsOfBytes | .runsOfHalves => true
  | .masked => false

/-- The number of colors of the palette, if its pixels can have all of them. -/
def paletteSize? (header : Header) : Option Nat :=
  let most := Nat.pow 2 header.bits
  if header.colors = 0 then some most
  else if header.colors ≤ most then some header.colors
  else none

end Header

def readCore : Reading Header := do
  let width ← Reading.low 2
  let height ← Reading.low 2
  guard (0 < width ∧ 0 < height)
  guard ((← Reading.low 2) = 1)
  let bits ← Reading.low 2
  guard (bits ∈ [1, 4, 8, 24])
  return { dimensions := (width, height), bits }

/-- The first of the numbers of four bytes that stand for negative numbers. -/
def firstNegative : Nat := 0x80000000

/-- The way of storing pixels with a number, and the bits that pixels can have then. -/
def storage? : Nat → Option (Storage × List Nat)
  | 0 => some (.plain, [1, 2, 4, 8, 16, 24, 32])
  | 1 => some (.runsOfBytes, [8])
  | 2 => some (.runsOfHalves, [4])
  | 3 => some (.masked, [16, 32])
  | _ => none

def Storage.goesDown : Storage → Bool
  | .plain | .masked => true
  | .runsOfBytes | .runsOfHalves => false

/-- Reads a long header behind its size. A negative height says that the first row is the top one. -/
def readInfo : Reading Header := do
  let width ← Reading.low 4
  let height ← Reading.low 4
  let goesDown := firstNegative < height
  guard (0 < width ∧ width ≤ largestSide)
  guard (0 < height ∧ (height ≤ largestSide ∨ goesDown))
  guard ((← Reading.low 2) = 1)
  let bits ← Reading.low 2
  let (storage, allowed) ← StateT.lift (storage? (← Reading.low 4))
  guard (bits ∈ allowed ∧ (goesDown → storage.goesDown))
  Reading.skip 12
  let colors ← Reading.low 4
  Reading.skip 4
  let height := if goesDown then 2 * firstNegative - height else height
  return { dimensions := (width, height), bits, storage, colors }

def lowestBit (mask : Nat) : (count place : Nat) → Nat
  | 0, place => place
  | count + 1, place => if mask.testBit place then place else lowestBit mask count (place + 1)

/-- Whether the bits of a mask are side by side in a pixel. No bits are, too. -/
def isRun (bits mask : Nat) : Bool :=
  let run := mask / Nat.pow 2 (lowestBit mask 32 0) + 1
  mask < Nat.pow 2 bits && Nat.pow 2 (run.log2) = run

def readMasks (bits : Nat) (hasTransparency : Bool) : Reading Unit := do
  for _ in [0, 1, 2] do
    let mask ← Reading.low 4
    guard (mask ≠ 0 ∧ isRun bits mask)
  if hasTransparency then guard (isRun bits (← Reading.low 4))

/-- Reads the header of a picture and the palette behind it; the bytes of a color of the palette are
four unless the header is the short one. -/
def readDescription : Reading Dimensions := do
  let start ← get
  let size ← Reading.low 4
  guard (size = coreSize ∨ size ∈ infoSizes ∨ size ∈ maskedSizes)
  let header ← if size = coreSize then readCore else readInfo
  match header.storage with
  | .masked => readMasks header.bits (size ∈ maskedSizes)
  | .plain | .runsOfBytes | .runsOfHalves => pure ()
  if header.hasPalette then
    set (start.drop size)
    let colors ← StateT.lift header.paletteSize?
    Reading.skip (colors * (if size = coreSize then 3 else 4))
  return header.dimensions

def read : Reading Dimensions := do
  Reading.mark "BM"
  Reading.skip 12
  readDescription

/-- Reads a picture that is an icon. Half of its rows say which pixels there are. -/
def readIcon : Reading Dimensions := do
  let (width, height) ← readDescription
  return (width, height / 2)

end SlidePress.Picture.Bitmap
