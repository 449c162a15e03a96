import SlidePress.Picture.Reading

/-!
Pictures in segments, each behind a marker. The dimensions are in the segment of the frame; what
stands in front of it has to be sound.
-/

namespace SlidePress.Picture.Jpeg

def startMarker : Nat := 0xD8
def quantizationMarker : Nat := 0xDB
def huffmanMarker : Nat := 0xC4
def intervalMarker : Nat := 0xDD
def commentMarker : Nat := 0xFE
def isApplication (marker : Nat) : Bool := 0xE0 ≤ marker && marker ≤ 0xEF

def colorApplication : Nat := 0xEE

/-- The frames that can be read: two with the transform of blocks in one go, one with it in several,
and one without a transform. -/
def baselineFrame : Nat := 0xC0
def extendedFrame : Nat := 0xC1
def progressiveFrame : Nat := 0xC2
def losslessFrame : Nat := 0xC3

/-- Reads up to a marker; bytes that are no part of a marker are passed over. -/
def readMarker : (fuel : Nat) → Reading Nat
  | 0 => failure
  | fuel + 1 => do
    modify (·.dropWhile (· ≠ 0xFF))
    modify (·.dropWhile (· = 0xFF))
    let marker ← Reading.byte
    if marker = 0 then readMarker fuel else return marker

/-- Reads what is in a segment. The length in front counts its own two bytes. -/
def readSegment : Reading (List UInt8) := do
  let length ← Reading.high 2
  guard (2 ≤ length)
  Reading.bytes (length - 2)

/-- Reads tables of divisors, which cannot be zero. -/
def readQuantization : (fuel : Nat) → Reading Unit
  | 0 => return
  | fuel + 1 => do
    if (← get).isEmpty then return
    let front ← Reading.byte
    guard (front / 16 ≤ 1 ∧ front % 16 ≤ 3)
    for _ in List.range 64 do
      guard (0 < (← Reading.high (front / 16 + 1)))
    readQuantization fuel

/-- Whether there are codes with so many words of every length, from the length one on; `next` is
the first word of the length that is not taken. -/
def isCode : (counts : List Nat) → (length next : Nat) → Bool
  | [], _, _ => true
  | count :: counts, length, next =>
    next + count ≤ Nat.pow 2 length && isCode counts (length + 1) (2 * (next + count))

/-- The bytes in front of the symbols of a code, and the most symbols. -/
def codeFront : Nat := 17
def mostSymbols : Nat := 256

def readHuffman : (fuel : Nat) → Reading Unit
  | 0 => return
  | fuel + 1 => do
    if (← get).length < codeFront then guard (← get).isEmpty
    else
      let front ← Reading.byte
      guard (front / 16 ≤ 1 ∧ front % 16 ≤ 3)
      let counts := (← Reading.bytes 16).map (·.toNat)
      let symbols := counts.foldl (· + ·) 0
      guard (0 < symbols ∧ symbols ≤ mostSymbols)
      Reading.skip symbols
      guard (isCode counts 1 0)
      readHuffman fuel

def readColors : Reading Unit := do
  if (← get).take 6 = ascii "Adobe" ++ [0] ∧ 12 ≤ (← get).length then
    Reading.skip 11
    guard ((← Reading.byte) ≤ 2)

/-- What the samples of a frame stand for: a name, and how many of them there are in a block from
left to right and from top to bottom. -/
structure Component where
  name : Nat
  across : Nat
  down : Nat

/-- Reads the components of a frame; without a transform there is one table for them. -/
def readComponents (isLossless : Bool) : (count : Nat) → Reading (List Component)
  | 0 => return []
  | count + 1 => do
    let name ← Reading.byte
    let factors ← Reading.byte
    let across := factors / 16
    let down := factors % 16
    guard (1 ≤ across ∧ across ≤ 4 ∧ 1 ≤ down ∧ down ≤ 4)
    guard ((← Reading.byte) ≤ if isLossless then 0 else 3)
    let components ← readComponents isLossless count
    guard (components.all (·.name ≠ name))
    return ⟨name, across, down⟩ :: components

/-- Whether every sample of a component stands for a whole number of pixels. In one direction that
can be another number too if it is all of them. -/
def isEven (dimensions : Dimensions) (components : List Component) : Bool :=
  let across := components.foldl (fun most component => max most component.across) 1
  let down := components.foldl (fun most component => max most component.down) 1
  components.all fun component =>
    let fitsAcross := component.across == across || dimensions.1 == 1
    let fitsDown := component.down == down || dimensions.2 == 1
    let isHalfAcross := 2 * component.across == across
    let isHalfDown := 2 * component.down == down
    (fitsAcross || isHalfAcross) && (fitsDown || isHalfDown) ||
      across % component.across == 0 && down % component.down == 0

/-- Reads a frame. Its samples have eight bits, except without a transform, where they have two bits
at least. -/
def readFrame (marker : Nat) : Reading Dimensions := do
  let isLossless := marker = losslessFrame
  let bits ← Reading.byte
  guard (bits = 8 ∨ isLossless ∧ 2 ≤ bits ∧ bits ≤ 16)
  let height ← Reading.high 2
  let width ← Reading.high 2
  guard (0 < width ∧ 0 < height)
  let count ← Reading.byte
  guard (count ∈ [1, 3, 4] ∧ (← get).length = 3 * count)
  let components ← readComponents isLossless count
  guard (isEven (width, height) components)
  return (width, height)

def readOther (marker : Nat) : Reading Unit := do
  if marker = quantizationMarker then readQuantization (← get).length
  else if marker = huffmanMarker then readHuffman (← get).length
  else if marker = intervalMarker then guard ((← get).length = 2)
  else if marker = colorApplication then readColors
  else guard (isApplication marker ∨ marker = commentMarker)

def readSegments : (fuel : Nat) → Reading Dimensions
  | 0 => failure
  | fuel + 1 => do
    let marker ← readMarker fuel
    let segment ← readSegment
    if marker ∈ [baselineFrame, extendedFrame, progressiveFrame, losslessFrame] then
      StateT.lift ((readFrame marker).run' segment)
    else
      guard ((readOther marker).run' segment).isSome
      readSegments fuel

def read : Reading Dimensions := do
  guard ((← Reading.high 2) = 0xFF00 + startMarker)
  readSegments (← get).length

end SlidePress.Picture.Jpeg
