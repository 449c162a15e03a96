import SlidePress.Picture.Reading

/-!
Pictures that are stored with losses. What stands in front of the pixels is written in bits that are
packed by their odds, all of which are even here; behind the end of their bytes they go on with zeros.
-/

namespace SlidePress.Picture.WebP

/-- Bits that are packed by their odds. -/
structure PackedBits where
  /-- The bytes that have not been taken yet. -/
  rest : List UInt8
  /-- Where in the range the bits at hand are, in parts of a byte. -/
  value : Nat
  range : Nat := 255
  /-- How many bits of the byte at hand have been taken. -/
  taken : Nat := 0

namespace PackedBits

def ofBytes? : List UInt8 → Option PackedBits
  | high :: low :: rest => some { rest, value := high.toNat * 256 + low.toNat }
  | _ => none

/-- Doubles the range until it is large enough. -/
def widen : (fuel : Nat) → PackedBits → PackedBits
  | 0, bits => bits
  | fuel + 1, bits =>
    if 128 ≤ bits.range then bits
    else
      let value := 2 * bits.value
      let range := 2 * bits.range
      if bits.taken + 1 < 8 then widen fuel ⟨bits.rest, value, range, bits.taken + 1⟩
      else
        match bits.rest with
        | [] => widen fuel ⟨[], value, range, 0⟩
        | byte :: rest => widen fuel ⟨rest, value + byte.toNat, range, 0⟩

def bit (bits : PackedBits) : Bool × PackedBits :=
  let part := 1 + (bits.range - 1) / 2
  if bits.value < part * 256 then (false, widen 8 { bits with range := part })
  else
    (true, widen 8 { bits with value := bits.value - part * 256, range := bits.range - part })

end PackedBits

abbrev PackedReading := StateM PackedBits

namespace PackedReading

def flag : PackedReading Bool := fun bits => bits.bit

/-- A number of so many bits, the highest one first. -/
def number : (count : Nat) → PackedReading Nat
  | 0 => return 0
  | count + 1 => do
    let high ← flag
    return (if high then Nat.pow 2 count else 0) + (← number count)

/-- Passes over so many numbers of so many bits, each behind a flag that says whether it is there. -/
def skipNumbers (bits : Nat) : (count : Nat) → PackedReading Unit
  | 0 => return
  | count + 1 => do
    if ← flag then let _ ← number bits
    skipNumbers bits count

end PackedReading

/-- Passes over what is said of the segments of a picture: whether their map changes, the numbers of
each segment with their signs, and the odds of the map. -/
def skipSegments : PackedReading Unit := do
  let hasMap ← PackedReading.flag
  if ← PackedReading.flag then
    let _ ← PackedReading.flag
    PackedReading.skipNumbers 8 4
    PackedReading.skipNumbers 7 4
  if hasMap then PackedReading.skipNumbers 8 3

/-- Reads what stands in front of the pixels: whether colors are stored in the one way that is known,
and the number of the parts behind. -/
def readFrontBits : PackedReading (Bool × Nat) := do
  let isOther ← PackedReading.flag
  let _ ← PackedReading.flag
  if ← PackedReading.flag then skipSegments
  let _ ← PackedReading.number 10
  if ← PackedReading.flag then
    if ← PackedReading.flag then PackedReading.skipNumbers 7 8
  return (!isOther, Nat.pow 2 (← PackedReading.number 2))

def frameMark : List UInt8 := [0x9D, 0x01, 0x2A]

/-- Reads parts of the given sizes, each of which has packed bits. -/
def readFrameParts : List Nat → Reading Unit
  | [] => return
  | size :: sizes => do
    guard (PackedBits.ofBytes? (← Reading.bytes size)).isSome
    readFrameParts sizes

def readSizes : (count : Nat) → Reading (List Nat)
  | 0 => return []
  | count + 1 => return (← Reading.low 3) :: (← readSizes count)

/-- Reads a picture. It has to be the first of its kind, and the two upper bits of its dimensions say
how it is shown. -/
def readLossy : Reading Dimensions := do
  let flags ← Reading.low 3
  guard (flags % 2 = 0)
  guard ((← Reading.bytes 3) = frameMark)
  let width ← Reading.low 2
  let height ← Reading.low 2
  let bits ← StateT.lift (PackedBits.ofBytes? (← Reading.bytes (flags / 32)))
  let (isKnown, count) := (readFrontBits.run bits).1
  guard isKnown
  readFrameParts (← readSizes (count - 1))
  guard (PackedBits.ofBytes? (← get)).isSome
  return (width % 0x4000, height % 0x4000)

end SlidePress.Picture.WebP
