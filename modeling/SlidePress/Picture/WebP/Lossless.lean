import SlidePress.Picture.Reading
import SlidePress.Picture.WebP.Coding

/-!
Pictures that are stored without losses: pixels as words of codes, as copies of pixels that have been
read already, or as entries of a table of the last ones. In front of the pixels stand smaller pictures
that say how they are changed, and which codes they are written in.
-/

namespace SlidePress.Picture.WebP

open Compression

/-- The codes that pixels are written in. -/
structure Group where
  green : Coding
  red : Coding
  blue : Coding
  alpha : Coding
  distance : Coding

/-- The numbers of symbols for greens, for lengths behind them, for other parts of colors, and for
distances. -/
def greenCount : Nat := 256
def lengthCount : Nat := 24
def partCount : Nat := 256
def distanceCount : Nat := 40

/-- Reads how many bits the places in the table of the last pixels have, if there is one. -/
def readTableBits : BitReading (Option Nat) := do
  if ← BitReading.flag then
    let bits ← BitReading.number 4
    guard (1 ≤ bits ∧ bits ≤ 11)
    return some bits
  else return none

def tableSize (tableBits : Option Nat) : Nat :=
  (tableBits.map (Nat.pow 2)).getD 0

def readGroup (tableBits : Option Nat) : BitReading Group := do
  let green ← readCoding (greenCount + lengthCount + tableSize tableBits)
  let red ← readCoding partCount
  let blue ← readCoding partCount
  let alpha ← readCoding partCount
  return { green, red, blue, alpha, distance := ← readCoding distanceCount }

def readGroups (tableBits : Option Nat) : (count : Nat) → Array Group → BitReading (Array Group)
  | 0, groups => return groups
  | count + 1, groups => do readGroups tableBits count (groups.push (← readGroup tableBits))

def pixelOf (alpha red green blue : Nat) : UInt32 :=
  (((alpha * 256 + red) * 256 + green) * 256 + blue).toUInt32

/-- Pixels from left to right and from top to bottom, or one for all of them. -/
inductive Pixels where
  | all (pixel : UInt32)
  | each (pixels : Array UInt32)

def groupNumber (pixel : UInt32) : Nat :=
  pixel.toNat / 256 % 65536

def Pixels.groupAt (pixels : Pixels) (index : Nat) : Nat :=
  match pixels with
  | .all pixel => groupNumber pixel
  | .each pixels => groupNumber (pixels[index]?.getD 0)

def Pixels.groupCount : Pixels → Nat
  | .all pixel => groupNumber pixel + 1
  | .each pixels => pixels.foldl (fun count pixel => max count (groupNumber pixel + 1)) 1

def shrunk (side bits : Nat) : Nat :=
  parts side (Nat.pow 2 bits)

/-- How the pixels of a picture are written. -/
structure Scheme where
  width : Nat
  height : Nat
  tableBits : Option Nat
  groups : Array Group
  /-- The groups of blocks, and the bits of the sides of blocks. -/
  chosen : Pixels := .all 0
  blockBits : Nat := 0

def Scheme.groupAt? (scheme : Scheme) (index : Nat) : Option Group :=
  let column := index % scheme.width / Nat.pow 2 scheme.blockBits
  let row := index / scheme.width / Nat.pow 2 scheme.blockBits
  scheme.groups[scheme.chosen.groupAt (row * shrunk scheme.width scheme.blockBits + column)]?

/-- Pixels that have been read, and the table of the last ones. -/
structure Raster where
  pixels : Array UInt32
  table : Array UInt32

namespace Raster

def placeOf (bits : Nat) (pixel : UInt32) : Nat :=
  ((0x1E35A7BD * pixel) >>> (32 - bits).toUInt32).toNat

def add (tableBits : Option Nat) (pixel : UInt32) : Raster → Raster
  | ⟨pixels, table⟩ =>
    ⟨pixels.push pixel, table.setIfInBounds (placeOf (tableBits.getD 1) pixel) pixel⟩

def copy (tableBits : Option Nat) (distance : Nat) : (length : Nat) → Raster → Raster
  | 0, raster => raster
  | length + 1, raster =>
    let pixel := raster.pixels[raster.pixels.size - distance]?.getD 0
    copy tableBits distance length (raster.add tableBits pixel)

end Raster

def readAmount (symbol : Nat) : BitReading Nat := do
  if symbol < 4 then return symbol + 1
  else
    let bits := (symbol - 2) / 2
    return (2 + symbol % 2) * Nat.pow 2 bits + (← BitReading.number bits) + 1

/-- The pixels around one that have numbers of their own, by how far they are to the left and up; what
is to the right is counted below zero. -/
def neighbors : List (Int × Nat) := [
  (0, 1), (1, 0), (1, 1), (-1, 1), (0, 2), (2, 0), (1, 2), (-1, 2), (2, 1), (-2, 1), (2, 2), (-2, 2),
  (0, 3), (3, 0), (1, 3), (-1, 3), (3, 1), (-3, 1), (2, 3), (-2, 3), (3, 2), (-3, 2), (0, 4), (4, 0),
  (1, 4), (-1, 4), (4, 1), (-4, 1), (3, 3), (-3, 3), (2, 4), (-2, 4), (4, 2), (-4, 2), (0, 5),
  (3, 4), (-3, 4), (4, 3), (-4, 3), (5, 0), (1, 5), (-1, 5), (5, 1), (-5, 1), (2, 5), (-2, 5),
  (5, 2), (-5, 2), (4, 4), (-4, 4), (3, 5), (-3, 5), (5, 3), (-5, 3), (0, 6), (6, 0), (1, 6),
  (-1, 6), (6, 1), (-6, 1), (2, 6), (-2, 6), (6, 2), (-6, 2), (4, 5), (-4, 5), (5, 4), (-5, 4),
  (3, 6), (-3, 6), (6, 3), (-6, 3), (0, 7), (7, 0), (1, 7), (-1, 7), (5, 5), (-5, 5), (7, 1),
  (-7, 1), (4, 6), (-4, 6), (6, 4), (-6, 4), (2, 7), (-2, 7), (7, 2), (-7, 2), (3, 7), (-3, 7),
  (7, 3), (-7, 3), (5, 6), (-5, 6), (6, 5), (-6, 5), (8, 0), (4, 7), (-4, 7), (7, 4), (-7, 4),
  (8, 1), (8, 2), (6, 6), (-6, 6), (8, 3), (5, 7), (-5, 7), (7, 5), (-7, 5), (8, 4), (6, 7), (-6, 7),
  (7, 6), (-7, 6), (8, 5), (7, 7), (-7, 7), (8, 6), (8, 7)]

/-- The distance with a number, from one on: that of a neighbor, or the number without theirs. -/
def distanceOf (width number : Nat) : Nat :=
  match neighbors[number - 1]? with
  | some (left, up) => max 1 (left + (up * width : Nat)).toNat
  | none => number - neighbors.length

def readPixelsFrom (scheme : Scheme) : (fuel : Nat) → Raster → BitReading (Array UInt32)
  | 0, raster => return raster.pixels
  | fuel + 1, raster => do
    let index := raster.pixels.size
    let total := scheme.width * scheme.height
    if total ≤ index then return raster.pixels
    else
      let group ← StateT.lift (scheme.groupAt? index)
      let symbol ← group.green.read
      if symbol < greenCount then
        let red ← group.red.read
        let blue ← group.blue.read
        let alpha ← group.alpha.read
        readPixelsFrom scheme fuel (raster.add scheme.tableBits (pixelOf alpha red symbol blue))
      else if symbol < greenCount + lengthCount then
        let length ← readAmount (symbol - greenCount)
        let number ← readAmount (← group.distance.read)
        let distance := distanceOf scheme.width number
        guard (distance ≤ index ∧ length ≤ total - index)
        readPixelsFrom scheme fuel (raster.copy scheme.tableBits distance length)
      else
        let pixel ← StateT.lift raster.table[symbol - greenCount - lengthCount]?
        readPixelsFrom scheme fuel (raster.add scheme.tableBits pixel)

/-- The pixel that all pixels of a group are, if no bits are needed for them. -/
def Group.only? (group : Group) (tableBits : Option Nat) : Option UInt32 :=
  match group.green, group.red, group.blue, group.alpha with
  | .constant symbol, .constant red, .constant blue, .constant alpha =>
    if symbol < greenCount then some (pixelOf alpha red symbol blue)
    else if greenCount + lengthCount ≤ symbol && tableBits.isSome then some 0
    else none
  | _, _, _, _ => none

/-- Reads the pixels of a picture. Each of them is written by itself at most. -/
def readPixels (scheme : Scheme) : BitReading Pixels := do
  let only? := if scheme.groups.size = 1 then
      scheme.groups[0]?.bind (·.only? scheme.tableBits)
    else none
  match only? with
  | some pixel => return .all pixel
  | none =>
    let table := Array.replicate (tableSize scheme.tableBits) 0
    return .each (← readPixelsFrom scheme (scheme.width * scheme.height) ⟨#[], table⟩)

def readSmaller (width height : Nat) : BitReading Pixels := do
  let tableBits ← readTableBits
  readPixels { width, height, tableBits, groups := #[← readGroup tableBits] }

/-- How many bits fewer the number of a pixel has in a row in which the colors are numbered, by the
number of the colors. -/
def packedBits (colors : Nat) : Nat :=
  if colors ≤ 2 then 3 else if colors ≤ 4 then 2 else if colors ≤ 16 then 1 else 0

/-- Reads how the pixels are changed, each way once at most. The result is the width of the rows that
are written. Only rows that are as wide as the picture can be changed by blocks. -/
def readChanges (width height : Nat) : (fuel : Nat) → (kinds : List Nat) → (written : Nat) →
    BitReading Nat
  | 0, _, _ => failure
  | fuel + 1, kinds, written => do
    if !(← BitReading.flag) then return written
    else
      let kind ← BitReading.number 2
      guard !kinds.contains kind
      let written ← match kind with
        | 2 => pure written
        | 3 => do
          let colors := (← BitReading.number 8) + 1
          let _ ← readSmaller colors 1
          pure (shrunk written (packedBits colors))
        | _ => do
          guard (written = width)
          let bits := 2 + (← BitReading.number 3)
          let _ ← readSmaller (shrunk width bits) (shrunk height bits)
          pure written
      readChanges width height fuel (kind :: kinds) written

def changeCount : Nat := 4

def readStored (width height : Nat) : BitReading Unit := do
  let width ← readChanges width height (changeCount + 1) [] width
  let tableBits ← readTableBits
  if ← BitReading.flag then
    let blockBits := 2 + (← BitReading.number 3)
    let chosen ← readSmaller (shrunk width blockBits) (shrunk height blockBits)
    let groups ← readGroups tableBits chosen.groupCount #[]
    let _ ← readPixels { width, height, tableBits, groups, chosen, blockBits }
  else
    let _ ← readPixels { width, height, tableBits, groups := #[← readGroup tableBits] }

def readSized : BitReading Dimensions := do
  let width := (← BitReading.number 14) + 1
  let height := (← BitReading.number 14) + 1
  let _ ← BitReading.flag
  guard ((← BitReading.number 3) = 0)
  readStored width height
  return (width, height)

def losslessMark : UInt8 := 0x2F

def losslessDimensions? : List UInt8 → Option Dimensions
  | [] => none
  | mark :: bytes => if mark = losslessMark then readSized.run' ⟨⟨bytes.toArray⟩, 0⟩ else none

end SlidePress.Picture.WebP
