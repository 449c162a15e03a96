import SlidePress.Picture.Bitmap
import SlidePress.Picture.Png

/-!
Icons: a table of pictures of which the best one is taken. Some of them are in the form of files of
their own, and the others have the front of such a file left out.
-/

namespace SlidePress.Picture.Icon

/-- A picture in the table. -/
structure Entry where
  dimensions : Dimensions
  /-- The bits of a pixel. -/
  bits : Nat
  /-- Where the picture begins in the file. -/
  start : Nat

namespace Entry

/-- The largest number in the fields of an entry that can also be those of a place. -/
def largestField : Nat := 256

/-- Reads a width or a height, where zero stands for the number after the largest. -/
def readSide : Reading Nat := do
  let side ← Reading.byte
  return if side = 0 then 256 else side

def read : Reading Entry := do
  let width ← readSide
  let height ← readSide
  Reading.skip 2
  let planes ← Reading.low 2
  let bits ← Reading.low 2
  guard (planes ≤ largestField ∧ bits ≤ largestField)
  Reading.skip 4
  return { dimensions := (width, height), bits, start := ← Reading.low 4 }

def area (entry : Entry) : Nat :=
  entry.dimensions.1 * entry.dimensions.2

/-- Whether an entry is better than another one: it has more bits for a pixel, or as many and more
pixels. -/
def isBetter (entry other : Entry) : Bool :=
  other.bits < entry.bits || (other.bits == entry.bits && other.area < entry.area)

end Entry

def readEntries : (count : Nat) → Reading (List Entry)
  | 0 => return []
  | count + 1 => return (← Entry.read) :: (← readEntries count)

/-- The best of the entries; of several best ones the last entry, or else the first of them. -/
def best? (entries : List Entry) : Option Entry :=
  entries.getLast?.map fun last =>
    entries.dropLast.foldl (fun best entry => if entry.isBetter best then entry else best) last

def readPicture : Reading Dimensions := do
  let start ← get
  let front ← Reading.bytes signature.length
  set start
  if front = signature then readPng largestCount else Bitmap.readIcon

def read : Reading Dimensions := do
  let file ← get
  Reading.skip 4
  let entries ← readEntries (← Reading.low 2)
  let entry ← StateT.lift (best? entries)
  set (file.drop entry.start)
  readPicture

end SlidePress.Picture.Icon
