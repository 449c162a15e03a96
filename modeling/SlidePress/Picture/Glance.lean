import SlidePress.Picture.Reading

/-!
The dimensions of a picture at a glance: the format is told by the first bytes, and the dimensions
are read where they are, without a look at anything else.
-/

namespace SlidePress.Picture

/-- The formats that are told by their first bytes. -/
inductive Mark where
  | png
  | jpeg
  | gif
  | webP
  | tiff
  | bitmap
  | layered
  | icon
  | openExr
  | texture
  | qoi
  | farbfeld
  deriving DecidableEq, Repr

/-- The formats that pictures in files and in texts can have. -/
def Mark.isCommon (mark : Mark) : Bool :=
  mark ∈ [.png, .jpeg, .gif, .webP]

def leastBytes : Nat := 12

/-- The first bytes of pictures by their formats. -/
def fronts : List (List UInt8 × Mark) := [
  ([0xFF, 0xD8, 0xFF], .jpeg), ([0x89, 0x50, 0x4E, 0x47, 0x0D, 0x0A, 0x1A, 0x0A], .png),
  (ascii "GIF8", .gif), (ascii "II*" ++ [0], .tiff), (ascii "MM" ++ [0, 0x2A], .tiff),
  (ascii "BM", .bitmap), (ascii "8BPS", .layered), ([0, 0, 1, 0], .icon),
  ([0x76, 0x2F, 0x31, 0x01], .openExr), (ascii "DDS ", .texture), (ascii "qoif", .qoi),
  (ascii "farbfeld", .farbfeld)]

def Mark.ofBytes? (bytes : List UInt8) : Option Mark :=
  let front := bytes.take leastBytes
  if front.length < leastBytes then none
  else if front.take 4 = ascii "RIFF" ∧ front.drop 8 = ascii "WEBP" then some .webP
  else fronts.findSome? fun (start, mark) => if front.take start.length = start then some mark else none

def isFrameMarker (marker : Nat) : Bool :=
  0xC0 ≤ marker && marker ≤ 0xCF && !([0xC4, 0xC8, 0xCC] : List Nat).contains marker

/-- Reads segments up to the dimensions; `depth` says how many smaller pictures are around here. -/
def glanceSegments : (fuel : Nat) → (depth : Nat) → Reading Dimensions
  | 0, _ => failure
  | fuel + 1, depth => do
    guard ((← Reading.byte) = 0xFF)
    let marker ← Reading.byte
    if isFrameMarker marker ∧ depth = 0 then
      Reading.skip 3
      let height ← Reading.high 2
      return (← Reading.high 2, height)
    else
      guard (marker ≠ 0xD9 ∨ 0 < depth)
      let length ← Reading.high 2
      guard (2 ≤ length)
      Reading.skip (length - 2)
      glanceSegments fuel
        (if marker = 0xD8 then depth + 1 else if marker = 0xD9 then depth - 1 else depth)

def glancePiece (letter : Char) : Reading Dimensions :=
  match letter with
  | ' ' => do
    Reading.skip 10
    let width ← Reading.low 2
    return (width % 0x4000, (← Reading.low 2) % 0x4000)
  | 'L' => do
    Reading.skip 5
    let fields ← Reading.low 4
    return (fields % 0x4000 + 1, fields / 0x4000 % 0x4000 + 1)
  | 'X' => do
    Reading.skip 8
    let width ← Reading.low 3
    return (width + 1, (← Reading.low 3) + 1)
  | _ => failure

/-- The largest of so many pictures in a table; of several largest ones the last. A table that ends too
early is read up to there. -/
def glanceEntries : (count : Nat) → (found : Option Dimensions) → Reading Dimensions
  | 0, found => StateT.lift found
  | count + 1, found => do
    match ← get with
    | width :: height :: rest =>
      let side (byte : UInt8) : Nat := if byte = 0 then 256 else byte.toNat
      let entry := (side width, side height)
      let isSmaller := found.any fun other => entry.1 * entry.2 < other.1 * other.2
      set (rest.drop 14)
      glanceEntries count (if isSmaller then found else some entry)
    | _ => StateT.lift found

def glanceText : Reading (List UInt8) := fun rest =>
  match rest.dropWhile (· ≠ 0) with
  | _ :: after => some (rest.takeWhile (· ≠ 0), after)
  | [] => none

/-- Reads named fields up to the window that is shown, from the lowest to the highest column and row. -/
def glanceWindow : (fuel : Nat) → Reading Dimensions
  | 0 => failure
  | fuel + 1 => do
    let name ← glanceText
    guard (!name.isEmpty)
    discard glanceText
    let size ← Reading.low 4
    if name = ascii "displayWindow" then
      let corner ← Reading.bytes 8
      let (left, top) := (numberOf (corner.take 4).reverse, numberOf (corner.drop 4).reverse)
      let right ← Reading.low 4
      let bottom ← Reading.low 4
      let count (low high : Nat) : Nat := (high + 0x100000000 - low) % 0x100000000 + 1
      return (count left right, count top bottom)
    else
      Reading.skip size
      glanceWindow fuel

/-- Reads entries of numbered fields up to both sides; the highest byte comes first if `isHigh`. -/
def glanceFields (isHigh : Bool) :
    (count : Nat) → (width height : Option Nat) → Reading Dimensions
  | _, some width, some height => return (width, height)
  | 0, _, _ => failure
  | count + 1, width, height => do
    let number (bytes : List UInt8) : Nat := numberOf (if isHigh then bytes else bytes.reverse)
    let field := number (← Reading.bytes 2)
    let kind := number (← Reading.bytes 2)
    guard (1 ≤ kind ∧ kind ≤ 18 ∧ kind ≠ 14 ∧ kind ≠ 15)
    Reading.skip 4
    let bytes ← Reading.bytes 4
    let size := if kind ∈ [1, 2, 6, 7] then 1 else if kind = 3 ∨ kind = 8 then 2 else 4
    let value := number (bytes.take size)
    glanceFields isHigh count (if field = 0x100 then some value else width)
      (if field = 0x101 then some value else height)

/-- Reads the sides behind so many bytes, each in four bytes, the highest one first. -/
def glanceSides (offset : Nat) : Reading Dimensions := do
  Reading.skip offset
  return (← Reading.high 4, ← Reading.high 4)

def Mark.glance : Mark → Reading Dimensions
  | .png => glanceSides 16
  | .jpeg => do
    Reading.skip 2
    glanceSegments (← get).length 0
  | .gif => do
    Reading.skip 6
    return (← Reading.low 2, ← Reading.low 2)
  | .webP => do
    Reading.skip 15
    glancePiece (Char.ofNat (← Reading.byte))
  | .tiff => do
    let file ← get
    let isHigh := file.head? = some 0x4D
    let number (bytes : List UInt8) : Nat := numberOf (if isHigh then bytes else bytes.reverse)
    Reading.skip 4
    let offset := number (← Reading.bytes 4)
    guard (offset ≠ 0)
    set (file.drop offset)
    glanceFields isHigh (number (← Reading.bytes 2)) none none
  | .bitmap => do
    Reading.skip 18
    return (← Reading.low 4, ← Reading.low 4)
  | .layered => do
    let (height, width) ← glanceSides 14
    return (width, height)
  | .icon => do
    Reading.skip 4
    glanceEntries (← Reading.low 2) none
  | .openExr => do
    Reading.skip 8
    glanceWindow (← get).length
  | .texture => do
    Reading.skip 12
    let height ← Reading.low 4
    return (← Reading.low 4, height)
  | .qoi => glanceSides 4
  | .farbfeld => glanceSides 8

def glance? (bytes : List UInt8) : Option Dimensions :=
  (Mark.ofBytes? bytes).bind fun mark => mark.glance.run' bytes

end SlidePress.Picture
