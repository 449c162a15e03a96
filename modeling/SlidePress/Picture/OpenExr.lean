import SlidePress.Picture.OpenExr.Attribute

/-!
Pictures in parts that are described by attributes with names. The attributes of a part have to go
together, and the number of its chunks follows from them. The dimensions of a picture are those of the
place where the first part with the three colors is shown.
-/

namespace SlidePress.Picture.OpenExr

structure Part where
  dimensions : Dimensions
  /-- The names of its channels. -/
  channels : List (List UInt8)

def Part.isColored (part : Part) : Bool :=
  ["R", "G", "B"].all fun name => part.channels.contains (ascii name)

/-! ### Chunks -/

/-- How many rows stand in a chunk, by the number of the way in which it is packed. -/
def chunkRows : Nat → Nat
  | 0 | 1 | 2 => 1
  | 3 | 5 => 16
  | 9 => 256
  | _ => 32

/-- How often a side can be halved, and once more for the side itself. -/
def levelCount (roundsUp : Bool) (side : Nat) : Nat :=
  if roundsUp && 1 < side then (side - 1).log2 + 2 else side.log2 + 1

def levelSide (roundsUp : Bool) (side level : Nat) : Nat :=
  max 1 (if roundsUp then parts side (Nat.pow 2 level) else side / Nat.pow 2 level)

def sumOf (count : Nat) (term : Nat → Nat) : Nat :=
  ((List.range count).map term).foldl (· + ·) 0

def Tiles.count (tiles : Tiles) (dimensions : Dimensions) : Nat :=
  let across (level : Nat) : Nat :=
    parts (levelSide tiles.roundsUp dimensions.1 level) tiles.dimensions.1
  let down (level : Nat) : Nat :=
    parts (levelSide tiles.roundsUp dimensions.2 level) tiles.dimensions.2
  match tiles.copies with
  | .none => across 0 * down 0
  | .halved =>
    sumOf (levelCount tiles.roundsUp (max dimensions.1 dimensions.2)) fun level =>
      across level * down level
  | .eachHalved =>
    sumOf (levelCount tiles.roundsUp dimensions.1) across *
      sumOf (levelCount tiles.roundsUp dimensions.2) down

/-! ### Attributes together -/

/-- The types of parts by their names, and whether they are made of tiles, if they can be read. Parts
with pixels of several depths cannot. -/
def partTypes : List (List UInt8 × Option Bool) := [
  (ascii "scanlineimage", some false), (ascii "tiledimage", some true), (ascii "deepscanline", none),
  (ascii "deeptile", none)]

/-- Whether a part is made of tiles, as its type says, or what is known of the whole picture. -/
def isTiled? (attributes : List Attribute) (tiled : Bool) : Option Bool :=
  match attributes.filterMap (·.valueAs? "type" "string" get) with
  | [] => some tiled
  | types => do
    let found ← types.mapM fun type => partTypes.lookup type
    found.getLast?.join

def hasBadCount (attributes : List Attribute) : Bool :=
  attributes.any fun entry =>
    ["chunkCount", "maxSamplesPerPixel"].any fun name =>
      (entry.valueAs? name "int" readInt).any (· < 0)

def longestName : Nat := 255

def isIdleSound (entry : Attribute) : Bool :=
  let { name, type, value } := entry
  name.length ≤ longestName &&
    (type ≠ ascii "chlist" || name == ascii "channels" || (readChannels.run' value).all areSound) &&
    (type ≠ ascii "tiledesc" || name == ascii "tiles" || (readTiles.run' value).all (·.isSound))

/-- The part that attributes describe, if none is missing and they go together. -/
def partOf? (tiled : Bool) (attributes : List Attribute) : Option Part := do
  let channels ← valueOf? attributes "channels" "chlist" readChannels
  let packing ← valueOf? attributes "compression" "compression" (readChoice 10)
  let data ← valueOf? attributes "dataWindow" "box2i" readWindow
  let display ← valueOf? attributes "displayWindow" "box2i" readWindow
  guard (areSound channels ∧ data.isSound ∧ display.isSound)
  guard (attributes.all isIdleSound ∧ ¬hasBadCount attributes)
  let tiles? := valueOf? attributes "tiles" "tiledesc" readTiles
  guard (tiles?.all (·.isSound))
  let count ← if ← isTiled? attributes tiled then tiles?.map (·.count data.dimensions)
    else some (parts data.dimensions.2 (chunkRows packing))
  guard ((valueOf? attributes "chunkCount" "int" readInt).all fun said => said = (count : Int))
  return ⟨display.dimensions, channels.map (·.name)⟩

/-! ### Files -/

def mark : List UInt8 := [0x76, 0x2F, 0x31, 0x01]

def version : Nat := 2

/-- The bits that say what a file has: one part of tiles, long names, pixels of several depths, and
several parts. -/
def tileBit : Nat := 9
def longNamesBit : Nat := 10
def deepBit : Nat := 11
def partsBit : Nat := 12

def longestShortName : Nat := 32
def longestLongName : Nat := 256

/-- Whether a file can have what its flags say. One part of tiles excludes all others. -/
def areFlags (flags : Nat) : Bool :=
  flags < Nat.pow 2 (partsBit + 1) &&
    (!flags.testBit tileBit || !flags.testBit deepBit && !flags.testBit partsBit)

/-- Reads the parts of a picture of several parts, up to an empty one. -/
def readParts : (fuel : Nat) → (longest : Nat) → Reading (List (List Attribute))
  | 0, _ => failure
  | fuel + 1, longest => do
    let attributes ← readAttributes (← get).length longest
    if attributes.isEmpty then return []
    else return attributes :: (← readParts fuel longest)

def read : Reading Dimensions := do
  guard ((← Reading.bytes 4) = mark)
  let flags ← Reading.low 4
  guard (flags % 16 = version ∧ areFlags flags)
  let longest := if flags.testBit longNamesBit then longestLongName else longestShortName
  let fuel := (← get).length
  let described ← if flags.testBit partsBit then readParts fuel longest
    else (readAttributes fuel longest).map ([·])
  let parts ← StateT.lift (described.mapM (partOf? (flags.testBit tileBit)))
  StateT.lift ((parts.find? (·.isColored)).map (·.dimensions))

end SlidePress.Picture.OpenExr
