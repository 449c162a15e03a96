import SlidePress.Picture.Reading

/-!
Attributes of the parts of a picture: a name, the name of a type, and a value of that type. An
attribute whose value is not of the form of its type counts as if it were not there.
-/

namespace SlidePress.Picture.OpenExr

def readText (longest : Nat) : Reading (List UInt8) := fun rest =>
  let front := rest.takeWhile (· ≠ 0)
  match rest.drop front.length with
  | [] => none
  | _ :: after => if front.length ≤ longest then some (front, after) else none

/-- Reads a text of at least one byte with a zero behind it. The first byte may be a zero itself. -/
def readFullText (longest : Nat) : Reading (List UInt8) := do
  let first ← Reading.bytes 1
  return first ++ (← readText (longest - 1))

structure Attribute where
  name : List UInt8
  type : List UInt8
  value : List UInt8

def readAttributes : (fuel : Nat) → (longest : Nat) → Reading (List Attribute)
  | 0, _ => failure
  | fuel + 1, longest => do
    let name ← readText longest
    if name.isEmpty then return []
    else
      let type ← readFullText longest
      let value ← Reading.bytes (← Reading.low 4)
      return ⟨name, type, value⟩ :: (← readAttributes fuel longest)

namespace Attribute

def valueAs? {α : Type} (entry : Attribute) (name type : String) (reading : Reading α) :
    Option α :=
  if entry.name = ascii name ∧ entry.type = ascii type then reading.run' entry.value
  else none

end Attribute

def valueOf? {α : Type} (attributes : List Attribute) (name type : String) (reading : Reading α) :
    Option α :=
  attributes.reverse.findSome? (·.valueAs? name type reading)

/-! ### Values -/

def readInt : Reading Int := do
  return (Int.ofNat (← Reading.low 4)).bmod 0x100000000

def readChoice (count : Nat) : Reading Nat := do
  let number ← Reading.byte
  guard (number < count)
  return number

/-- A channel: its name, and how many pixels across and down share a sample. -/
structure Channel where
  name : List UInt8
  across : Int
  down : Int

def longestChannelName : Nat := 256

def readChannelsFrom : (fuel : Nat) → Reading (List Channel)
  | 0 => failure
  | fuel + 1 => do
    let name ← readText longestChannelName
    if name.isEmpty then return []
    else
      guard ((← Reading.low 4) ≤ 2)
      guard ((← Reading.byte) ≤ 1)
      Reading.skip 3
      let across ← readInt
      let down ← readInt
      guard (0 ≤ across ∧ 0 ≤ down)
      return ⟨name, across, down⟩ :: (← readChannelsFrom fuel)

def readChannels : Reading (List Channel) := do
  readChannelsFrom (← get).length

/-- Whether channels can be those of a picture: there are some, they are in the order of their
names, and no pixels share a sample. -/
def areSound : List Channel → Bool
  | [] => false
  | [channel] => channel.across == 1 && channel.down == 1
  | channel :: next :: channels =>
    channel.across == 1 && channel.down == 1 && !(next.name < channel.name : Bool) &&
      areSound (next :: channels)

/-- A window of the plane: its first column and row, and its dimensions. -/
structure Window where
  left : Int
  top : Int
  dimensions : Dimensions

def farthest : Int := 1073741823

def areNear (first last : Int) : Bool :=
  -farthest < first && last < farthest

/-- Reads the first and the last column and row of a window, in either order. -/
def readWindow : Reading Window := do
  let x ← readInt
  let y ← readInt
  let x' ← readInt
  let y' ← readInt
  let (left, top, right, bottom) := (min x x', min y y', max x x', max y y')
  guard (areNear left right ∧ areNear top bottom)
  return ⟨left, top, (right + 1 - left).toNat, (bottom + 1 - top).toNat⟩

def Window.isSound (window : Window) : Bool :=
  areNear window.left (window.left + window.dimensions.1) &&
    areNear window.top (window.top + window.dimensions.2)

/-- Which smaller copies of a picture stand behind it. -/
inductive Copies where
  | none
  /-- Those with both sides halved. -/
  | halved
  /-- Those with each side halved by itself. -/
  | eachHalved
  deriving DecidableEq, Repr

/-- How a picture is cut into tiles. -/
structure Tiles where
  dimensions : Dimensions
  copies : Copies
  /-- Whether the half of an odd side is rounded up. -/
  roundsUp : Bool

def Copies.ofNumber? : Nat → Option Copies
  | 0 => some .none
  | 1 => some .halved
  | 2 => some .eachHalved
  | _ => Option.none

def readTiles : Reading Tiles := do
  let width ← Reading.low 4
  let height ← Reading.low 4
  let mode ← Reading.byte
  guard (mode / 16 ≤ 1)
  return ⟨(width, height), ← StateT.lift (Copies.ofNumber? (mode % 16)), mode / 16 == 1⟩

def Tiles.isSound (tiles : Tiles) : Bool :=
  let isSize (size : Nat) : Bool := decide (0 < size ∧ (size : Int) < farthest)
  isSize tiles.dimensions.1 && isSize tiles.dimensions.2

end SlidePress.Picture.OpenExr
