import SlidePress.Picture.Reading

/-!
Pictures with a header, a palette, and blocks. The header counts once the first block that is no
extension has begun; the extensions in front of it have to be of a known kind.
-/

namespace SlidePress.Picture.Gif

/-- The byte in front of an extension, and the byte at the end of a picture. -/
def extensionMark : Nat := 0x21
def endMark : Nat := 0x3B

/-- The kinds of extensions. The first one says how the next image is shown. -/
def controlKind : Nat := 0xF9
def otherKinds : List Nat := [0x01, 0xFE, 0xFF]

def controlSize : Nat := 4

/-- Passes over the parts of an extension, each behind its size, up to an empty one. -/
def skipParts : (fuel : Nat) → Reading Unit
  | 0 => failure
  | fuel + 1 => do
    let size ← Reading.byte
    if size = 0 then return
    else
      Reading.skip size
      skipParts fuel

/-- Reads an extension behind its mark. Its first part does not end it, even if it is empty. -/
def readExtension : Reading Unit := do
  let kind ← Reading.byte
  let size ← Reading.byte
  guard (kind ∈ otherKinds ∨ kind = controlKind ∧ size = controlSize)
  Reading.skip size
  skipParts (← get).length

/-- Reads extensions up to another block. What ends a picture is seen at once when it follows an
extension, and every other block with the byte behind its mark. -/
def readBlocks : (fuel : Nat) → (isFirst : Bool) → Reading Unit
  | 0, _ => failure
  | fuel + 1, isFirst => do
    let mark ← Reading.byte
    if mark = extensionMark then
      readExtension
      readBlocks fuel false
    else if mark = endMark ∧ ¬isFirst then return
    else Reading.skip 1

def paletteBytes (flags : Nat) : Nat :=
  if flags.testBit 7 then 3 * Nat.pow 2 (flags % 8 + 1) else 0

def read : Reading Dimensions := do
  Reading.mark "GIF"
  let version ← Reading.bytes 3
  guard (version = ascii "87a" ∨ version = ascii "89a")
  let width ← Reading.low 2
  let height ← Reading.low 2
  let flags ← Reading.byte
  Reading.skip (2 + paletteBytes flags)
  readBlocks (← get).length true
  return (width, height)

end SlidePress.Picture.Gif
