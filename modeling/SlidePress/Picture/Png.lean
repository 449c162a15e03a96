import SlidePress.File.Content
import SlidePress.Picture.Png.Note

/-!
The dimensions of a picture, read from the front of its file. The file has to be sound up to the
piece with the first pixels; a piece that a picture can do without is passed over if only its
checksum is wrong.
-/

namespace SlidePress.Picture

def usualRoom : Nat := 0x20000000

def readToPixels : (fuel : Nat) → Survey → Reading Survey
  | 0, _ => failure
  | fuel + 1, survey => do
    let (length, name) ← Chunk.readFront
    if name = pixelsName then return survey
    else if name = framePixelsName then
      guard (survey.has frameName ∧ 4 ≤ length)
      return survey
    else
      let chunk ← Chunk.readRest length name
      guard (name ≠ endName)
      guard ((readNote survey name).run' chunk.data).isSome
      guard (chunk.isSound ∨ Chunk.isSpare name)
      readToPixels fuel (survey.add name chunk.data)

/-- Reads a picture up to its first pixels, where there is room for so many bytes. Every piece has
bytes, so that their number bounds the number of pieces. -/
def readPng (room : Nat) : Reading Dimensions := do
  guard ((← Reading.bytes signature.length) = signature)
  let (length, name) ← Chunk.readFront
  guard (name = headerName)
  let chunk ← Chunk.readRest length name
  guard chunk.isSound
  let header ← StateT.lift (Header.read.run' chunk.data)
  let survey : Survey := { header, names := [headerName] }
  guard (survey.rowBytes * header.dimensions.2 ≤ largestCount)
  let survey ← readToPixels (← get).length survey
  guard (survey.kept + survey.rowBytes ≤ room)
  return header.dimensions

def dimensions? : Content → Option Dimensions
  | .picture width height => some (width, height)
  | .bytes data => (readPng usualRoom).run' data.toList
  | .package _ | .utility _ => none

end SlidePress.Picture
