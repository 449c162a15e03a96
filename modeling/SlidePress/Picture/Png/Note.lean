import SlidePress.Compression.Packed
import SlidePress.Picture.Png.Chunk

/-!
The pieces between the header of a picture and its pixels. Some of them may stand only once, and
most have to be of a form. What is kept of them takes room.
-/

namespace SlidePress.Picture

def paletteName : List UInt8 := ascii "PLTE"
def transparencyName : List UInt8 := ascii "tRNS"
def densityName : List UInt8 := ascii "pHYs"
def chromaName : List UInt8 := ascii "cHRM"
def gammaName : List UInt8 := ascii "gAMA"
def intentName : List UInt8 := ascii "sRGB"
def animationName : List UInt8 := ascii "acTL"
def frameName : List UInt8 := ascii "fcTL"
def framePixelsName : List UInt8 := ascii "fdAT"
def depthsName : List UInt8 := ascii "sBIT"
def profileName : List UInt8 := ascii "iCCP"

/-- What the pieces up to some place say. -/
structure Survey where
  header : Header
  /-- The names of the pieces. -/
  names : List (List UInt8) := []
  /-- The bytes that are kept of the pieces. -/
  kept : Nat := 0
  /-- Whether the true depths of the samples are known. -/
  knowsDepths : Bool := false

namespace Survey

def has (survey : Survey) (name : List UInt8) : Bool :=
  survey.names.contains name

def singleNames : List (List UInt8) :=
  [headerName, paletteName, transparencyName, densityName, chromaName, gammaName, intentName]

def rowBytes (survey : Survey) : Nat :=
  let samples := survey.header.kind.samples (survey.has transparencyName)
  survey.header.dimensions.1 * samples * (if survey.header.bits = 16 then 2 else 1)

def takesTransparency (survey : Survey) (size : Nat) : Bool :=
  match survey.header.kind with
  | .gray => 2 ≤ size
  | .color => 6 ≤ size
  | .palette => survey.has paletteName
  | .grayAlpha | .colorAlpha => false

end Survey

/-- Reads what is in a piece in front of a frame. The frames are counted, and the frame whose pixels
are those of the picture has its dimensions. -/
def readFrame (survey : Survey) : Reading Unit := do
  guard ((← Reading.high 4) = survey.names.count frameName)
  let width ← Reading.high 4
  let height ← Reading.high 4
  guard (survey.header.dimensions = (width, height))
  guard ((← Reading.high 8) = 0)
  Reading.skip 4
  guard ((← Reading.byte) ≤ 2)
  guard ((← Reading.byte) ≤ 1)

def readNote (survey : Survey) (name : List UInt8) : Reading Unit := do
  guard ¬(name ∈ Survey.singleNames ∧ survey.has name)
  if name = transparencyName then guard (survey.takesTransparency (← get).length)
  else if name = densityName then
    Reading.skip 8
    guard ((← Reading.byte) ≤ 1)
  else if name = chromaName then Reading.skip 32
  else if name = gammaName then Reading.skip 4
  else if name = intentName then guard ((← Reading.byte) ≤ 3)
  else if name = animationName then Reading.skip 8
  else if name = frameName then readFrame survey

/-! ### What is kept -/

def longestProfileName : Nat := 79

/-- The bytes of a profile of colors, which is packed behind its name. -/
def profileBytes (data : List UInt8) : Nat :=
  let name := data.takeWhile (· ≠ 0)
  match data.drop name.length with
  | _ :: 0 :: packed =>
    if name.isEmpty || longestProfileName < name.length then 0
    else ((Compression.unzip? packed).map (·.size)).getD 0
  | _ => 0

/-- Whether bytes can be the true depths of the samples of pixels. -/
def areDepths (header : Header) (data : List UInt8) : Bool :=
  let (count, most) := match header.kind with
    | .gray => (1, header.bits)
    | .color => (3, header.bits)
    | .palette => (3, 8)
    | .grayAlpha => (2, header.bits)
    | .colorAlpha => (4, header.bits)
  data.length == count && data.all fun depth => 0 < depth.toNat && depth.toNat ≤ most

/-- What the pieces say up to the end of another one. True depths count in front of the palette, and
only the first profile does. -/
def Survey.add (survey : Survey) (name data : List UInt8) : Survey :=
  let takesDepths := name = depthsName ∧ ¬survey.has paletteName ∧ ¬survey.knowsDepths
  let more :=
    if name = paletteName ∨ name = transparencyName ∨ takesDepths then data.length
    else if name = profileName ∧ ¬survey.has profileName then profileBytes data
    else 0
  { survey with
    names := name :: survey.names, kept := survey.kept + more
    knowsDepths := survey.knowsDepths || decide takesDepths && areDepths survey.header data }

end SlidePress.Picture
