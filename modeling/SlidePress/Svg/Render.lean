import SlidePress.Compression.Packed
import SlidePress.File.Change
import SlidePress.Picture.Glance
import SlidePress.Program.Machine
import SlidePress.Svg.Link
import SlidePress.Svg.Size

/-!
A renderer that can be run. It finds the size of a drawing from the elements and the links in it, with
text taken to have no extent, for there are no fonts; nothing is drawn, and its pictures have their
dimensions only.
-/

namespace SlidePress.Svg

/-- The bytes of the text of a drawing, which may be packed. -/
def textBytes (data : ByteArray) : Except Trouble ByteArray :=
  if data.toList.take 2 = Compression.gzipMark then
    match Compression.gunzip? data with
    | some bytes => .ok bytes
    | none => .error .notCompressed
  else .ok data

def drawingOfBytes (data : ByteArray) : Except Trouble Node := do
  let bytes ← textBytes data
  match String.fromUTF8? bytes with
  | none => .error .notText
  | some text =>
    match Xml.Document.ofText? text.toList with
    | none => .error .notMarkup
    | some document => drawingOf document

def sizeOfBytes (picture? : List Char → Option Size) (data : ByteArray) :
    Except Trouble Size := do
  match sizeOf? picture? (← drawingOfBytes data) with
  | some size => .ok size
  | none => .error .noSize

def pictureSize? (dimensions : Picture.Dimensions) : Option Size :=
  Size.ofSides? (Float32.ofNat dimensions.1) (Float32.ofNat dimensions.2)

def sizeAtGlance? (bytes : List UInt8) : Option Size :=
  (Picture.glance? bytes).bind pictureSize?

/-- The size of a drawing that is a picture in another one. It has no pictures itself. -/
def innerSize? (data : ByteArray) : Option Size :=
  (sizeOfBytes (fun _ => none) data).toOption

def heldSize? (file : HeldFile) : Option Size :=
  match String.ofList file.type with
  | "image/jpg" | "image/jpeg" | "image/png" | "image/gif" | "image/webp" => sizeAtGlance? file.bytes
  | "image/svg+xml" => innerSize? ⟨file.bytes.toArray⟩
  | "text/plain" =>
    if (Picture.Mark.ofBytes? file.bytes).any (·.isCommon) then sizeAtGlance? file.bytes
    else innerSize? ⟨file.bytes.toArray⟩
  | _ => none

/-- The size of the picture in a file. Drawings are told by the endings of their names, and other
pictures by what is in them; a name without an ending is not that of a picture. -/
def storedSize? (tree : FileTree) (path : Path) : Option Size := do
  let ending ← path.ending?
  let content ← (tree.read path).toOption
  match String.ofList (ending.map Char.toLower), content with
  | "svg", content | "svgz", content => innerSize? content.data
  | _, .picture width height => pictureSize? (width, height)
  | _, content =>
    let bytes := content.data.toList
    if (Picture.Mark.ofBytes? bytes).any (·.isCommon) then sizeAtGlance? bytes else none

/-- The size of the picture that a link in a drawing leads to. Links to other files begin in the
folder of the drawing. -/
def linkedSize? (tree : FileTree) (drawing : Path) (link : List Char) : Option Size :=
  match readHeldFile? link with
  | some file? => file?.bind heldSize?
  | none => do
    let place ← (tree.locate drawing).toOption
    storedSize? tree ((Location.path place.dropLast).join ⟨String.ofList link⟩)

/-- The bytes of a row of pixels are counted in 31 bits. -/
def widestCanvas : Nat := (Nat.pow 2 31 - 1) / 4

def fitsCanvas (width height : Nat) : Bool :=
  0 < width && 0 < height && width ≤ widestCanvas

/-- The renderer that measures drawings as they are written and leaves their pictures blank. -/
def renderer : Renderer where
  measure session drawing data :=
    match sizeOfBytes (linkedSize? session.tree drawing) data with
    | .ok size => .ok (size.width, size.height)
    | .error trouble => .error trouble.message
  hasRoom _ := fitsCanvas
  store session _ picture _ _ width height :=
    match session.tree.write picture (.picture width height) with
    | .ok tree => (tree, none)
    | .error fault => (session.tree, some fault.message)

end SlidePress.Svg
