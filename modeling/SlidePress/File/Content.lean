import SlidePress.Package

/-!
What files hold. Most files are bytes. Three kinds of files are known by what they stand for, so
that nothing has to be read back from bytes that this library itself would have written: packages,
pictures, and the programs that come with the system.
-/

namespace SlidePress

/-- A program that comes with the system. -/
inductive Utility where
  | sh
  | echo
  | printf
  | cat
  | cp
  | sleep
  | head
  | tr
  | sed
  | pwd
  | touch
  | mkdir
  | rm
  | true
  | false
  deriving DecidableEq, Repr

/-- What a file holds. -/
inductive Content where
  | bytes (data : ByteArray)
  | package (package : Package)
  /-- A picture of a width and a height in pixels. -/
  | picture (width height : Nat)
  | utility (utility : Utility)
  deriving BEq

namespace Content

def ofString (text : String) : Content :=
  .bytes text.toUTF8

/-- The marks in front of the kinds of files that are not kept as bytes. None of them begins a
text. -/
def signature : Content → List UInt8
  | .bytes _ => []
  | .package _ => [0x50, 0x4B, 0x03, 0x04, 0xFF]
  | .picture .. => [0x89, 0x50, 0x4E, 0x47, 0x0D, 0x0A, 0x1A, 0x0A]
  | .utility _ => [0x7F, 0x45, 0x4C, 0x46, 0xFF]

/-- The bytes of a file as far as this library looks at them. -/
def data : Content → ByteArray
  | .bytes data => data
  | content => ⟨content.signature.toArray⟩

/-- The number of bytes of a file. A picture has its signature, a header, and at least the four
bytes of a pixel for each of its pixels. -/
def size : Content → Nat
  | .bytes data => data.size
  | .package content => content.parts.foldl (fun size part => size + part.text.utf8ByteSize) 0
  | .picture width height => 33 + 4 * width * height
  | .utility _ => 4

end Content

end SlidePress
