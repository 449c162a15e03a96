import SlidePress.Bytes
import SlidePress.Package

/-!
The bytes of a package: an archive of its parts, each stored as it is, and a directory of them at
the end.
-/

namespace SlidePress.Package

/-- The fields that stand both in front of a stored part and in the directory: the version that is
needed to read it, how it is stored, a date, its checksum, its size twice, and the length of its
name. -/
def partFields (name data : ByteArray) : List UInt8 :=
  let size := lowFirst 4 data.size
  lowFirst 2 20 ++ lowFirst 2 0 ++ lowFirst 2 0 ++ lowFirst 2 0 ++ lowFirst 2 0x21 ++
    lowFirst 4 (checksum data).toNat ++ size ++ size ++ lowFirst 2 name.size ++ lowFirst 2 0

def storedPart (part : Part) : ByteArray :=
  let name := part.name.toUTF8
  let data := part.text.toUTF8
  ⟨([0x50, 0x4B, 0x03, 0x04] ++ partFields name data).toArray⟩ ++ name ++ data

def directoryEntry (part : Part) (place : Nat) : ByteArray :=
  let name := part.name.toUTF8
  ⟨([0x50, 0x4B, 0x01, 0x02] ++ lowFirst 2 20 ++ partFields name part.text.toUTF8 ++
    lowFirst 2 0 ++ lowFirst 2 0 ++ lowFirst 2 0 ++ lowFirst 4 0 ++
    lowFirst 4 place).toArray⟩ ++ name

def storedParts : (place : Nat) → List Part → ByteArray × ByteArray
  | _, [] => (.empty, .empty)
  | place, part :: parts =>
    let stored := storedPart part
    let (more, directory) := storedParts (place + stored.size) parts
    (stored ++ more, directoryEntry part place ++ directory)

def bytes (package : Package) : ByteArray :=
  let (stored, directory) := storedParts 0 package.parts
  let count := lowFirst 2 package.parts.length
  let ending := [0x50, 0x4B, 0x05, 0x06] ++ lowFirst 2 0 ++ lowFirst 2 0 ++ count ++ count ++
    lowFirst 4 directory.size ++ lowFirst 4 stored.size ++ lowFirst 2 0
  stored ++ directory ++ ⟨ending.toArray⟩

end SlidePress.Package
