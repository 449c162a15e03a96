import SlidePress.Picture.Png

/-!
The bytes of a picture on which nothing has been drawn: every pixel is transparent. The rows are
stored as they are, in blocks of a limited size.
-/

namespace SlidePress.Picture

def chunkBytes (name : List UInt8) (data : ByteArray) : ByteArray :=
  let body := ByteArray.mk name.toArray ++ data
  ⟨(lowLast 4 data.size).toArray⟩ ++ body ++ ⟨(lowLast 4 (checksum body).toNat).toArray⟩

def blockSize : Nat := 65535

def zeroBlocks : (fuel : Nat) → (zeros : Nat) → ByteArray
  | 0, _ => .empty
  | fuel + 1, zeros =>
    let size := min zeros blockSize
    let isLast : UInt8 := if zeros ≤ blockSize then 1 else 0
    let block := ByteArray.mk (isLast :: lowFirst 2 size ++ lowFirst 2 (65535 - size)).toArray ++
      ⟨Array.replicate size 0⟩
    if zeros ≤ blockSize then block else block ++ zeroBlocks fuel (zeros - size)

/-- What the two sums behind stored bytes are counted up to. -/
def sumLimit : Nat := 65521

/-- Zeros in the form in which the rows of a picture are stored. The first of the two sums behind
them stays at one, so that the second one counts the zeros. -/
def storedZeros (zeros : Nat) : ByteArray :=
  let sum := (zeros % sumLimit) * 65536 + 1
  ⟨#[0x78, 0x01]⟩ ++ zeroBlocks (zeros / blockSize + 1) zeros ++ ⟨(lowLast 4 sum).toArray⟩

/-- The bytes of a transparent picture. Every row has a byte in front of its pixels. -/
def blank (width height : Nat) : ByteArray :=
  let header := lowLast 4 width ++ lowLast 4 height ++ [8, 6, 0, 0, 0]
  ⟨signature.toArray⟩ ++ chunkBytes headerName ⟨header.toArray⟩ ++
    chunkBytes pixelsName (storedZeros (height * (1 + 4 * width))) ++ chunkBytes endName .empty

end SlidePress.Picture
