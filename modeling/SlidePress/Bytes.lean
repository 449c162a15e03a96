/-!
Numbers as bytes, in both orders, and the checksum of bytes: the remainder of a division of polynomials
over two elements, with the bits of every byte in reverse.
-/

namespace SlidePress

/-- The lowest `count` bytes of a number, the lowest one first. -/
def lowFirst : (count : Nat) → Nat → List UInt8
  | 0, _ => []
  | count + 1, n => n.toUInt8 :: lowFirst count (n / 256)

/-- The lowest `count` bytes of a number, the lowest one last. -/
def lowLast (count n : Nat) : List UInt8 :=
  (lowFirst count n).reverse

/-- The number in bytes, the lowest one last. -/
def numberOf (bytes : List UInt8) : Nat :=
  bytes.foldl (fun n byte => n * 256 + byte.toNat) 0

def ascii (text : String) : List UInt8 :=
  text.toList.map (·.toNat.toUInt8)

def divisor : UInt32 := 0xEDB88320

def divideBit (rest : UInt32) : UInt32 :=
  if rest &&& 1 = 1 then (rest >>> 1) ^^^ divisor else rest >>> 1

def divideByte (rest : UInt32) (byte : UInt8) : UInt32 :=
  Nat.repeat divideBit 8 (rest ^^^ byte.toUInt32)

def checksum (bytes : ByteArray) : UInt32 :=
  ~~~ bytes.foldl divideByte 0xFFFFFFFF

end SlidePress
