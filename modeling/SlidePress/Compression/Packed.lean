import SlidePress.Bytes
import SlidePress.Compression.Inflate

/-!
What stands around packed bytes: two bytes in front and two sums behind them where they are inside of
other files, a header and a checksum where they are a file of their own.
-/

namespace SlidePress.Compression

/-! ### Inside of other files

Packed bytes inside of other files: two bytes in front, and behind the packed bytes two sums of what
they stand for.
-/

def sumModulus : Nat := 65521

def twoSums (bytes : ByteArray) : Nat :=
  let (sum, total) := bytes.foldl (fun (sum, total) byte =>
    let sum := (sum + byte.toNat) % sumModulus
    (sum, (total + sum) % sumModulus)) (1, 0)
  total * 65536 + sum

/-- Whether two bytes can stand in front: they name the way of packing, ask for no words that are
known beforehand, and make a multiple of a number. -/
def isFront (first second : Nat) : Bool :=
  first % 16 == 8 && first / 16 ≤ 7 && !second.testBit 5 && (first * 256 + second) % 31 == 0

/-- The bytes that packed bytes with what stands around them stand for. -/
def unzip? (packed : List UInt8) : Option ByteArray := do
  let first :: second :: packed := packed | none
  if !isFront first.toNat second.toNat then none
  else
    let (bytes, stream) ← inflate ⟨⟨packed.toArray⟩, 0⟩
    let (sums, _) ← stream.aligned.bytes? 4
    if numberOf sums.toList = twoSums bytes then some bytes else none

/-! ### Packed files

Packed files: a header, packed bytes, and behind them the checksum and the number of the bytes that
they stand for. What follows is not looked at.
-/

/-- The bytes in front of every packed file. -/
def gzipMark : List UInt8 := [0x1F, 0x8B]

/-- The parts that a header may have, by the bits that tell of them. -/
def checkedBit : Nat := 1
def extraBit : Nat := 2
def nameBit : Nat := 3
def commentBit : Nat := 4

def firstIdleBit : Nat := 5

def afterText? (bytes : List UInt8) : Option (List UInt8) :=
  match bytes.dropWhile (· ≠ 0) with
  | _ :: rest => some rest
  | [] => none

def afterBytes? (count : Nat) (bytes : List UInt8) : Option (List UInt8) :=
  if count ≤ bytes.length then some (bytes.drop count) else none

def afterHeader? (bytes : List UInt8) : Option (List UInt8) := do
  let method :: flags :: rest := bytes.drop gzipMark.length | none
  let has (bit : Nat) : Bool := flags.toNat.testBit bit
  if bytes.take gzipMark.length ≠ gzipMark ∨ method ≠ 8 ∨ Nat.pow 2 firstIdleBit ≤ flags.toNat then
    none
  else
    let rest ← afterBytes? 6 rest
    let rest ← if has extraBit then
        (afterBytes? 2 rest).bind (afterBytes? (numberOf (rest.take 2).reverse))
      else some rest
    let rest ← if has nameBit then afterText? rest else some rest
    let rest ← if has commentBit then afterText? rest else some rest
    if has checkedBit then
      let front := bytes.take (bytes.length - rest.length)
      let sum := (checksum ⟨front.toArray⟩).toNat % 65536
      if numberOf (rest.take 2).reverse = sum then afterBytes? 2 rest else none
    else some rest

def gunzip? (data : ByteArray) : Option ByteArray := do
  let packed ← afterHeader? data.toList
  let (bytes, stream) ← inflate ⟨⟨packed.toArray⟩, 0⟩
  let (sum, stream) ← stream.aligned.bits? 32
  let (size, _) ← stream.bits? 32
  if sum = (checksum bytes).toNat ∧ size = bytes.size % Nat.pow 2 32 then some bytes else none

end SlidePress.Compression
