import SlidePress.Bytes

/-!
Reading the fields of a file one after another. There is no result when the bytes run out, and none
when a field is not as it has to be.
-/

namespace SlidePress.Picture

abbrev Dimensions := Nat × Nat

/-- What is read from the front of bytes; the bytes that follow are left. -/
abbrev Reading := StateT (List UInt8) Option

namespace Reading

def bytes (count : Nat) : Reading (List UInt8) := fun rest =>
  let front := rest.take count
  if front.length < count then none else some (front, rest.drop count)

def byte : Reading Nat := fun rest =>
  match rest with
  | [] => none
  | byte :: rest => some (byte.toNat, rest)

/-- A number of so many bytes, the highest one first. -/
def high (count : Nat) : Reading Nat :=
  return numberOf (← bytes count)

/-- A number of so many bytes, the lowest one first. -/
def low (count : Nat) : Reading Nat :=
  return numberOf (← bytes count).reverse

def skip (count : Nat) : Reading Unit :=
  discard (bytes count)

def mark (text : String) : Reading Unit := do
  guard ((← bytes text.length) = ascii text)

/-- What is read when reading begins behind so many bytes. -/
def runAt {α : Type} (reading : Reading α) (offset : Nat) (data : List UInt8) : Option α :=
  reading.run' (data.drop offset)

end Reading

def parts (length size : Nat) : Nat :=
  (length + size - 1) / size

/-- The number of bytes that numbers of 64 bits can count. -/
def largestCount : Nat := 0xFFFFFFFFFFFFFFFF

def isCountable (dimensions : Dimensions) (pixelBytes : Nat) : Bool :=
  dimensions.1 * dimensions.2 ≤ largestCount / pixelBytes

end SlidePress.Picture
