import SlidePress.Bytes
import SlidePress.Compression.Huffman

/-!
Unpacking bytes that are packed as blocks of stored bytes, or of words for bytes and for copies of
what has been unpacked already.
-/

namespace SlidePress.Compression

def endSymbol : Nat := 256

/-- For each symbol of a length behind the end symbol, the least length and the number of bits that
are added to it. -/
def lengthSymbols : Array (Nat × Nat) := #[
  (3, 0), (4, 0), (5, 0), (6, 0), (7, 0), (8, 0), (9, 0), (10, 0), (11, 1), (13, 1), (15, 1),
  (17, 1), (19, 2), (23, 2), (27, 2), (31, 2), (35, 3), (43, 3), (51, 3), (59, 3), (67, 4), (83, 4),
  (99, 4), (115, 4), (131, 5), (163, 5), (195, 5), (227, 5), (258, 0)]

/-- For each symbol of a distance, the least distance and the number of bits that are added. -/
def distanceSymbols : Array (Nat × Nat) := #[
  (1, 0), (2, 0), (3, 0), (4, 0), (5, 1), (7, 1), (9, 2), (13, 2), (17, 3), (25, 3), (33, 4),
  (49, 4), (65, 5), (97, 5), (129, 6), (193, 6), (257, 7), (385, 7), (513, 8), (769, 8), (1025, 9),
  (1537, 9), (2049, 10), (3073, 10), (4097, 11), (6145, 11), (8193, 12), (12289, 12), (16385, 13),
  (24577, 13)]

/-- The two codes of a block. -/
structure Codes where
  literals : Code
  distances : Code

def readAmount (table : Array (Nat × Nat)) (symbol : Nat) (stream : BitStream) :
    Option (Nat × BitStream) := do
  let (least, count) ← table[symbol]?
  let (more, stream) ← stream.bits? count
  return (least + more, stream)

def copyBack (distance : Nat) : (length : Nat) → ByteArray → ByteArray
  | 0, bytes => bytes
  | length + 1, bytes => copyBack distance length (bytes.push (bytes.get! (bytes.size - distance)))

def unpackWords (codes : Codes) : (fuel : Nat) → BitStream → ByteArray →
    Option (ByteArray × BitStream)
  | 0, _, _ => none
  | fuel + 1, stream, bytes =>
    match codes.literals.read stream with
    | none => none
    | some (symbol, stream) =>
      if symbol < endSymbol then unpackWords codes fuel stream (bytes.push symbol.toUInt8)
      else if symbol = endSymbol then some (bytes, stream)
      else
        let copy : Option (Nat × Nat × BitStream) := do
          let (length, stream) ← readAmount lengthSymbols (symbol - endSymbol - 1) stream
          let (symbol, stream) ← codes.distances.read stream
          let (distance, stream) ← readAmount distanceSymbols symbol stream
          return (length, distance, stream)
        match copy with
        | none => none
        | some (length, distance, stream) =>
          if bytes.size < distance then none
          else unpackWords codes fuel stream (copyBack distance length bytes)

def fixedCodes? : Option Codes := do
  let lengths := List.replicate 144 8 ++ List.replicate 112 9 ++ List.replicate 24 7 ++
    List.replicate 8 8
  return ⟨← Code.ofLengths? lengths, ← Code.ofLengths? (List.replicate 32 5)⟩

def lengthOrder : List Nat := [16, 17, 18, 0, 8, 7, 9, 6, 10, 5, 11, 4, 12, 3, 13, 2, 14, 1, 15]

def readNumbers (bits : Nat) : (count : Nat) → BitStream → Option (List Nat × BitStream)
  | 0, stream => some ([], stream)
  | count + 1, stream => do
    let (number, stream) ← stream.bits? bits
    let (numbers, stream) ← readNumbers bits count stream
    return (number :: numbers, stream)

/-- Reads the lengths of words up to so many, the last ones first in `lengths`. A length may be
repeated, but not beyond the number of them. -/
def readLengths (code : Code) (count : Nat) : (fuel : Nat) → (lengths : List Nat) → BitStream →
    Option (List Nat × BitStream)
  | 0, _, _ => none
  | fuel + 1, lengths, stream =>
    if lengths.length = count then some (lengths.reverse, stream)
    else if count < lengths.length then none
    else do
      let (symbol, stream) ← code.read stream
      if symbol < 16 then readLengths code count fuel (symbol :: lengths) stream
      else
        let (length, least, bits) ← match symbol with
          | 16 => lengths.head?.map (·, 3, 2)
          | 17 => some (0, 3, 3)
          | _ => some (0, 11, 7)
        let (more, stream) ← stream.bits? bits
        readLengths code count fuel (List.replicate (least + more) length ++ lengths) stream

def mostLiterals : Nat := 286
def mostDistances : Nat := 30

def readCodes (stream : BitStream) : Option (Codes × BitStream) := do
  let (literals, stream) ← stream.bits? 5
  let (distances, stream) ← stream.bits? 5
  let (count, stream) ← stream.bits? 4
  let literals := literals + 257
  let distances := distances + 1
  if mostLiterals < literals ∨ mostDistances < distances then none
  else
    let (written, stream) ← readNumbers 3 (count + 4) stream
    let lengthOf (symbol : Nat) : Nat := ((lengthOrder.zip written).lookup symbol).getD 0
    let code ← Code.ofLengths? ((List.range lengthOrder.length).map lengthOf)
    let total := literals + distances
    let (lengths, stream) ← readLengths code total (total + 1) [] stream
    return (⟨← Code.ofLengths? (lengths.take literals), ← Code.ofLengths? (lengths.drop literals)⟩,
      stream)

/-- Reads stored bytes. Their number is written twice, the second time with all its bits
reversed in value. -/
def readStored (stream : BitStream) : Option (ByteArray × BitStream) := do
  let (count, stream) ← stream.aligned.bits? 16
  let (check, stream) ← stream.bits? 16
  if count + check = 65535 then stream.bytes? count else none

def unpackBlocks (fuelOfBlock : Nat) : (fuel : Nat) → BitStream → ByteArray →
    Option (ByteArray × BitStream)
  | 0, _, _ => none
  | fuel + 1, stream, bytes => do
    let (last, stream) ← stream.bit?
    let (kind, stream) ← stream.bits? 2
    let (bytes, stream) ← match kind with
      | 0 => (readStored stream).map fun (stored, stream) => (bytes ++ stored, stream)
      | 1 => fixedCodes?.bind fun codes => unpackWords codes fuelOfBlock stream bytes
      | 2 => (readCodes stream).bind fun (codes, stream) =>
        unpackWords codes fuelOfBlock stream bytes
      | _ => none
    if last = 1 then return (bytes, stream) else unpackBlocks fuelOfBlock fuel stream bytes

/-- Unpacks blocks, each of which has a bit at least for each of its words. -/
def inflate (stream : BitStream) : Option (ByteArray × BitStream) :=
  let bits := 8 * stream.data.size
  unpackBlocks (bits + 1) (bits + 1) stream .empty

end SlidePress.Compression
