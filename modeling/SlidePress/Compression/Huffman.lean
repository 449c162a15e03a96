/-!
Bytes that are read bit by bit, the lowest bit of a byte first, and codes of words of different lengths,
given by the lengths alone: words of a length are in the order of their symbols, and behind all shorter
ones. Every run of bits has to begin with a word of the code, unless the code has one word at most.
-/

namespace SlidePress.Compression

structure BitStream where
  data : ByteArray
  /-- How many bits have been read. -/
  position : Nat := 0

namespace BitStream

def bit? (stream : BitStream) : Option (Nat × BitStream) :=
  if h : stream.position / 8 < stream.data.size then
    let byte := stream.data[stream.position / 8]
    some ((byte.toNat >>> (stream.position % 8)) % 2, { stream with position := stream.position + 1 })
  else none

/-- The number in the next bits, the lowest one first. -/
def bits? : (count : Nat) → BitStream → Option (Nat × BitStream)
  | 0, stream => some (0, stream)
  | count + 1, stream => do
    let (low, stream) ← stream.bit?
    let (high, stream) ← bits? count stream
    return (low + 2 * high, stream)

def aligned (stream : BitStream) : BitStream :=
  { stream with position := (stream.position + 7) / 8 * 8 }

def bytes? (count : Nat) (stream : BitStream) : Option (ByteArray × BitStream) :=
  let start := stream.position / 8
  if start + count ≤ stream.data.size then
    some (stream.data.extract start (start + count),
      { stream with position := stream.position + 8 * count })
  else none

end BitStream

/-- What is read from the front of bits; there is no result when they run out. -/
abbrev BitReading := StateT BitStream Option

namespace BitReading

/-- The number in the next bits, the lowest one first. -/
def number (count : Nat) : BitReading Nat := fun stream =>
  stream.bits? count

def flag : BitReading Bool :=
  return (← number 1) = 1

end BitReading

def longestWord : Nat := 15

/-- A code: how many words of each length there are, from the length one on, and the symbols of the
words in their order. -/
structure Code where
  counts : List Nat
  symbols : Array Nat

def symbolsOfLength (lengths : List Nat) (length : Nat) : List Nat :=
  (lengths.zipIdx.filter (·.1 == length)).map (·.2)

/-- The share of all runs of bits that begin with a word of a length, in parts of the shortest. -/
def shareOf (length : Nat) : Nat :=
  Nat.pow 2 (longestWord - length)

/-- The code whose words have the lengths, by their symbols; a length of zero is no word. -/
def Code.ofLengths? (lengths : List Nat) : Option Code :=
  let used := lengths.filter (0 < ·)
  let share := used.foldl (fun sum length => sum + shareOf length) 0
  if used.length ≤ 1 ∨ share = shareOf 0 then
    let groups := (List.range longestWord).map fun n => symbolsOfLength lengths (n + 1)
    some ⟨groups.map (·.length), groups.flatten.toArray⟩
  else none

/-- Reads the rest of a word of which bits have been read that are `word`; the words of that length
begin at `first`, and `index` symbols have shorter ones. -/
def readWord (symbols : Array Nat) : (counts : List Nat) → (word first index : Nat) → BitStream →
    Option (Nat × BitStream)
  | [], _, _, _, _ => none
  | count :: counts, word, first, index, stream => do
    let (bit, stream) ← stream.bit?
    let word := 2 * word + bit
    let first := 2 * first
    if word < first + count then return (← symbols[index + (word - first)]?, stream)
    else readWord symbols counts word (first + count) (index + count) stream

def Code.read (code : Code) (stream : BitStream) : Option (Nat × BitStream) :=
  readWord code.symbols code.counts 0 0 0 stream

end SlidePress.Compression
