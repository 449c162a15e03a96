import SlidePress.Compression.Inflate

/-!
The codes of pictures that are stored without losses. A code with one symbol needs no bits for it;
every other one is given by the lengths of its words, or has two words of one bit.
-/

namespace SlidePress.Picture.WebP

open Compression

/-- How symbols are written. -/
inductive Coding where
  | constant (symbol : Nat)
  | words (code : Code)

/-- The code whose words have the lengths, by their symbols. It has to have a symbol. -/
def Coding.ofLengths? (lengths : List Nat) : Option Coding :=
  match lengths.zipIdx.filter (0 < ·.1) with
  | [] => none
  | [(_, symbol)] => some (.constant symbol)
  | _ => (Code.ofLengths? lengths).map .words

def Coding.read : Coding → BitReading Nat
  | .constant symbol => return symbol
  | .words code => fun stream => code.read stream

def wordOrder : List Nat := [17, 18, 0, 1, 2, 3, 4, 5, 16, 6, 7, 8, 9, 10, 11, 12, 13, 14, 15]

def firstLength : Nat := 8

/-- Reads the lengths of words for the symbols that there is room for; `left` is how many entries are
written at most, and `last` the last length that is none of zero. -/
def readLengths (coding : Coding) : (fuel : Nat) → (room left last : Nat) → BitReading (List Nat)
  | 0, _, _, _ => return []
  | fuel + 1, room, left, last => do
    if room = 0 ∨ left = 0 then return List.replicate room 0
    else
      let symbol ← coding.read
      if symbol < 16 then
        let last := if symbol = 0 then last else symbol
        return symbol :: (← readLengths coding fuel (room - 1) (left - 1) last)
      else
        let (length, least, bits) := match symbol with
          | 16 => (last, 3, 2)
          | 17 => (0, 3, 3)
          | _ => (0, 11, 7)
        let count := least + (← BitReading.number bits)
        guard (count ≤ room)
        return List.replicate count length ++
          (← readLengths coding fuel (room - count) (left - 1) last)

/-- Reads how many entries for lengths are written, for so many symbols. -/
def readEntryCount (size : Nat) : BitReading Nat := do
  if ← BitReading.flag then
    let bits := 2 + 2 * (← BitReading.number 3)
    let count := 2 + (← BitReading.number bits)
    guard (count ≤ size)
    return count
  else return size

def readShortCoding : BitReading Coding := do
  let isPair ← BitReading.flag
  let isWide ← BitReading.flag
  let first ← BitReading.number (if isWide then 8 else 1)
  if isPair then return .words ⟨[2], #[first, ← BitReading.number 8]⟩ else return .constant first

def readCoding (size : Nat) : BitReading Coding := do
  if ← BitReading.flag then readShortCoding
  else
    let count ← BitReading.number 4
    let written ← fun stream => readNumbers 3 (count + 4) stream
    let lengthOf (symbol : Nat) : Nat := ((wordOrder.zip written).lookup symbol).getD 0
    let coding ← StateT.lift (Coding.ofLengths? ((List.range wordOrder.length).map lengthOf))
    let left ← readEntryCount size
    let lengths ← readLengths coding (size + 1) size left firstLength
    StateT.lift (Coding.ofLengths? lengths)

end SlidePress.Picture.WebP
