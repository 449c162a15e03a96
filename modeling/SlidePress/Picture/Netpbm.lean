import SlidePress.Decimal.Notation
import SlidePress.Picture.Reading
import SlidePress.Text.Blank

/-!
Pictures with a header of words: a mark, the dimensions, and the greatest value of a sample. In the
last of the seven kinds every line of the header gives one of them by its name.
-/

namespace SlidePress.Picture.Netpbm

def largestNumber : Nat := 0xFFFFFFFF

/-- What the samples of a pixel are written as. -/
structure Depth where
  samples : Nat
  largest : Nat

namespace Depth

def pixelBytes (depth : Depth) : Nat :=
  depth.samples * (if depth.largest ≤ 0xFF then 1 else 2)

/-- Whether two bytes hold every sample. -/
def isNarrow (depth : Depth) : Bool :=
  depth.largest ≤ 0xFFFF

end Depth

def isSpace (byte : UInt8) : Bool :=
  byte = 0x20 || (0x09 ≤ byte && byte ≤ 0x0D)

def isLineEnd (byte : UInt8) : Bool :=
  byte = 0x0A || byte = 0x0D

def commentMark : UInt8 := 0x23

/-- Reads the rest of a word of which `word` has been read, the last byte first, and the white space
behind it. A comment goes on to the end of its line; it can stand in the middle of a word. -/
def readWordFrom : (inComment : Bool) → (word rest : List UInt8) → Option (List UInt8 × List UInt8)
  | _, word, [] => if word.isEmpty then none else some (word.reverse, [])
  | inComment, word, byte :: rest =>
    if inComment then readWordFrom (!isLineEnd byte) word rest
    else if byte = commentMark then readWordFrom true word rest
    else if isSpace byte then
      if word.isEmpty then readWordFrom false word rest else some (word.reverse, rest)
    else if 0x80 ≤ byte then none
    else readWordFrom false (byte :: word) rest

def readWord : Reading (List UInt8) :=
  readWordFrom false []

def textOf (bytes : List UInt8) : List Char :=
  bytes.map fun byte => Char.ofNat byte.toNat

def number? (word : List Char) : Option Nat :=
  Decimal.readNat? largestNumber (String.ofList word)

def readNumber : Reading Nat := do
  StateT.lift (number? (textOf (← readWord)))

/-- Reads the dimensions and, if the samples have more than one bit, their greatest value. -/
def readPlain (samples : Nat) (hasLargest : Bool) : Reading (Dimensions × Depth) := do
  let width ← readNumber
  let height ← readNumber
  let largest ← if hasLargest then readNumber else pure 1
  return ((width, height), ⟨samples, largest⟩)

/-- The lines of a header so far: the numbers by their names, and what the samples stand for. -/
structure Lines where
  numbers : List (List Char × Nat) := []
  meaning : Option (List Char) := none

def widthName : List Char := "WIDTH".toList
def heightName : List Char := "HEIGHT".toList
def samplesName : List Char := "DEPTH".toList
def largestName : List Char := "MAXVAL".toList
def meaningName : List Char := "TUPLTYPE".toList
def lastName : List Char := "ENDHDR".toList

namespace Lines

/-- Adds a line. A number is given once; what the samples stand for can be given in parts. -/
def add? (lines : Lines) (name value : List Char) : Option Lines :=
  if name = meaningName then
    some { lines with meaning := some (lines.meaning.elim value (· ++ ' ' :: value)) }
  else if [widthName, heightName, samplesName, largestName].contains name then
    if (lines.numbers.lookup name).isSome then none
    else (number? value).map fun n => { lines with numbers := (name, n) :: lines.numbers }
  else none

/-- How pixels are written, if they have no transparency and their samples are of a known meaning.
Without a meaning the samples have one byte. -/
def depth? (lines : Lines) (depth : Depth) : Option Depth :=
  match lines.meaning.map String.ofList with
  | none => if depth.samples = 1 ∨ depth.samples = 3 then some { depth with largest := 0xFF } else none
  | some "BLACKANDWHITE" => if depth.samples = 1 ∧ depth.largest = 1 then some depth else none
  | some "GRAYSCALE" =>
    if ¬depth.isNarrow then none
    else if depth.samples = 1 then some depth
    else if depth.samples = 0 then some ⟨1, 0xFFFF⟩
    else none
  | some "RGB" => if depth.samples = 3 ∧ depth.isNarrow then some depth else none
  | some _ => none

end Lines

def readLine : Reading (List UInt8) := fun rest =>
  if rest.isEmpty then none
  else some (rest.takeWhile (· ≠ 0x0A), (rest.dropWhile (· ≠ 0x0A)).drop 1)

def readLines : (fuel : Nat) → Lines → Reading Lines
  | 0, _ => failure
  | fuel + 1, lines => do
    let line ← readLine
    if line.head? = some commentMark then
      guard (String.fromUTF8? ⟨line.toArray⟩).isSome
      readLines fuel lines
    else
      guard (line.all (· < 0x80))
      let text := textOf line
      let name := text.takeWhile fun c => !Text.isBlank c
      if name = lastName then return lines
      else
        let value := Text.trim (text.drop name.length)
        readLines fuel (← StateT.lift (lines.add? name value))

def readNamed : Reading (Dimensions × Depth) := do
  guard ((← Reading.byte) = 0x0A)
  let lines ← readLines (← get).length {}
  let number (name : List Char) : Reading Nat := StateT.lift (lines.numbers.lookup name)
  let dimensions := (← number widthName, ← number heightName)
  let depth ← StateT.lift (lines.depth? ⟨← number samplesName, ← number largestName⟩)
  return (dimensions, depth)

def read : Reading Dimensions := do
  Reading.mark "P"
  let (dimensions, depth) ← match Char.ofNat (← Reading.byte) with
    | '1' | '4' => readPlain 1 false
    | '2' | '5' => readPlain 1 true
    | '3' | '6' => readPlain 3 true
    | '7' => readNamed
    | _ => failure
  guard (depth.isNarrow ∧ isCountable dimensions depth.pixelBytes)
  return dimensions

end SlidePress.Picture.Netpbm
