import SlidePress.Decimal.Notation
import SlidePress.Picture.Reading
import SlidePress.Text.Blank
import SlidePress.Text.Utf8

/-!
Pictures with a header of lines up to an empty one, and a line with the dimensions behind it. Some of
the lines give a name a value, and the values of a few names have to be numbers.
-/

namespace SlidePress.Picture.Radiance

def readLine : Reading (List UInt8) := fun rest =>
  if rest.isEmpty then none
  else some (rest.takeWhile (· ≠ 0x0A), (rest.dropWhile (· ≠ 0x0A)).drop 1)

def textOf (line : List UInt8) : List Char :=
  (Text.ofBytes ⟨line.toArray⟩).toList

/-- Puts a character in front of words; white space begins a new word. -/
def addToWords (c : Char) (words : List (List Char)) : List (List Char) :=
  match words with
  | word :: rest => if Text.isBlank c then [] :: word :: rest else (c :: word) :: rest
  | [] => if Text.isBlank c then [] else [[c]]

def wordsOf (text : List Char) : List (List Char) :=
  (text.foldr addToWords []).filter (!·.isEmpty)

def isNumber (text : List Char) : Bool :=
  (Decimal.readNumeral? (String.ofList text)).isSome

/-- The only way of storing pixels that can be read. -/
def storage : List Char := "32-bit_rle_rgbe".toList

def allows (name value : List Char) : Bool :=
  match String.ofList name with
  | "FORMAT" => Text.trim value = storage
  | "EXPOSURE" | "PIXASPECT" => isNumber (Text.trim value)
  | "COLORCORR" => (wordsOf value).length = 3 && (wordsOf value).all isNumber
  | _ => true

/-- Whether a line can stand in a header. A line without a name or without a value says nothing. -/
def isAllowed (text : List Char) : Bool :=
  let name := text.takeWhile (· ≠ '=')
  let value := text.drop (name.length + 1)
  name.isEmpty || value.isEmpty || allows (Text.trim name) value

def readLines : (fuel : Nat) → Reading Unit
  | 0 => failure
  | fuel + 1 => do
    let line ← readLine
    if line.isEmpty then return
    else
      guard (line.head? = some 0x23 ∨ isAllowed (textOf line))
      readLines fuel

def number? (word : List Char) : Option Nat :=
  Decimal.readNat? 0xFFFFFFFF (String.ofList word)

/-- The dimensions in a line; the rows go down, and the pixels of a row to the right. -/
def dimensionsOf? (text : List Char) : Option Dimensions :=
  match wordsOf text with
  | [['-', 'Y'], height, ['+', 'X'], width] => return (← number? width, ← number? height)
  | _ => none

def read : Reading Dimensions := do
  Reading.mark "#?RADIANCE"
  modify fun rest => (rest.dropWhile (· ≠ 0x0A)).drop 1
  readLines (← get).length
  let dimensions ← StateT.lift (dimensionsOf? (textOf (← readLine)))
  guard (isCountable dimensions 3)
  return dimensions

end SlidePress.Picture.Radiance
