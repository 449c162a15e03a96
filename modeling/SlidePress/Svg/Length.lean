import SlidePress.Decimal.Binary
import SlidePress.Text.Search

/-!
Lengths in drawings: numbers with units. A number is read exactly and rounded to 64 bits; what is
computed from it is computed in 32 bits.
-/

namespace SlidePress.Svg

inductive LengthUnit where
  | none
  | em
  | ex
  | px
  | inch
  | cm
  | mm
  | pt
  | pc
  | percent
  deriving DecidableEq, Repr

/-- A number of units. -/
structure Measure where
  number : Float
  unit : LengthUnit

def isSpace (c : Char) : Bool :=
  c == ' ' || c == '\t' || c == '\n' || c == '\r'

def isWordChar (c : Char) : Bool :=
  c.isAlphanum || c == '-' || c == '_'

/-- Splits the power of ten off that stands behind the digits of a number, with a digit or a sign
behind its letter. An m or an x behind the letter makes a unit of it. -/
def spanExponent (text : List Char) : Option (List Char × List Char) :=
  match text with
  | [] => some ([], [])
  | e :: rest =>
    if e ≠ 'e' ∧ e ≠ 'E' then some ([], text)
    else
      match rest with
      | [] => none
      | next :: after =>
        if next = 'm' ∨ next = 'x' then some ([], text)
        else if next = '+' ∨ next = '-' then
          let (digits, after) := Decimal.spanDigits after
          some (e :: next :: digits, after)
        else if next.isDigit then
          let (digits, after) := Decimal.spanDigits rest
          some (e :: digits, after)
        else none

/-- Reads a number, with white space in front of it; what is too large is no number. -/
def readNumber (text : List Char) : Option (Float × List Char) :=
  let text := text.dropWhile isSpace
  let (sign, body) := match text with
    | '-' :: rest => (['-'], rest)
    | '+' :: rest => (['+'], rest)
    | text => ([], text)
  let (whole, rest) := Decimal.spanDigits body
  if whole.isEmpty ∧ rest.head? ≠ some '.' then none
  else
    let (part, rest) := match rest with
      | '.' :: rest =>
        let (digits, rest) := Decimal.spanDigits rest
        ('.' :: digits, rest)
      | rest => ([], rest)
    match spanExponent rest with
    | none => none
    | some (exponent, rest) =>
      match Decimal.readFloat? (String.ofList (sign ++ whole ++ part ++ exponent)) with
      | some number => if number.isFinite then some (number, rest) else none
      | none => none

def unitNames : List (List Char × LengthUnit) := [
  (['%'], .percent), (['e', 'm'], .em), (['e', 'x'], .ex), (['p', 'x'], .px),
  (['i', 'n'], .inch), (['c', 'm'], .cm), (['m', 'm'], .mm), (['p', 't'], .pt), (['p', 'c'], .pc)]

/-- Reads a length, with white space in front of it. -/
def readLength (text : List Char) : Option (Measure × List Char) :=
  (readNumber text).map fun (number, rest) =>
    let unit? := unitNames.findSome? fun (name, unit) => (Text.after? name rest).map (unit, ·)
    match unit? with
    | some (unit, rest) => (⟨number, unit⟩, rest)
    | none => (⟨number, .none⟩, rest)

/-- Reads a length and nothing behind it, not even white space. -/
def readMeasure? (text : List Char) : Option Measure :=
  match readLength text with
  | some (measure, []) => some measure
  | _ => none

def afterSeparator (text : List Char) : List Char :=
  match text.dropWhile isSpace with
  | ',' :: rest => rest
  | rest => rest

/-- Reads a number of a list, with the white space and the comma behind it. -/
def readListNumber (text : List Char) : Option (Float × List Char) :=
  (readNumber text).map fun (number, rest) => (number, afterSeparator rest)

def readListNumbers : (count : Nat) → List Char → Option (List Float × List Char)
  | 0, text => some ([], text)
  | count + 1, text => do
    let (number, rest) ← readListNumber text
    let (numbers, rest) ← readListNumbers count rest
    return (number :: numbers, rest)

def dotsPerInch : Float32 := 96

/-- The size of a font in pixels, when nothing else is said. -/
def usualFontSize : Float32 := 12

/-- The pixels of a length; `part` tells how many those of a part of a whole are. -/
def Measure.pixels (measure : Measure) (fontSize : Float32) (part : Float32 → Float32) : Float32 :=
  let n := measure.number.toFloat32
  match measure.unit with
  | .none | .px => n
  | .em => n * fontSize
  | .ex => n * fontSize / 2
  | .inch => n * dotsPerInch
  | .cm => n * dotsPerInch / 2.54
  | .mm => n * dotsPerInch / 25.4
  | .pt => n * dotsPerInch / 72
  | .pc => n * dotsPerInch / 6
  | .percent => part n

/-- The part of a whole that a percentage is. The whole is taken so many times first, so that whole
results stay exact. -/
def partOf (whole percent : Float32) : Float32 :=
  whole * percent / 100

def hasMinus (number : Float) : Bool :=
  0x8000000000000000 ≤ number.toBits

def Measure.zero : Measure := ⟨0, .none⟩

/-- How many steps of the scale of font sizes a word stands for. -/
def fontSteps : List (String × Bool × Nat) := [
  ("xx-small", true, 3), ("x-small", true, 2), ("small", true, 1), ("medium", false, 0),
  ("large", false, 1), ("x-large", false, 2), ("xx-large", false, 3), ("smaller", true, 1),
  ("larger", false, 1)]

/-- The factor between two neighbouring font sizes. -/
def fontStep : Float32 := 1.2

def fontFactor : Nat → Float32
  | 0 => 1
  | 1 => fontStep
  | 2 => fontStep * fontStep
  | _ => fontStep * (fontStep * fontStep)

/-- The size that a font is said to have inside of one of another size. Words are steps on a scale,
and those that are none change nothing. -/
def fontSizeWithin (outer : Float32) (said : List Char) : Float32 :=
  match readMeasure? said with
  | some measure => measure.pixels outer fun percent => percent * outer * 0.01
  | none =>
    match fontSteps.lookup (String.ofList said) with
    | some (true, steps) => outer * (1 / fontFactor steps)
    | some (false, steps) => outer * fontFactor steps
    | none => outer

end SlidePress.Svg
