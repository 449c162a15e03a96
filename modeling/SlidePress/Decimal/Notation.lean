/-!
Numbers written in decimal: whole numbers with a sign that may be left out, and numbers with a
point and a power of ten. Reading is exact; rounding to a format is a matter of its own.
-/

namespace SlidePress.Decimal

def digit? (c : Char) : Option Nat :=
  if c.isDigit then some (c.toNat - '0'.toNat) else none

/-- The whole number that the digits spell, when there is a digit and nothing else. -/
def digits? : List Char → Option Nat
  | [] => none
  | text => text.foldl (fun sum c => sum.bind fun n => (digit? c).map (n * 10 + ·)) (some 0)

/-- Reads a whole number up to `limit`; a plus sign may stand in front. -/
def readNat? (limit : Nat) (text : String) : Option Nat :=
  let body := match text.toList with
    | '+' :: rest => rest
    | text => text
  (digits? body).filter (· ≤ limit)

/-- A number `± coefficient · 10 ^ exponent`. -/
structure Scientific where
  negative : Bool
  coefficient : Nat
  exponent : Int
  deriving DecidableEq, Repr

/-- What a written number stands for. -/
inductive Numeral where
  | number (value : Scientific)
  | infinite (negative : Bool)
  | undefined
  deriving DecidableEq, Repr

def spanDigits (text : List Char) : List Char × List Char :=
  (text.takeWhile Char.isDigit, text.dropWhile Char.isDigit)

/-- The number that a run of digits spells; the empty run spells zero. -/
def ofDigits (digits : List Char) : Nat :=
  digits.foldl (fun n c => n * 10 + (c.toNat - '0'.toNat)) 0

/-- Splits a sign off; without one the number is positive. -/
def splitSign : List Char → Bool × List Char
  | '-' :: rest => (true, rest)
  | '+' :: rest => (false, rest)
  | text => (false, text)

/-- Reads the power of ten that may end a number, which needs a digit. -/
def readExponent? : List Char → Option Int
  | [] => some 0
  | e :: rest =>
    if e = 'e' ∨ e = 'E' then
      let (negative, digits) := splitSign rest
      (digits? digits).map fun n => if negative then -(n : Int) else n
    else none

/-- Reads a number with a point and a power of ten, or one of the words for what is no number.
A digit before or after the point is needed, and nothing may stand around the number. -/
def readNumeral? (text : String) : Option Numeral :=
  let (negative, body) := splitSign text.toList
  let word := body.map Char.toLower
  if word = "inf".toList ∨ word = "infinity".toList then some (.infinite negative)
  else if word = "nan".toList then some .undefined
  else
    let (whole, rest) := spanDigits body
    let (part, rest) := match rest with
      | '.' :: rest => spanDigits rest
      | rest => ([], rest)
    if whole.isEmpty && part.isEmpty then none
    else (readExponent? rest).map fun exponent =>
      .number ⟨negative, ofDigits (whole ++ part), exponent - part.length⟩

end SlidePress.Decimal
