import SlidePress.Decimal.Notation

/-!
Rounding of exact numbers to the binary formats. A finite number of such a format is
`mantissa · 2 ^ exponent`, the mantissa having at most `precision` bits; a tie goes to the even
mantissa. Everything here is exact arithmetic on natural numbers.
-/

namespace SlidePress.Decimal

/-- A binary format: the bits of a mantissa, and the least and greatest exponent of its last. -/
structure Format where
  precision : Nat
  least : Int
  greatest : Int

def binary32 : Format := ⟨24, -149, 104⟩

def binary64 : Format := ⟨53, -1074, 971⟩

/-- The whole number nearest to `num / den`, the even one of two equally near. -/
def roundHalfEven (num den : Nat) : Nat :=
  let quotient := num / den
  let twice := 2 * (num % den)
  if twice < den then quotient
  else if den < twice then quotient + 1
  else if quotient % 2 = 0 then quotient else quotient + 1

def scaledBy (num den : Nat) (exponent : Int) : Nat × Nat :=
  if 0 ≤ exponent then (num, den * Nat.pow 2 exponent.toNat) else (num * Nat.pow 2 (-exponent).toNat, den)

/-- The mantissa and exponent nearest to the positive number `num / den`; none when it is too
large for the format. -/
def Format.round (format : Format) (num den : Nat) : Option (Nat × Int) :=
  let guess : Int := (num.log2 : Int) - (den.log2 : Int) - format.precision
  let (n, d) := scaledBy num den guess
  let exponent := max format.least (if n / d < Nat.pow 2 format.precision then guess else guess + 1)
  let (n, d) := scaledBy num den exponent
  let mantissa := roundHalfEven n d
  let (mantissa, exponent) :=
    if mantissa = Nat.pow 2 format.precision then (Nat.pow 2 (format.precision - 1), exponent + 1)
    else (mantissa, exponent)
  if exponent ≤ format.greatest then some (mantissa, exponent) else none

/-- The bits of a mantissa and its exponent, without the sign. The mantissas of full length have
their first bit left out and count their exponents from one. -/
def Format.encode (format : Format) (mantissa : Nat) (exponent : Int) : Nat :=
  let hidden := Nat.pow 2 (format.precision - 1)
  if mantissa < hidden then mantissa
  else (exponent - format.least + 1).toNat * hidden + (mantissa - hidden)

def Format.infinity (format : Format) : Nat :=
  (format.greatest - format.least + 2).toNat * Nat.pow 2 (format.precision - 1)

def Format.undefined (format : Format) : Nat :=
  format.infinity + Nat.pow 2 (format.precision - 2)

/-- The bits of the number nearest to a decimal one, without the sign. The powers of ten that no
format reaches are told before any of them is computed. -/
def Format.ofScientific (format : Format) (coefficient : Nat) (exponent : Int) : Nat :=
  let length : Int := (Nat.toDigits 10 coefficient).length
  if coefficient = 0 ∨ exponent + length < -400 then 0
  else if 400 < exponent + length then format.infinity
  else
    let rounded :=
      if 0 ≤ exponent then format.round (coefficient * Nat.pow 10 exponent.toNat) 1
      else format.round coefficient (Nat.pow 10 (-exponent).toNat)
    match rounded with
    | some (mantissa, exponent) => format.encode mantissa exponent
    | none => format.infinity

def Numeral.toFloat32 : Numeral → Float32
  | .number value =>
    let size := Float32.ofBits (binary32.ofScientific value.coefficient value.exponent).toUInt32
    if value.negative then -size else size
  | .infinite negative =>
    let size := Float32.ofBits binary32.infinity.toUInt32
    if negative then -size else size
  | .undefined => Float32.ofBits binary32.undefined.toUInt32

def Numeral.toFloat : Numeral → Float
  | .number value =>
    let size := Float.ofBits (binary64.ofScientific value.coefficient value.exponent).toUInt64
    if value.negative then -size else size
  | .infinite negative =>
    let size := Float.ofBits binary64.infinity.toUInt64
    if negative then -size else size
  | .undefined => Float.ofBits binary64.undefined.toUInt64

/-- Reads a number of 32 bits; the written number is rounded once. -/
def readFloat32? (text : String) : Option Float32 :=
  (readNumeral? text).map Numeral.toFloat32

/-- Reads a number of 64 bits; the written number is rounded once. -/
def readFloat? (text : String) : Option Float :=
  (readNumeral? text).map Numeral.toFloat

end SlidePress.Decimal
