import SlidePress.Decimal.Binary

/-!
The shortest decimal text that reads back as a given number of 32 bits. Among the decimal numbers
of the fewest digits that round to it the nearest is taken, and the larger of two equally near.
-/

namespace SlidePress.Decimal

/-- A positive number `value / scale` with the interval of the numbers that round to it. -/
structure Rounding where
  low : Nat
  value : Nat
  high : Nat
  scale : Nat
  /-- Whether the ends of the interval round to the number too. -/
  closed : Bool

/-- The rounding interval of `mantissa · 2 ^ exponent`. Below a mantissa that begins a new length
the neighbour is half as far away. -/
def Format.rounding (format : Format) (mantissa : Nat) (exponent : Int) : Rounding :=
  let below := if mantissa = Nat.pow 2 (format.precision - 1) ∧ format.least < exponent then 1 else 2
  let quarter := exponent - 2
  let factor := if 0 ≤ quarter then Nat.pow 2 quarter.toNat else 1
  let scale := if 0 ≤ quarter then 1 else Nat.pow 2 (-quarter).toNat
  ⟨(4 * mantissa - below) * factor, 4 * mantissa * factor, (4 * mantissa + 2) * factor, scale,
    mantissa % 2 = 0⟩

def Rounding.holds (rounding : Rounding) (digits : Nat) (exponent : Int) : Bool :=
  let (point, scale) :=
    if 0 ≤ exponent then (digits * Nat.pow 10 exponent.toNat * rounding.scale, 1)
    else (digits * rounding.scale, Nat.pow 10 (-exponent).toNat)
  if rounding.closed then
    rounding.low * scale ≤ point && point ≤ rounding.high * scale
  else
    rounding.low * scale < point && point < rounding.high * scale

/-- The exponent of the first decimal digit of the number. -/
def Rounding.magnitude (rounding : Rounding) : Int :=
  if rounding.scale ≤ rounding.value then
    (Nat.toDigits 10 (rounding.value / rounding.scale)).length - 1
  else
    -((Nat.toDigits 10 ((rounding.scale - 1) / rounding.value)).length : Int)

/-- The number as a multiple of `10 ^ exponent`: the whole part, and how twice the rest compares
with the unit. -/
def Rounding.over (rounding : Rounding) (exponent : Int) : Nat × Ordering :=
  let (num, den) :=
    if 0 ≤ exponent then (rounding.value, rounding.scale * Nat.pow 10 exponent.toNat)
    else (rounding.value * Nat.pow 10 (-exponent).toNat, rounding.scale)
  (num / den, compare (2 * (num % den)) den)

/-- The nearest decimal number of `count` digits that rounds to the number, if there is one. -/
def Rounding.withDigits (rounding : Rounding) (count : Nat) : Option (Nat × Int) :=
  let exponent := rounding.magnitude - count + 1
  let (whole, half) := rounding.over exponent
  let down := rounding.holds whole exponent
  let up := rounding.holds (whole + 1) exponent
  if up && (!down || half != .lt) then some (whole + 1, exponent)
  else if down then some (whole, exponent)
  else none

/-- The first count of digits, from `count` on, at which a decimal number rounds to the number.
Nine digits are enough for 32 bits. -/
def Rounding.shortest (rounding : Rounding) : (count fuel : Nat) → Nat × Int
  | count, 0 => ((rounding.over (rounding.magnitude - count + 1)).1, rounding.magnitude - count + 1)
  | count, fuel + 1 =>
    match rounding.withDigits count with
    | some found => found
    | none => rounding.shortest (count + 1) fuel

/-- `digits · 10 ^ exponent` with a point where it belongs and never a power of ten. -/
def positional (digits : Nat) (exponent : Int) : String :=
  let text := Nat.toDigits 10 digits
  if 0 ≤ exponent then
    String.ofList (text ++ List.replicate exponent.toNat '0')
  else
    let places := (-exponent).toNat
    let text := List.replicate (places + 1 - text.length) '0' ++ text
    let whole := text.take (text.length - places)
    let part := (text.drop (text.length - places)).reverse.dropWhile (· == '0')
    String.ofList (if part.isEmpty then whole else whole ++ '.' :: part.reverse)

/-- The mantissa and exponent that bits without a sign stand for. -/
def Format.decode (format : Format) (bits : Nat) : Nat × Int :=
  let hidden := Nat.pow 2 (format.precision - 1)
  let field := bits / hidden
  if field = 0 then (bits, format.least)
  else (hidden + bits % hidden, format.least + (field - 1 : Nat))

/-- The shortest text of a number of 32 bits: the sign, digits with a point where it belongs, no
point without digits after it. -/
def float32Text (number : Float32) : String :=
  let bits := number.toBits.toNat
  let sign := if Nat.pow 2 31 ≤ bits then "-" else ""
  let size := bits % Nat.pow 2 31
  if binary32.infinity < size then "NaN"
  else if size = binary32.infinity then sign ++ "inf"
  else if size = 0 then sign ++ "0"
  else
    let (mantissa, exponent) := binary32.decode size
    let (digits, exponent) := (binary32.rounding mantissa exponent).shortest 1 9
    sign ++ positional digits exponent

end SlidePress.Decimal
