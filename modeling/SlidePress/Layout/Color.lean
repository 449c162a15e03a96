/-!
Colors of eight bits each for red, green and blue, and their hexadecimal form.
-/

namespace SlidePress

structure Color where
  red : UInt8
  green : UInt8
  blue : UInt8
  deriving DecidableEq, Repr

namespace Color

def white : Color := ⟨255, 255, 255⟩
def black : Color := ⟨0, 0, 0⟩

def hexDigit (n : Nat) : Char :=
  if n < 10 then Char.ofNat ('0'.toNat + n) else Char.ofNat ('A'.toNat + (n - 10))

def hexByte (byte : UInt8) : List Char :=
  [hexDigit (byte.toNat / 16), hexDigit (byte.toNat % 16)]

/-- Six digits: red, green and blue. -/
def hex (color : Color) : String :=
  String.ofList (hexByte color.red ++ hexByte color.green ++ hexByte color.blue)

end Color

end SlidePress
