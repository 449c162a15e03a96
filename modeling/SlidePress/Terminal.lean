/-!
Text for people at a terminal. Numbers of bytes are in bytes below a kilobyte, in whole kilobytes below
a megabyte, and in whole megabytes from there on; what does not fill a unit is left out. For colored
text a code switches the color on and another one back to the usual one.
-/

namespace SlidePress

def byteCount (bytes : Nat) : String :=
  if bytes < 1024 then s!"{bytes}B"
  else if bytes < 1024 * 1024 then s!"{bytes / 1024}K"
  else s!"{bytes / (1024 * 1024)}M"

namespace Terminal

/-- The colors that are used, by the number of their code. -/
inductive Tint where
  | red
  | green
  | yellow
  | blue
  deriving DecidableEq, Repr

def Tint.code : Tint → Nat
  | .red => 31
  | .green => 32
  | .yellow => 33
  | .blue => 34

def tinted (tint : Tint) (text : String) : String :=
  s!"\x1b[{tint.code}m" ++ text ++ "\x1b[39m"

def checkMark : String := tinted .green "✓"

def crossMark : String := tinted .red "✗"

end Terminal

end SlidePress
