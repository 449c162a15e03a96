/-!
Reading bytes as UTF-8 when they may not be. Every longest run of bytes that could begin a
character and does not complete one is read as one replacement character.
-/

namespace SlidePress.Text

def replacement : Char := '\uFFFD'

def continues (byte : UInt8) : Bool :=
  0x80 ≤ byte && byte ≤ 0xBF

/-- Whether `second` may follow `first` at the front of a character of three bytes: no overlong
form and no surrogate comes of it. -/
def opensThree (first second : UInt8) : Bool :=
  if first == 0xE0 then 0xA0 ≤ second && second ≤ 0xBF
  else if first == 0xED then 0x80 ≤ second && second ≤ 0x9F
  else continues second

/-- Whether `second` may follow `first` at the front of a character of four bytes: no overlong
form and nothing beyond the last code point comes of it. -/
def opensFour (first second : UInt8) : Bool :=
  if first == 0xF0 then 0x90 ≤ second && second ≤ 0xBF
  else if first == 0xF4 then 0x80 ≤ second && second ≤ 0x8F
  else continues second

def payload (byte : UInt8) : Nat :=
  byte.toNat % 64

def readLossy : List UInt8 → List Char
  | [] => []
  | first :: rest =>
    if first < 0x80 then
      Char.ofNat first.toNat :: readLossy rest
    else if 0xC2 ≤ first && first ≤ 0xDF then
      match rest with
      | second :: rest =>
        if continues second then
          Char.ofNat ((first.toNat - 0xC0) * 64 + payload second) :: readLossy rest
        else replacement :: readLossy (second :: rest)
      | [] => [replacement]
    else if 0xE0 ≤ first && first ≤ 0xEF then
      match rest with
      | second :: rest =>
        if opensThree first second then
          match rest with
          | third :: rest =>
            if continues third then
              Char.ofNat (((first.toNat - 0xE0) * 64 + payload second) * 64 + payload third)
                :: readLossy rest
            else replacement :: readLossy (third :: rest)
          | [] => [replacement]
        else replacement :: readLossy (second :: rest)
      | [] => [replacement]
    else if 0xF0 ≤ first && first ≤ 0xF4 then
      match rest with
      | second :: rest =>
        if opensFour first second then
          match rest with
          | third :: rest =>
            if continues third then
              match rest with
              | fourth :: rest =>
                if continues fourth then
                  Char.ofNat ((((first.toNat - 0xF0) * 64 + payload second) * 64 + payload third)
                    * 64 + payload fourth) :: readLossy rest
                else replacement :: readLossy (fourth :: rest)
              | [] => [replacement]
            else replacement :: readLossy (third :: rest)
          | [] => [replacement]
        else replacement :: readLossy (second :: rest)
      | [] => [replacement]
    else
      replacement :: readLossy rest
termination_by bytes => bytes.length

/-- The string that the bytes spell, with a replacement for what is no character. -/
def ofBytes (bytes : ByteArray) : String :=
  match String.fromUTF8? bytes with
  | some text => text
  | none => String.ofList (readLossy bytes.toList)

end SlidePress.Text
