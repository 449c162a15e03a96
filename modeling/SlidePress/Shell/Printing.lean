import SlidePress.Decimal.Notation

/-!
Texts with escapes and formats, written as bytes, since an escape can name any byte.
-/

namespace SlidePress.Shell

def octalDigit? (c : Char) : Option Nat :=
  if '0' ≤ c ∧ c ≤ '7' then some (c.toNat - '0'.toNat) else none

/-- The value of up to `count` octal digits at the front, their number and whether there is one. -/
def octalValue : (count : Nat) → (value : Nat) → List Char → Nat × Nat
  | 0, value, _ => (value, 0)
  | _, value, [] => (value, 0)
  | count + 1, value, c :: rest =>
    match octalDigit? c with
    | some digit =>
      let (value, length) := octalValue count (value * 8 + digit) rest
      (value, length + 1)
    | none => (value, 0)

def charBytes (c : Char) : List UInt8 :=
  (String.singleton c).toUTF8.toList

def textBytes (text : List Char) : List UInt8 :=
  text.flatMap charBytes

def escapeByte? (c : Char) : Option UInt8 :=
  match c with
  | 'a' => some 7
  | 'b' => some 8
  | 't' => some 9
  | 'n' => some 10
  | 'v' => some 11
  | 'f' => some 12
  | 'r' => some 13
  | '\\' => some 92
  | _ => none

/-- What follows a backslash: its bytes, the number of characters it takes, and whether everything
ends there. An octal number may need a zero in front. -/
def escape (zeroFirst : Bool) (text : List Char) : List UInt8 × Nat × Bool :=
  match text with
  | [] => ([92], 0, false)
  | c :: rest =>
    if c = 'c' ∧ zeroFirst then ([], 1, true)
    else if zeroFirst ∧ c = '0' then
      let (value, length) := octalValue 3 0 rest
      ([value.toUInt8], length + 1, false)
    else if !zeroFirst ∧ (octalDigit? c).isSome then
      let (value, length) := octalValue 3 0 text
      ([value.toUInt8], length, false)
    else
      match escapeByte? c with
      | some byte => ([byte], 1, false)
      | none => (92 :: charBytes c, 1, false)

/-- A text with its escapes read, and whether one of them ended it. -/
def unescaped (zeroFirst : Bool) : (skip : Nat) → List Char → List UInt8 × Bool
  | _, [] => ([], false)
  | skip + 1, _ :: rest => unescaped zeroFirst skip rest
  | 0, c :: rest =>
    if c = '\\' then
      let (bytes, length, stops) := escape zeroFirst rest
      if stops then (bytes, true)
      else
        let (more, stops) := unescaped zeroFirst length rest
        (bytes ++ more, stops)
    else
      let (more, stops) := unescaped zeroFirst 0 rest
      (charBytes c ++ more, stops)

/-- How a value is set into a format. -/
structure Directive where
  left : Bool
  zero : Bool
  width : Nat
  places : Option Nat
  letter : Char

/-- Reads the directive behind a percent sign and the number of its characters. -/
def directive? (text : List Char) : Option (Directive × Nat) :=
  let flags := text.takeWhile (· ∈ ['-', '0', '+', ' ', '#'])
  let rest := text.drop flags.length
  let (width, rest) := Decimal.spanDigits rest
  let (places, rest) := match rest with
    | '.' :: rest =>
      let (digits, rest) := Decimal.spanDigits rest
      (some (Decimal.ofDigits digits), rest)
    | rest => (none, rest)
  match rest with
  | [] => none
  | letter :: rest =>
    some (⟨'-' ∈ flags, '0' ∈ flags, Decimal.ofDigits width, places, letter⟩,
      text.length - rest.length)

def Directive.fill (directive : Directive) (value : List UInt8) : List UInt8 :=
  let missing := directive.width - value.length
  if directive.left then value ++ List.replicate missing 32
  else if directive.zero ∧ directive.letter ∈ ['d', 'i', 'u', 'o', 'x', 'X'] then
    List.replicate missing 48 ++ value
  else List.replicate missing 32 ++ value

/-- The whole number that an argument spells; other arguments are zero. -/
def argumentNumber (argument : List Char) : Int :=
  match argument with
  | '-' :: digits => -((Decimal.digits? digits).getD 0 : Nat)
  | digits => ((Decimal.digits? digits).getD 0 : Nat)

def Directive.value (directive : Directive) (argument : List Char) : List UInt8 :=
  let digits (base : Nat) := textBytes (Nat.toDigits base (argumentNumber argument).toNat)
  match directive.letter with
  | 'd' | 'i' => textBytes (toString (argumentNumber argument)).toList
  | 'u' => digits 10
  | 'o' => digits 8
  | 'x' => digits 16
  | 'X' => textBytes ((Nat.toDigits 16 (argumentNumber argument).toNat).map Char.toUpper)
  | 'c' => textBytes (argument.take 1)
  | 'b' => (unescaped true 0 argument).1
  | _ =>
    let bytes := textBytes argument
    match directive.places with
    | some places => bytes.take places
    | none => bytes

/-- Writes a format once, with the arguments that are left after it. -/
def formatOnce : (skip : Nat) → List Char → List (List Char) → List UInt8 × List (List Char)
  | _, [], arguments => ([], arguments)
  | skip + 1, _ :: rest, arguments => formatOnce skip rest arguments
  | 0, c :: rest, arguments =>
    if c = '\\' then
      let (bytes, length, _) := escape false rest
      let (more, arguments) := formatOnce length rest arguments
      (bytes ++ more, arguments)
    else if c = '%' then
      match rest with
      | '%' :: _ =>
        let (more, arguments) := formatOnce 1 rest arguments
        (37 :: more, arguments)
      | _ =>
        match directive? rest with
        | none => ([37], arguments)
        | some (directive, length) =>
          let bytes := directive.fill (directive.value (arguments.head?.getD []))
          let (more, arguments) := formatOnce length rest (arguments.drop 1)
          (bytes ++ more, arguments)
    else
      let (more, arguments) := formatOnce 0 rest arguments
      (charBytes c ++ more, arguments)

/-- Writes a format as often as there are arguments for it, at least once. -/
def formatted (format : List Char) : (fuel : Nat) → List (List Char) → List UInt8
  | 0, _ => []
  | fuel + 1, arguments =>
    let (bytes, rest) := formatOnce 0 format arguments
    if rest.isEmpty ∨ rest.length = arguments.length then bytes
    else bytes ++ formatted format fuel rest

def echoed (arguments : List String) : List UInt8 :=
  let (arguments, newline) := match arguments with
    | "-n" :: rest => (rest, false)
    | arguments => (arguments, true)
  let (bytes, stops) := unescaped true 0 (" ".intercalate arguments).toList
  if newline ∧ !stops then bytes ++ [10] else bytes

/-- Whether an argument is made of the letters that change how arguments are written. -/
def isEchoFlag (argument : String) : Bool :=
  match argument.toList with
  | '-' :: letters => !letters.isEmpty && letters.all (· ∈ ['n', 'e', 'E'])
  | _ => false

/-- What the program for it writes for arguments: escapes are read only if that is asked for. -/
def echoedPlain (arguments : List String) : List UInt8 :=
  let flags := (arguments.takeWhile isEchoFlag).flatMap String.toList
  let text := (" ".intercalate (arguments.dropWhile isEchoFlag)).toList
  let reads := (flags.filter (· ∈ ['e', 'E'])).getLast? = some 'e'
  let (bytes, stops) := if reads then unescaped true 0 text else (textBytes text, false)
  if 'n' ∈ flags ∨ stops then bytes else bytes ++ [10]

end SlidePress.Shell
