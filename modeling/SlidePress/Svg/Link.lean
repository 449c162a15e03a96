import SlidePress.Xml.Entity

/-!
Links that hold a file themselves: what kind of file it is, and its bytes, each written as itself, by
its number, or in groups of six bits.
-/

namespace SlidePress.Svg

/-- A file that a link holds. -/
structure HeldFile where
  /-- The kind of the file in small letters. -/
  type : List Char
  bytes : List UInt8

/-- White space that has no place in a link and is passed over. -/
def isBreak (c : Char) : Bool :=
  c == '\t' || c == '\n' || c == '\r'

/-- What follows the scheme of links that hold files. Its letters may be capital ones, and breaks may
stand between them. -/
def afterScheme? : (scheme : List Char) → List Char → Option (List Char)
  | [], text => some text
  | _ :: _, [] => none
  | mark :: scheme, c :: text =>
    if isBreak c then afterScheme? (mark :: scheme) text
    else if c.toLower = mark then afterScheme? scheme text
    else none

/-- The bytes of text in which bytes may be given by their numbers, behind those that are `done` and
those that are `held` since the last number, the last ones first. A percent sign without a number
stands for itself and says what is held once more. A mark for something behind the file ends it. -/
def plainBytesFrom (done held : List UInt8) : List Char → List UInt8
  | [] => (held ++ done).reverse
  | '#' :: _ => (held ++ done).reverse
  | '%' :: high :: low :: after =>
    match Xml.hexDigit? high, Xml.hexDigit? low with
    | some h, some l => plainBytesFrom ((16 * h + l).toUInt8 :: (held ++ done)) [] after
    | _, _ => plainBytesFrom (held ++ done) (0x25 :: held) (high :: low :: after)
  | '%' :: rest => plainBytesFrom (held ++ done) (0x25 :: held) rest
  | c :: rest =>
    if isBreak c then plainBytesFrom (held ++ done) [] rest
    else plainBytesFrom done ((String.singleton c).toUTF8.toList.reverse ++ held) rest

def plainBytes (text : List Char) : List UInt8 :=
  plainBytesFrom [] [] text

def sixBits? (byte : UInt8) : Option Nat :=
  let c := Char.ofNat byte.toNat
  if c.isUpper then some (c.toNat - 'A'.toNat)
  else if c.isLower then some (c.toNat - 'a'.toNat + 26)
  else if c.isDigit then some (c.toNat - '0'.toNat + 52)
  else if c = '+' then some 62
  else if c = '/' then some 63
  else none

/-- The bytes in groups of six bits; the last group may be cut short. -/
def joinedBytes : List Nat → Option (List UInt8)
  | a :: b :: c :: d :: rest =>
    let n := ((a * 64 + b) * 64 + c) * 64 + d
    (joinedBytes rest).map ([(n / 65536).toUInt8, (n / 256).toUInt8, n.toUInt8] ++ ·)
  | [a, b, c] =>
    let n := (a * 64 + b) * 64 + c
    some [(n / 1024).toUInt8, (n / 4).toUInt8]
  | [a, b] => some [((a * 64 + b) / 16).toUInt8]
  | [_] => none
  | [] => some []

def filler : UInt8 := 0x3D

/-- White space between groups of six bits. -/
def isGap (byte : UInt8) : Bool :=
  byte = 0x20 || (0x09 ≤ byte && byte ≤ 0x0D && byte ≠ 0x0B)

/-- The bytes of text in groups of six bits, with or without what fills the last one. -/
def groupedBytes? (text : List UInt8) : Option (List UInt8) := do
  let text := text.filter (!isGap ·)
  let groups := text.takeWhile (· ≠ filler)
  let fillers := text.dropWhile (· ≠ filler)
  guard (fillers.all (· = filler))
  guard (fillers.isEmpty ∨ groups.length % 4 ≠ 0 ∧ groups.length % 4 + fillers.length = 4)
  joinedBytes (← groups.mapM sixBits?)

/-- The word that says that bytes are written in groups, behind a semicolon. -/
def groupedWord : List Char := "base64".toList

/-- The characters besides letters and digits that names of kinds have. Those beyond ASCII are given by
their numbers. -/
def kindMarks : List Char := "!#$%&'*+-.^_`|~".toList

def isKindName (name : List Char) : Bool :=
  !name.isEmpty && name.all fun c => c.isAlphanum || kindMarks.contains c || c < ' ' || '~' < c

def textKind : List Char := "text/plain".toList

/-- The kind of file that a text says; what says no kind is that of a text. -/
def readKind (text : List Char) : List Char :=
  let family := text.takeWhile (· ≠ '/')
  let member := ((text.drop (family.length + 1)).takeWhile (· ≠ ';')).reverse.dropWhile (· == ' ')
  if isKindName family && isKindName member then family ++ '/' :: member.reverse else textKind

/-- The kind of file in front of the comma, and whether its bytes are written in groups. -/
def readType (text : List Char) : List Char × Bool :=
  let text := (text.filter (!isBreak ·)).map Char.toLower
  let text := ((text.dropWhile (· == ' ')).reverse.dropWhile (· == ' ')).reverse
  let front := ((text.take (text.length - groupedWord.length)).reverse.dropWhile (· == ' ')).reverse
  let isGrouped := text.drop (text.length - groupedWord.length) == groupedWord &&
    front.getLast? == some ';'
  (readKind (if isGrouped then front.dropLast else text), isGrouped)

/-- Reads a link that holds a file; the file is missing if it is not written as it should be. -/
def readHeldFile? (link : List Char) : Option (Option HeldFile) := do
  let isSpare (c : Char) : Bool := c ≤ ' '
  let text ← afterScheme? "data:".toList (link.dropWhile isSpare)
  let text := (text.reverse.dropWhile isSpare).reverse
  let front := text.takeWhile fun c => c ≠ ',' && c ≠ '#'
  let ',' :: body := text.drop front.length | none
  let (type, isGrouped) := readType front
  let bytes := plainBytes body
  return (if isGrouped then groupedBytes? bytes else some bytes).map (⟨type, ·⟩)

end SlidePress.Svg
