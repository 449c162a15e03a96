import SlidePress.Text.Utf8
import SlidePress.Xml.Scan

/-!
References in texts and values: to characters by their numbers or names, and to texts that the
document has declared. A declared text may hold references again; how deep and how many is limited,
so that no document grows beyond all bounds.
-/

namespace SlidePress.Xml

/-- The texts that a document declares, by their names. The first text of a name counts. -/
abbrev Entities := List (List Char × List Char)

def hexDigit? (c : Char) : Option Nat :=
  if '0' ≤ c ∧ c ≤ '9' then some (c.toNat - '0'.toNat)
  else if 'a' ≤ c ∧ c ≤ 'f' then some (c.toNat - 'a'.toNat + 10)
  else if 'A' ≤ c ∧ c ≤ 'F' then some (c.toNat - 'A'.toNat + 10)
  else none

def numberOf? (base : Nat) (digits : List Char) : Option Nat :=
  if digits.isEmpty then none
  else digits.foldl (fun sum c => sum.bind fun n =>
    match hexDigit? c with
    | some d => if d < base then some (n * base + d) else none
    | none => none) (some 0)

/-- The character with a number, if a document may have it. A number of 32 bits that no character
has stands for the replacement character. -/
def charOf? (number : Nat) : Option Char :=
  if number.isValidChar then (some (Char.ofNat number)).filter isAllowed
  else if number < Nat.pow 2 32 then some Text.replacement
  else none

def namedChars : List (List Char × Char) := [
  (['q', 'u', 'o', 't'], '"'), (['a', 'm', 'p'], '&'), (['a', 'p', 'o', 's'], '\''),
  (['l', 't'], '<'), (['g', 't'], '>')]

/-- A part of a text with references. -/
inductive Piece where
  /-- Characters without references. -/
  | plain (run : List Char)
  /-- A character that has been referred to. -/
  | char (c : Char)
  /-- A declared text that has been referred to. -/
  | declared (content : List Char)
  deriving DecidableEq, Repr

/-- What a reference refers to. Its sign and its semicolon have been taken off. -/
def Piece.ofReference? (entities : Entities) (name : List Char) : Option Piece :=
  match name with
  | '#' :: 'x' :: digits => ((numberOf? 16 digits).bind charOf?).map .char
  | '#' :: digits => ((numberOf? 10 digits).bind charOf?).map .char
  | _ =>
    match namedChars.lookup name with
    | some c => some (.char c)
    | none => (entities.lookup name).map .declared

/-- Whether a text begins with a reference from its sign to its semicolon; if so what is between
them, and the rest. -/
def readReference (text : List Char) : Option (List Char × List Char) :=
  match text with
  | '#' :: _ =>
    let name := text.takeWhile (· ≠ ';')
    match text.dropWhile (· ≠ ';') with
    | ';' :: rest => some (name, rest)
    | _ => none
  | _ =>
    match readName text with
    | some (name, ';' :: rest) => some (name, rest)
    | _ => none

def readPieces (entities : Entities) : (fuel : Nat) → List Char → Option (List Piece)
  | _, [] => some []
  | 0, _ :: _ => none
  | fuel + 1, c :: text =>
    if c = '&' then do
      let (name, rest) ← readReference text
      let piece ← Piece.ofReference? entities name
      return piece :: (← readPieces entities fuel rest)
    else do
      let written := c :: text
      let rest ← readPieces entities fuel (written.dropWhile (· ≠ '&'))
      return .plain (written.takeWhile (· ≠ '&')) :: rest

def pieces? (entities : Entities) (text : List Char) : Option (List Piece) :=
  readPieces entities (text.length + 1) text

/-- How deep declared texts may lie in each other. -/
def entityRoom : Nat := 10

/-- How many references a declared text may lead to. -/
def mostReferences : Nat := 255

/-- Reads a declared text with `read`, which is told how many references inside of declared texts
there have been. With `room` of all the room the text itself is not inside of one, and the count
begins. -/
def readDeclared {α : Type} (room : Nat) (read : (used : Nat) → List Char → Option α)
    (used : Nat) (content : List Char) : Option α :=
  if room = entityRoom then read 0 content
  else if used < mostReferences then read (used + 1) content
  else none

/-- A run of characters of a value: line ends and tabulators are blanks. -/
def blanks (run : List Char) : List Char :=
  (run.zip (run.drop 1 ++ [' '])).filterMap fun (c, next) =>
    if c = '\r' ∧ next = '\n' then none else if isSpace c then some ' ' else some c

/-- What a character of a value stands for if it has been referred to: itself in the value, but a
character like others in a declared text, where it cannot open a tag. -/
def referredChar (room : Nat) (c : Char) : Option (List Char) :=
  if room = entityRoom then some [c] else if c = '<' then none else some (blanks [c])

/-- The value that its pieces stand for, with the count of references. Declared texts are read
with `read`. -/
def valueOfPieces (room : Nat) (read : (used : Nat) → List Char → Option (List Char × Nat)) :
    (used : Nat) → List Piece → Option (List Char × Nat)
  | used, [] => some ([], used)
  | used, piece :: pieces => do
    let (front, used) ← match piece with
      | .plain run => some (blanks run, used)
      | .char c => (referredChar room c).map (·, used)
      | .declared content => readDeclared room read used content
    let (value, used) ← valueOfPieces room read used pieces
    return (front ++ value, used)

/-- The value that a written value stands for, with the count of references. Declared texts may
lie `room` deep in it. -/
def readValue (entities : Entities) : (room used : Nat) → List Char → Option (List Char × Nat)
  | 0, used, written =>
    (pieces? entities written).bind (valueOfPieces 0 (fun _ _ => none) used)
  | room + 1, used, written =>
    (pieces? entities written).bind (valueOfPieces (room + 1) (readValue entities room) used)

end SlidePress.Xml
