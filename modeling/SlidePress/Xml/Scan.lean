import SlidePress.Text.Search
import SlidePress.Xml.Character

/-!
Reading what marks are written with: white space, names, texts in quotes, and what stands up to a
marker. A reader gives what it has read and the rest of the text, and nothing if the text does not
begin as it should.
-/

namespace SlidePress.Xml

/-- A name with what stands in front of its colon, which is empty if it has none. -/
structure Name where
  lead : List Char
  own : List Char
  deriving DecidableEq, Repr

/-- What follows the white space in front, of which there has to be some. -/
def afterSpaces? (text : List Char) : Option (List Char) :=
  match text with
  | c :: rest => if isSpace c then some (rest.dropWhile isSpace) else none
  | [] => none

/-- What follows an equals sign and the white space around it. -/
def afterEquals? (text : List Char) : Option (List Char) :=
  match text.dropWhile isSpace with
  | '=' :: rest => some (rest.dropWhile isSpace)
  | _ => none

/-- Splits a text behind the first occurrence of a marker; `front` is what has been passed, the
last character first. -/
def splitBehindFrom (marker : List Char) : (front : List Char) → List Char →
    Option (List Char × List Char)
  | front, [] => (Text.after? marker []).map (front.reverse, ·)
  | front, c :: text =>
    match Text.after? marker (c :: text) with
    | some rest => some (front.reverse, rest)
    | none => splitBehindFrom marker (c :: front) text

/-- Splits a text behind the first occurrence of a marker. In front of it there are only
characters that a document may have. -/
def readUpTo (marker text : List Char) : Option (List Char × List Char) :=
  (splitBehindFrom marker [] text).filter fun (front, _) => front.all isAllowed

def readName (text : List Char) : Option (List Char × List Char) :=
  if text.head?.any isNameStart then
    some (text.takeWhile isNameChar, text.dropWhile isNameChar)
  else none

/-- Reads a name with at most one colon. What stands in front of the colon may be empty, what
stands behind it may not. -/
def readSplitName (text : List Char) : Option (Name × List Char) :=
  let written := text.takeWhile isNameChar
  let name : Name :=
    if ':' ∈ written then ⟨written.takeWhile (· ≠ ':'), (written.dropWhile (· ≠ ':')).drop 1⟩
    else ⟨[], written⟩
  if name.lead.head?.all isNameStart && name.own.head?.any isNameStart && !name.own.contains ':' then
    some (name, text.dropWhile isNameChar)
  else none

def readQuoted (text : List Char) : Option (List Char × List Char) :=
  match text with
  | quote :: rest =>
    if quote = '"' ∨ quote = '\'' then
      match rest.dropWhile (· ≠ quote) with
      | [] => none
      | _ :: after => some (rest.takeWhile (· ≠ quote), after)
    else none
  | [] => none

/-- Reads the written value of an attribute, in which no tag can begin. -/
def readWrittenValue (text : List Char) : Option (List Char × List Char) :=
  (readQuoted text).filter fun (written, _) => written.all isAllowed && !written.contains '<'

def readAssignment (text : List Char) : Option ((Name × List Char) × List Char) := do
  let (name, rest) ← readSplitName text
  let (written, rest) ← readWrittenValue (← afterEquals? rest)
  return ((name, written), rest)

end SlidePress.Xml
