import SlidePress.Text.Blank
import SlidePress.Text.Search

/-!
Declarations of a style: a name, a value, and whether the value is important. A value is kept as
it is written, from its first term to its last one.
-/

namespace SlidePress.Css

def isSpace (c : Char) : Bool :=
  c == ' ' || c == '\t' || c == '\n' || c == '\r' || c == '\x0c'

def lastForeign : Nat := 237

def isIdentStart (c : Char) : Bool :=
  c.isAlpha || c == '_' || lastForeign < c.toNat

def isIdentChar (c : Char) : Bool :=
  isIdentStart c || c.isDigit || c == '-'

/-- What has been read of a text: whether it was what was wanted, the characters, and the rest. -/
structure Span where
  isSound : Bool
  front : List Char
  rest : List Char

/-- Reads a name. It may begin with a hyphen, which is passed even if no name follows. -/
def spanIdent (text : List Char) : Span :=
  let (dash, body) := match text with
    | '-' :: rest => (['-'], rest)
    | _ => ([], text)
  match body with
  | [] => ⟨!dash.isEmpty, dash, []⟩
  | c :: _ =>
    if isIdentStart c then ⟨true, dash ++ body.takeWhile isIdentChar, body.dropWhile isIdentChar⟩
    else ⟨false, dash, body⟩

/-- Splits a text at the first occurrence of a character that does not follow a backslash. The
character in front is `last`, and what has been passed has its last character first. -/
def splitAtQuote (quote : Char) : (last : Char) → (front : List Char) → List Char →
    List Char × List Char
  | _, front, [] => (front.reverse, [])
  | last, front, c :: text =>
    if c = quote ∧ last ≠ '\\' then (front.reverse, c :: text)
    else splitAtQuote quote c (c :: front) text

/-- Reads the inside of a text in quotes, behind the first of them. -/
def spanQuoted (quote : Char) (text : List Char) : Span :=
  match splitAtQuote quote quote [] text with
  | (front, _ :: rest) => ⟨true, front, rest⟩
  | (front, []) => ⟨false, front, []⟩

def splitComment : (front : List Char) → List Char → Option (List Char × List Char)
  | _, [] => none
  | front, c :: text =>
    match c, text with
    | '*', '/' :: rest => some (('/' :: '*' :: front).reverse, rest)
    | _, _ => splitComment (c :: front) text

/-- Splits a text behind the white space and the comments in front. No comment can be open at the
end. -/
def splitGapFrom : (fuel : Nat) → List Char → Option (List Char × List Char)
  | 0, text => some ([], text)
  | fuel + 1, text =>
    let spaces := text.takeWhile isSpace
    match text.dropWhile isSpace with
    | '/' :: '*' :: rest => do
      let (comment, rest) ← splitComment ['*', '/'] rest
      let (more, rest) ← splitGapFrom fuel rest
      return (spaces ++ comment ++ more, rest)
    | rest => some (spaces, rest)

/-- Splits a text behind the white space and the comments in front. -/
def splitGap (text : List Char) : Option (List Char × List Char) :=
  splitGapFrom (text.length + 1) text

/-- What follows the white space and the comments in front of a text. -/
def afterGap? (text : List Char) : Option (List Char) :=
  (splitGap text).map (·.2)

/-- Reads a number with its unit, behind its first character. -/
def spanNumber (text : List Char) : Span :=
  let whole := text.takeWhile Char.isDigit
  let (part, rest) := match text.dropWhile Char.isDigit with
    | '.' :: rest => ('.' :: rest.takeWhile Char.isDigit, rest.dropWhile Char.isDigit)
    | rest => ([], rest)
  match rest with
  | '%' :: rest => ⟨true, whole ++ part ++ ['%'], rest⟩
  | _ =>
    let unit := spanIdent rest
    ⟨true, whole ++ part ++ unit.front, unit.rest⟩

def spanTerm (text : List Char) : Span :=
  match text with
  | [] => ⟨false, [], []⟩
  | c :: rest =>
    if c = '#' then
      let name := spanIdent rest
      if name.isSound then ⟨true, c :: name.front, name.rest⟩
      else
        let isHex (c : Char) : Bool := c.isDigit || ('a' ≤ c.toLower && c.toLower ≤ 'f')
        ⟨true, c :: name.front ++ name.rest.takeWhile isHex, name.rest.dropWhile isHex⟩
    else if c = '+' ∨ c = '-' ∨ c = '.' ∨ c.isDigit then
      let number := spanNumber rest
      ⟨true, c :: number.front, number.rest⟩
    else if c = '"' ∨ c = '\'' then
      let inside := spanQuoted c rest
      ⟨inside.isSound, c :: inside.front ++ [c], inside.rest⟩
    else if c = ',' then ⟨true, [c], rest⟩
    else
      let name := spanIdent text
      match name.isSound, name.rest with
      | true, '(' :: rest =>
        match rest.dropWhile (· ≠ ')') with
        | _ :: after => ⟨true, name.front ++ '(' :: rest.takeWhile (· ≠ ')') ++ [')'], after⟩
        | [] => ⟨false, name.front, []⟩
      | _, _ => name

/-- Reads the terms of a value. What stands between two terms belongs to it, what stands behind
the last one does not. -/
def spanValue : (fuel : Nat) → (gap : List Char) → List Char → Option (List Char × List Char)
  | 0, _, text => some ([], text)
  | fuel + 1, gap, text =>
    let term := spanTerm text
    if term.isSound then do
      let (next, rest) ← splitGap term.rest
      let (more, rest) ← spanValue fuel next rest
      return (gap ++ term.front ++ more, rest)
    else some ([], term.rest)

structure Declaration where
  name : List Char
  value : List Char
  important : Bool
  deriving DecidableEq, Repr

def readImportance (text : List Char) : Option (Bool × List Char) :=
  match text with
  | '!' :: rest => do
    let rest ← afterGap? rest
    match Text.after? "important".toList rest with
    | some rest => return (true, rest)
    | none => return (false, rest)
  | _ => some (false, text)

def skipSemicolons : (fuel : Nat) → List Char → Option (List Char)
  | fuel + 1, ';' :: rest => (afterGap? rest).bind (skipSemicolons fuel)
  | _, text => some text

/-- What could be read, or what stands behind the place where there was a mistake. -/
abbrev Read (α : Type) := Except (List Char) α

/-- What could be read; a mistake without a place is at the end of the text. -/
def Read.ofOption (found? : Option α) : Read α :=
  match found? with
  | some found => .ok found
  | none => .error []

/-- Reads a declaration. It needs a value. A star in front of the name is passed over. -/
def readDeclaration (text : List Char) : Read (Declaration × List Char) := do
  let text ← Read.ofOption (afterGap? text)
  let name := spanIdent (match text with | '*' :: rest => rest | _ => text)
  if !name.isSound then throw name.rest
  match ← Read.ofOption (afterGap? name.rest) with
  | ':' :: rest =>
    let rest ← Read.ofOption (afterGap? rest)
    let (value, rest) ← Read.ofOption (spanValue (rest.length + 1) [] rest)
    let rest ← Read.ofOption (afterGap? rest)
    let (important, rest) ← Read.ofOption (readImportance rest)
    let rest ← Read.ofOption (afterGap? rest)
    let rest ← Read.ofOption (skipSemicolons (rest.length + 1) rest)
    let value := Text.trim value
    if value.isEmpty then throw rest else return (⟨name.front, value, important⟩, rest)
  | rest => throw rest

/-- Passes over the rest of so many blocks in braces that lie in each other, and over all blocks in
it. -/
def skipBlock : (depth : Nat) → List Char → List Char
  | _, [] => []
  | depth, c :: text =>
    if c = '\x7b' then skipBlock (depth + 1) text
    else if c = '\x7d' then if depth ≤ 1 then text else skipBlock (depth - 1) text
    else skipBlock depth text

/-- Reads declarations up to the end of a block. A mistake ends them, and what is left of the block
is passed over with its end. -/
def readDeclarations : (fuel : Nat) → List Char → List Declaration × List Char
  | 0, text => ([], text)
  | fuel + 1, text =>
    match text with
    | [] | '}' :: _ => ([], text)
    | _ =>
      match readDeclaration text with
      | .error rest => ([], skipBlock 1 rest)
      | .ok (declaration, rest) =>
        let (declarations, rest) := readDeclarations fuel rest
        (declaration :: declarations, rest)

def declarations : (fuel : Nat) → List Char → List Declaration
  | 0, _ => []
  | fuel + 1, text =>
    match readDeclaration text with
    | .ok (declaration, rest) => declaration :: declarations fuel rest
    | .error _ => []

/-- The declarations of a style that stands alone, up to the first one that is none. -/
def declarationsOf (text : List Char) : List Declaration :=
  declarations (text.length + 1) text

end SlidePress.Css
