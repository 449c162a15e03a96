import SlidePress.Glob.Pattern
import SlidePress.Text.Lines

/-!
Small pattern languages of the utilities: sets of characters that are exchanged for others, and
the replacement of what an expression stands for in a line.
-/

namespace SlidePress.Shell

def spelledSet : (fuel : Nat) → List Char → List Char
  | 0, _ | _, [] => []
  | fuel + 1, first :: '-' :: last :: rest =>
    (List.range' first.toNat (last.toNat + 1 - first.toNat)).map Char.ofNat ++ spelledSet fuel rest
  | fuel + 1, c :: rest => c :: spelledSet fuel rest

def exchanged (old new : List Char) (c : Char) : Char :=
  match old.idxOf? c with
  | none => c
  | some place => (new[place]? <|> new.getLast?).getD c

/-- What an expression is made of: one character each, which may be repeated. -/
structure Atom where
  token : Glob.Token
  repeated : Bool

/-- An expression, which may be tied to the ends of a line. -/
structure Expression where
  fromStart : Bool
  atoms : List Atom
  toEnd : Bool

def readToken (c : Char) (rest : List Char) : Glob.Token × Nat :=
  if c = '.' then (.anyChar, 1)
  else if c = '\\' then
    match rest with
    | d :: _ => (.char d, 2)
    | [] => (.char c, 1)
  else if c = '[' then
    match rest with
    | '^' :: inside =>
      match Glob.class? ('!' :: inside) with
      | some (token, length) => (token, length + 1)
      | none => (.char c, 1)
    | _ =>
      match Glob.class? rest with
      | some (token, length) => (token, length + 1)
      | none => (.char c, 1)
  else (.char c, 1)

def readAtoms : (fuel : Nat) → List Char → List Atom × Bool
  | 0, _ | _, [] => ([], false)
  | _ + 1, ['$'] => ([], true)
  | fuel + 1, c :: rest =>
    let (token, length) := readToken c rest
    let rest := rest.drop (length - 1)
    match rest with
    | '*' :: rest =>
      let (atoms, toEnd) := readAtoms fuel rest
      (⟨token, true⟩ :: atoms, toEnd)
    | rest =>
      let (atoms, toEnd) := readAtoms fuel rest
      (⟨token, false⟩ :: atoms, toEnd)

def readExpression (text : List Char) : Expression :=
  let (fromStart, body) := match text with
    | '^' :: rest => (true, rest)
    | text => (false, text)
  let (atoms, toEnd) := readAtoms (body.length + 1) body
  ⟨fromStart, atoms, toEnd⟩

/-- The number of characters at the front that a repeated atom followed by more takes, as many as
possible. -/
def longestRun (accepts : Char → Bool) (after : List Char → Option Nat) : List Char → Option Nat
  | [] => after []
  | c :: text =>
    if accepts c then
      match longestRun accepts after text with
      | some length => some (length + 1)
      | none => after (c :: text)
    else after (c :: text)

def matchAtoms (toEnd : Bool) : List Atom → List Char → Option Nat
  | [], text => if toEnd ∧ !text.isEmpty then none else some 0
  | ⟨token, true⟩ :: atoms, text => longestRun token.accepts (matchAtoms toEnd atoms) text
  | ⟨_, false⟩ :: _, [] => none
  | ⟨token, false⟩ :: atoms, c :: text =>
    if token.accepts c then (matchAtoms toEnd atoms text).map (· + 1) else none

/-- What is written for a match; an ampersand stands for the match. -/
def replacement : List Char → (found : List Char) → List Char
  | '\\' :: c :: rest, found => c :: replacement rest found
  | '&' :: rest, found => found ++ replacement rest found
  | c :: rest, found => c :: replacement rest found
  | [], _ => []

/-- Replaces the first match in a line, or all of them. -/
def replaced (expression : Expression) (new : List Char) (all : Bool) :
    (fuel : Nat) → (start : Bool) → List Char → List Char
  | 0, _, line => line
  | fuel + 1, start, line =>
    let found := if expression.fromStart ∧ !start then none
      else matchAtoms expression.toEnd expression.atoms line
    match found, line with
    | some length, line =>
      let text := replacement new (line.take length)
      if !all then text ++ line.drop length
      else if length = 0 then
        match line with
        | [] => text
        | c :: rest => text ++ c :: replaced expression new all fuel false rest
      else text ++ replaced expression new all fuel false (line.drop length)
    | none, c :: rest => c :: replaced expression new all fuel false rest
    | none, [] => []

def splitMarks (mark : Char) : List Char → List (List Char)
  | [] => [[]]
  | '\\' :: c :: rest =>
    match splitMarks mark rest with
    | piece :: pieces => (if c = mark then c :: piece else '\\' :: c :: piece) :: pieces
    | [] => []
  | c :: rest =>
    match splitMarks mark rest with
    | piece :: pieces => if c = mark then [] :: piece :: pieces else (c :: piece) :: pieces
    | [] => []

def substitute? (order text : List Char) : Option (List Char) :=
  match order with
  | 's' :: mark :: rest =>
    match splitMarks mark rest with
    | [expression, new, flags] =>
      let expression := readExpression expression
      let change (line : List Char) :=
        replaced expression new ('g' ∈ flags) (line.length + 1) true line
      let lines := Text.pieces '\n' text
      some (match lines.getLast? with
        | some [] => (lines.dropLast.map change).flatMap (· ++ ['\n'])
        | _ => Text.joined '\n' (lines.map change))
    | _ => none
  | _ => none

end SlidePress.Shell
