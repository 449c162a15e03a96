/-!
Patterns for names. A question mark stands for one character, a star for any number of them,
brackets for one character out of some or, behind an exclamation mark, for one that is not among
them, and two stars that are a whole step of a path for any number of steps. A bracket begins a
class only if one closes it; the first character of a class is never its end.
-/

namespace SlidePress.Glob

/-- A member of a class of characters. -/
inductive Specifier where
  | single (member : Char)
  | range (first last : Char)
  deriving DecidableEq, Repr

/-- A piece of a pattern. -/
inductive Token where
  | char (own : Char)
  | anyChar
  | anyText
  | anySteps
  | within (members : List Specifier)
  | except (members : List Specifier)
  deriving DecidableEq, Repr

/-- What is wrong with a pattern. -/
inductive Trouble where
  /-- Three stars or more. -/
  | wildcards
  /-- Two stars that are not a whole step. -/
  | steps
  /-- An opening bracket without its end. -/
  | bracket
  deriving DecidableEq, Repr

/-- Something wrong with a pattern and where, counted in characters. -/
structure SyntaxError where
  position : Nat
  trouble : Trouble
  deriving DecidableEq, Repr

def Trouble.message : Trouble → String
  | .wildcards => "wildcards are either regular `*` or recursive `**`"
  | .steps => "recursive wildcards must form a single path component"
  | .bracket => "invalid range pattern"

def SyntaxError.message (error : SyntaxError) : String :=
  s!"Pattern syntax error near position {error.position}: {error.trouble.message}"

def specifiers : List Char → List Specifier
  | first :: '-' :: last :: rest => .range first last :: specifiers rest
  | member :: rest => .single member :: specifiers rest
  | [] => []

/-- The class behind an opening bracket and the number of characters that it takes. -/
def class? (text : List Char) : Option (Token × Nat) :=
  match text with
  | '!' :: first :: rest =>
    if rest.contains ']' then
      let members := first :: rest.takeWhile (· ≠ ']')
      some (.except (specifiers members), members.length + 2)
    else none
  | '!' :: _ => none
  | first :: rest =>
    if rest.contains ']' then
      let members := first :: rest.takeWhile (· ≠ ']')
      some (.within (specifiers members), members.length + 1)
    else none
  | [] => none

/-- Puts a token for any number of steps in front, of which two in a row are one. -/
def withSteps : List Token → List Token
  | .anySteps :: tokens => .anySteps :: tokens
  | tokens => .anySteps :: tokens

/-- Reads a pattern. The first `skip` characters belong to what has been read already; `before` is
the last character in front, and `position` counts the characters in front. Two stars swallow the
slash behind them. -/
def parseFrom : (skip : Nat) → (before : Option Char) → (position : Nat) → List Char →
    Except SyntaxError (List Token)
  | _, _, _, [] => .ok []
  | skip + 1, _, position, c :: rest => parseFrom skip (some c) (position + 1) rest
  | 0, before, position, c :: rest =>
    if c = '?' then
      (parseFrom 0 (some c) (position + 1) rest).map (.anyChar :: ·)
    else if c = '*' then
      let stars := 1 + (rest.takeWhile (· = '*')).length
      if stars = 1 then (parseFrom 0 (some c) (position + 1) rest).map (.anyText :: ·)
      else if 2 < stars then .error ⟨position + 2, .wildcards⟩
      else if before = none ∨ before = some '/' then
        match rest.drop 1 with
        | [] => .ok [.anySteps]
        | '/' :: _ => (parseFrom 2 (some c) (position + 1) rest).map withSteps
        | _ => .error ⟨position + 2, .steps⟩
      else .error ⟨position - 1, .steps⟩
    else if c = '[' then
      match class? rest with
      | some (token, length) =>
        (parseFrom length (some c) (position + 1) rest).map (token :: ·)
      | none => .error ⟨position, .bracket⟩
    else (parseFrom 0 (some c) (position + 1) rest).map (.char c :: ·)

def parse (pattern : List Char) : Except SyntaxError (List Token) :=
  parseFrom 0 none 0 pattern

/-- A pattern for nothing but the given text. -/
def escape (text : List Char) : List Char :=
  text.flatMap fun c => if c ∈ ['?', '*', '[', ']'] then ['[', c, ']'] else [c]

def isMember (members : List Specifier) (c : Char) : Bool :=
  members.any fun
    | .single member => member == c
    | .range first last => first ≤ c && c ≤ last

def Token.accepts (token : Token) (c : Char) : Bool :=
  match token with
  | .char own => own == c
  | .anyChar => true
  | .within members => isMember members c
  | .except members => !isMember members c
  | .anyText | .anySteps => false

/-- Up to which places of a text a token can come, given those at which it can begin. Place `i` is
the one behind the first `i` characters. -/
def Token.advance (token : Token) (text : List Char) (starts : List Bool) : List Bool :=
  match token with
  | .anyText | .anySteps => (starts.drop 1).scanl (· || ·) (starts.head?.getD false)
  | token => false :: List.zipWith (fun start c => start && token.accepts c) starts text

/-- The places of a text up to which tokens can come from its beginning. -/
def reached (tokens : List Token) (text : List Char) : List Bool :=
  tokens.foldl (fun starts token => token.advance text starts) (true :: text.map fun _ => false)

def matchesText (tokens : List Token) (text : List Char) : Bool :=
  (reached tokens text).getLast?.getD false

/-- The text that the tokens spell when none of them is a wildcard. -/
def literal? : List Token → Option (List Char)
  | [] => some []
  | .char c :: tokens => (literal? tokens).map (c :: ·)
  | _ :: _ => none

end SlidePress.Glob
