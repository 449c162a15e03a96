/-!
Scripts for the command interpreter of the host, as far as programs of this kind are written: the
tools that a conversion or an installation meets are short scripts. They are read as lexemes first:
words with their pieces, and the signs between them.
-/

namespace SlidePress.Shell

/-- A piece of a word. What is quoted is neither taken apart at blanks nor a wildcard. -/
inductive Piece where
  | text (text : List Char) (quoted : Bool)
  /-- The value of a variable or of a parameter. -/
  | value (name : List Char) (quoted : Bool)
  /-- What a script writes; it is read when the word is needed. -/
  | output (script : List Char) (quoted : Bool)
  deriving DecidableEq, Repr

abbrev Word := List Piece

/-- Where a command reads from or writes to. Output one is the standard output and output two that
for errors. -/
inductive Redirection where
  | input (file : Word)
  | output (number : Nat) (file : Word) (append : Bool)
  /-- An output becomes the same as another one. -/
  | copy (number source : Nat)
  /-- What is written to an output is lost. -/
  | closed (number : Nat)
  deriving DecidableEq, Repr

inductive Script where
  | nothing
  | simple (assignments : List (List Char × Word)) (words : List Word)
      (redirections : List Redirection)
  | pipe (first second : Script)
  | sequence (first second : Script)
  /-- A script that is not waited for, and what follows it. -/
  | aside (script rest : Script)
  | both (first second : Script)
  | either (first second : Script)
  | negated (script : Script)
  /-- A script that shares nothing but the files with what follows it. -/
  | apart (script : Script)
  | redirected (script : Script) (redirections : List Redirection)
  | choice (condition yes no : Script)
  /-- Repeats the body as long as the condition succeeds, or fails when `wanted` is false. -/
  | loop (wanted : Bool) (condition body : Script)
  | each (name : List Char) (words : List Word) (body : Script)
  | cases (subject : Word) (branches : List (List Word × Script))

inductive Lexeme where
  | word (word : Word)
  /-- A sign, a line feed being one too. -/
  | sign (sign : List Char)
  /-- A redirection sign with the number in front of it, if there is one. -/
  | arrow (number : Option Nat) (sign : List Char)
  deriving DecidableEq, Repr

def isNameChar (c : Char) : Bool :=
  c.isAlphanum || c == '_'

def specialNames : List Char := ['@', '*', '#', '?', '$', '!']

def endsWord (c : Char) : Bool :=
  c ∈ [' ', '\t', '\n', ';', '&', '|', '(', ')', '<', '>']

/-- Splits a text at the bracket that closes `depth` open ones; brackets in quotes do not count.
The first argument is the quote that is open. -/
def splitClosing : (quote : Option Char) → (depth : Nat) → List Char →
    Option (List Char × List Char)
  | _, _, [] => none
  | some q, depth, c :: rest =>
    (splitClosing (if c = q then none else some q) depth rest).map fun (inside, after) =>
      (c :: inside, after)
  | none, depth, c :: rest =>
    let go (quote : Option Char) (depth : Nat) :=
      (splitClosing quote depth rest).map fun (inside, after) => (c :: inside, after)
    if c = '\'' ∨ c = '"' then go (some c) depth
    else if c = '(' then go none (depth + 1)
    else if c = ')' then
      match depth with
      | 0 => some ([], rest)
      | depth + 1 => go none depth
    else go none depth

def dollar (quoted : Bool) (text : List Char) : Option (Piece × List Char) :=
  match text with
  | '(' :: rest =>
    (splitClosing none 0 rest).map fun (script, after) => (.output script quoted, after)
  | '\x7b' :: rest =>
    match rest.dropWhile (· ≠ '\x7d') with
    | _ :: after => some (.value (rest.takeWhile (· ≠ '\x7d')) quoted, after)
    | [] => none
  | c :: rest =>
    if c.isDigit ∨ c ∈ specialNames then some (.value [c] quoted, rest)
    else if isNameChar c then
      some (.value (text.takeWhile isNameChar) quoted, text.dropWhile isNameChar)
    else some (.text ['$'] quoted, text)
  | [] => some (.text ['$'] quoted, [])

def doubleQuoted : (fuel : Nat) → List Char → Option (Word × List Char)
  | 0, _ | _ + 1, [] => none
  | _ + 1, '"' :: rest => some ([], rest)
  | fuel + 1, '\\' :: c :: rest =>
    let plain := if c = '\n' then []
      else if c ∈ ['$', '"', '\\', '\x60'] then [c] else ['\\', c]
    (doubleQuoted fuel rest).map fun (word, after) => (.text plain true :: word, after)
  | fuel + 1, '$' :: rest =>
    match dollar true rest with
    | none => none
    | some (piece, rest) =>
      (doubleQuoted fuel rest).map fun (word, after) => (piece :: word, after)
  | fuel + 1, c :: rest =>
    (doubleQuoted fuel rest).map fun (word, after) => (.text [c] true :: word, after)

def readWord : (fuel : Nat) → List Char → Option (Word × List Char)
  | 0, _ => none
  | _ + 1, [] => some ([], [])
  | fuel + 1, c :: rest =>
    if endsWord c then some ([], c :: rest)
    else if c = '\\' then
      match rest with
      | '\n' :: rest => readWord fuel rest
      | d :: rest => (readWord fuel rest).map fun (word, after) => (.text [d] true :: word, after)
      | [] => some ([.text ['\\'] true], [])
    else if c = '\'' then
      match rest.dropWhile (· ≠ '\'') with
      | [] => none
      | _ :: after =>
        (readWord fuel after).map fun (word, after) =>
          (.text (rest.takeWhile (· ≠ '\'')) true :: word, after)
    else if c = '"' then
      match doubleQuoted fuel rest with
      | none => none
      | some (inside, rest) =>
        (readWord fuel rest).map fun (word, after) => (.text [] true :: inside ++ word, after)
    else if c = '$' then
      match dollar false rest with
      | none => none
      | some (piece, rest) => (readWord fuel rest).map fun (word, after) => (piece :: word, after)
    else (readWord fuel rest).map fun (word, after) => (.text [c] false :: word, after)

/-- Puts neighbouring texts of one kind together. -/
def merged : Word → Word
  | .text a q :: .text b r :: word =>
    match merged (.text b r :: word) with
    | .text c s :: rest => if q = s then .text (a ++ c) s :: rest else .text a q :: .text c s :: rest
    | word => .text a q :: word
  | piece :: word => piece :: merged word
  | [] => []

/-- The signs of two characters; every other sign has one. -/
def longSigns : List (List Char) := [['&', '&'], ['|', '|'], [';', ';']]
def longArrows : List (List Char) := [['>', '>'], ['>', '&'], ['<', '&']]

def frontSign (long : List (List Char)) (c : Char) (rest : List Char) : List Char × List Char :=
  match rest with
  | d :: after => if [c, d] ∈ long then ([c, d], after) else ([c], rest)
  | [] => ([c], [])

def arrowNumber? (text : List Char) : Option (Nat × List Char) :=
  match text with
  | d :: a :: rest =>
    if d.isDigit ∧ (a = '>' ∨ a = '<') then some (d.toNat - '0'.toNat, a :: rest) else none
  | _ => none

def lexemes? : (fuel : Nat) → List Char → Option (List Lexeme)
  | 0, _ => none
  | _ + 1, [] => some []
  | fuel + 1, c :: rest =>
    if c = ' ' ∨ c = '\t' then lexemes? fuel rest
    else if c = '#' then lexemes? fuel (rest.dropWhile (· ≠ '\n'))
    else if c = '>' ∨ c = '<' then
      let (sign, after) := frontSign longArrows c rest
      (lexemes? fuel after).map (.arrow none sign :: ·)
    else if endsWord c then
      let (sign, after) := frontSign longSigns c rest
      (lexemes? fuel after).map (.sign sign :: ·)
    else
      match arrowNumber? (c :: rest) with
      | some (number, a :: rest) =>
        let (sign, after) := frontSign longArrows a rest
        (lexemes? fuel after).map (.arrow (some number) sign :: ·)
      | _ =>
        match readWord fuel (c :: rest) with
        | none => none
        | some (word, after) => (lexemes? fuel after).map (.word (merged word) :: ·)

end SlidePress.Shell
