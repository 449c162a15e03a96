import SlidePress.Shell.Script

/-!
Reading scripts: from lexemes to the commands and the way in which they are put together. A word
is reserved only where a command can begin.
-/

namespace SlidePress.Shell

namespace Script

/-- The reserved word that the lexemes begin with, if they begin with an unquoted word. -/
def reserved? : List Lexeme → Option String
  | .word [.text text false] :: _ => some (String.ofList text)
  | _ => none

def endsList (lexemes : List Lexeme) : Bool :=
  match lexemes with
  | [] => true
  | .sign sign :: _ => sign = [')'] ∨ sign = [';', ';']
  | _ =>
    match reserved? lexemes with
    | some word =>
      word ∈ ["then", "else", "elif", "fi", "do", "done", "esac", "\x7d"]
    | none => false

def expect (word : String) (lexemes : List Lexeme) : Option (List Lexeme) :=
  if reserved? lexemes = some word then some (lexemes.drop 1) else none

def isLineEnd : Lexeme → Bool
  | .sign sign => sign = ['\n']
  | _ => false

def skipLines (lexemes : List Lexeme) : List Lexeme :=
  lexemes.dropWhile isLineEnd

/-- Passes over the ends of commands and lines. -/
def skipSeparators (lexemes : List Lexeme) : List Lexeme :=
  lexemes.dropWhile fun lexeme => isLineEnd lexeme || lexeme == .sign [';']

def wordNumber? : Word → Option Nat
  | [.text text _] => (String.ofList text).toNat?
  | _ => none

def redirection? (number : Option Nat) (sign : List Char) (word : Word) : Option Redirection :=
  match sign with
  | ['<'] => some (.input word)
  | ['>'] => some (.output (number.getD 1) word false)
  | ['>', '>'] => some (.output (number.getD 1) word true)
  | ['>', '&'] =>
    if word = [.text ['-'] false] then some (.closed (number.getD 1))
    else (wordNumber? word).map (.copy (number.getD 1))
  | _ => none

def redirections : List Lexeme → Option (List Redirection × List Lexeme)
  | .arrow number sign :: .word word :: rest =>
    match redirection? number sign word with
    | none => none
    | some redirection => (redirections rest).map fun (more, rest) => (redirection :: more, rest)
  | .arrow .. :: _ => none
  | lexemes => some ([], lexemes)

def assignment? : Word → Option (List Char × Word)
  | .text text false :: word =>
    let name := text.takeWhile isNameChar
    match text.dropWhile isNameChar with
    | '=' :: value =>
      if name.isEmpty ∨ name.head?.any Char.isDigit then none
      else some (name, .text value true :: word)
    | _ => none
  | _ => none

/-- A simple command: assignments, then words, with redirections anywhere. -/
def simpleCommand : List Lexeme → (assignments : List (List Char × Word)) →
    (words : List Word) → (redirections : List Redirection) → Option (Script × List Lexeme)
  | .word word :: rest, assignments, words, redirections =>
    match assignment? word with
    | some assignment =>
      if words.isEmpty then simpleCommand rest (assignments ++ [assignment]) words redirections
      else simpleCommand rest assignments (words ++ [word]) redirections
    | none => simpleCommand rest assignments (words ++ [word]) redirections
  | .arrow number sign :: .word word :: rest, assignments, words, redirections =>
    match redirection? number sign word with
    | none => none
    | some redirection => simpleCommand rest assignments words (redirections ++ [redirection])
  | .arrow .. :: _, _, _, _ => none
  | rest, assignments, words, redirections =>
    if assignments.isEmpty ∧ words.isEmpty ∧ redirections.isEmpty then none
    else some (.simple assignments words redirections, rest)

def wordList : List Lexeme → List Word × List Lexeme
  | .word word :: rest =>
    let (words, rest) := wordList rest
    (word :: words, rest)
  | rest => ([], rest)

def patterns : List Lexeme → Option (List Word × List Lexeme)
  | .word word :: .sign [')'] :: rest => some ([word], rest)
  | .word word :: .sign ['|'] :: rest => (patterns rest).map fun (words, rest) => (word :: words, rest)
  | _ => none

def withRedirections (script : Script) (lexemes : List Lexeme) : Option (Script × List Lexeme) :=
  (redirections lexemes).map fun (list, rest) =>
    (if list.isEmpty then script else .redirected script list, rest)

mutual

/-- Commands one after another, up to what ends their list. -/
def readList : (fuel : Nat) → List Lexeme → Option (Script × List Lexeme)
  | 0, _ => none
  | fuel + 1, lexemes =>
    let lexemes := skipSeparators lexemes
    if endsList lexemes then some (.nothing, lexemes)
    else
      match readChain fuel lexemes with
      | none => none
      | some (first, rest) =>
        match rest with
        | [] => some (first, [])
        | .sign sign :: _ =>
          if sign = ['\n'] ∨ sign = [';'] then
            (readList fuel rest).map fun (second, rest) => (.sequence first second, rest)
          else if sign = ['&'] then
            (readList fuel (rest.drop 1)).map fun (second, rest) => (.aside first second, rest)
          else if endsList rest then some (first, rest)
          else none
        | _ => if endsList rest then some (first, rest) else none

def readChain : (fuel : Nat) → List Lexeme → Option (Script × List Lexeme)
  | 0, _ => none
  | fuel + 1, lexemes =>
    match readPipeline fuel lexemes with
    | none => none
    | some (first, rest) => readLinks fuel first rest

def readLinks : (fuel : Nat) → Script → List Lexeme → Option (Script × List Lexeme)
  | 0, _, _ => none
  | fuel + 1, first, .sign ['&', '&'] :: rest =>
    match readPipeline fuel (skipLines rest) with
    | none => none
    | some (second, rest) => readLinks fuel (.both first second) rest
  | fuel + 1, first, .sign ['|', '|'] :: rest =>
    match readPipeline fuel (skipLines rest) with
    | none => none
    | some (second, rest) => readLinks fuel (.either first second) rest
  | _ + 1, first, rest => some (first, rest)

def readPipeline : (fuel : Nat) → List Lexeme → Option (Script × List Lexeme)
  | 0, _ => none
  | fuel + 1, lexemes =>
    if reserved? lexemes = some "!" then
      (readPipeline fuel (lexemes.drop 1)).map fun (script, rest) => (.negated script, rest)
    else
      match readCommand fuel lexemes with
      | some (first, .sign ['|'] :: rest) =>
        (readPipeline fuel (skipLines rest)).map fun (second, rest) => (.pipe first second, rest)
      | result => result

def readCommand : (fuel : Nat) → List Lexeme → Option (Script × List Lexeme)
  | 0, _ => none
  | fuel + 1, .sign ['('] :: rest =>
    match readList fuel rest with
    | some (body, .sign [')'] :: rest) => withRedirections (.apart body) rest
    | _ => none
  | fuel + 1, lexemes =>
    match reserved? lexemes with
    | some "\x7b" =>
      match readList fuel (lexemes.drop 1) with
      | none => none
      | some (body, rest) => (expect "\x7d" rest).bind (withRedirections body)
    | some "if" => (readChoice fuel (lexemes.drop 1)).bind fun (script, rest) =>
        withRedirections script rest
    | some "while" => readLoop fuel true (lexemes.drop 1)
    | some "until" => readLoop fuel false (lexemes.drop 1)
    | some "for" =>
      match lexemes.drop 1 with
      | .word [.text name false] :: rest =>
        let (words, rest) := match expect "in" (skipLines rest) with
          | some rest => wordList rest
          | none => ([[.value ['@'] true]], rest)
        match expect "do" (skipSeparators rest) with
        | none => none
        | some rest =>
          match readList fuel rest with
          | none => none
          | some (body, rest) =>
            (expect "done" rest).bind (withRedirections (.each name words body))
      | _ => none
    | some "case" =>
      match lexemes.drop 1 with
      | .word subject :: rest =>
        match expect "in" (skipLines rest) with
        | none => none
        | some rest =>
          match readBranches fuel rest with
          | none => none
          | some (branches, rest) => withRedirections (.cases subject branches) rest
      | _ => none
    | _ => simpleCommand lexemes [] [] []

/-- The rest of a choice, behind its first word. -/
def readChoice : (fuel : Nat) → List Lexeme → Option (Script × List Lexeme)
  | 0, _ => none
  | fuel + 1, lexemes =>
    match readList fuel lexemes with
    | none => none
    | some (condition, rest) =>
      match (expect "then" rest).bind (readList fuel) with
      | none => none
      | some (yes, rest) =>
        match reserved? rest with
        | some "fi" => some (.choice condition yes .nothing, rest.drop 1)
        | some "elif" => (readChoice fuel (rest.drop 1)).map fun (no, rest) =>
            (.choice condition yes no, rest)
        | some "else" =>
          match readList fuel (rest.drop 1) with
          | none => none
          | some (no, rest) => (expect "fi" rest).map fun rest => (.choice condition yes no, rest)
        | _ => none

/-- The rest of a loop, behind its first word. -/
def readLoop : (fuel : Nat) → Bool → List Lexeme → Option (Script × List Lexeme)
  | 0, _, _ => none
  | fuel + 1, wanted, lexemes =>
    match readList fuel lexemes with
    | none => none
    | some (condition, rest) =>
      match (expect "do" rest).bind (readList fuel) with
      | none => none
      | some (body, rest) =>
        (expect "done" rest).bind (withRedirections (.loop wanted condition body))

def readBranches : (fuel : Nat) → List Lexeme →
    Option (List (List Word × Script) × List Lexeme)
  | 0, _ => none
  | fuel + 1, lexemes =>
    let lexemes := skipSeparators lexemes
    match expect "esac" lexemes with
    | some rest => some ([], rest)
    | none =>
      let lexemes := match lexemes with
        | .sign ['('] :: rest => rest
        | lexemes => lexemes
      match patterns lexemes with
      | none => none
      | some (words, rest) =>
        match readList fuel rest with
        | none => none
        | some (body, rest) =>
          let rest := match rest with
            | .sign [';', ';'] :: rest => rest
            | rest => rest
          (readBranches fuel rest).map fun (branches, rest) => ((words, body) :: branches, rest)

end

def read? (text : List Char) : Option Script :=
  let fuel := 4 * text.length + 16
  match lexemes? fuel text with
  | none => none
  | some lexemes =>
    match readList fuel lexemes with
    | some (script, []) => some script
    | _ => none

end Script

end SlidePress.Shell
