import SlidePress.Glob.Pattern
import SlidePress.Shell.Script

/-!
What becomes of words once the values in them are known: the fields of a command, a single text,
or a pattern.
-/

namespace SlidePress.Shell

/-- A piece of a word whose value is known. -/
inductive Known where
  /-- What was written as it is. -/
  | written (text : List Char) (quoted : Bool)
  /-- What stands for something else; it is taken apart at blanks unless it is quoted. -/
  | inserted (text : List Char) (quoted : Bool)
  /-- All parameters, each a field of its own. -/
  | parameters (texts : List (List Char))
  deriving DecidableEq, Repr

namespace Known

def single (word : List Known) : List Char :=
  word.flatMap fun
    | .written text _ | .inserted text _ => text
    | .parameters texts => List.intercalate [' '] texts

/-- The fields that are complete and the one that may go on. -/
structure Fields where
  done : List (List Char) := []
  current : Option (List Char) := none

def Fields.add (fields : Fields) (text : List Char) : Fields :=
  { fields with current := some (fields.current.getD [] ++ text) }

def Fields.close (fields : Fields) : Fields :=
  match fields.current with
  | some field => { done := fields.done ++ [field], current := none }
  | none => fields

def Fields.split (fields : Fields) (text : List Char) : Fields :=
  text.foldl (fun fields c =>
    if c = ' ' ∨ c = '\t' ∨ c = '\n' then fields.close else fields.add [c]) fields

/-- Adds fields, the first to the one that may go on. -/
def Fields.spread (fields : Fields) : List (List Char) → Fields
  | [] => fields
  | [text] => fields.add text
  | text :: texts => ((fields.add text).close).spread texts

/-- Whether a word is made of nothing but parameters of which there are none. -/
def isVoid (word : List Known) : Bool :=
  word.contains (.parameters []) &&
    word.all fun piece => piece == .parameters [] || piece == .written [] true

def fields (word : List Known) : List (List Char) :=
  if isVoid word then []
  else
    let all := word.foldl (fun fields piece =>
      match piece with
      | .written text _ | .inserted text true => fields.add text
      | .inserted text false => fields.split text
      | .parameters texts => fields.spread texts) ({} : Fields)
    all.close.done

def marked (word : List Known) : List (Char × Bool) :=
  word.flatMap fun
    | .written text quoted | .inserted text quoted => text.map (·, quoted)
    | .parameters texts => (List.intercalate [' '] texts).map (·, true)

/-- The pattern that marked characters spell. The first `skip` of them have been read already. -/
def tokens : (skip : Nat) → List (Char × Bool) → List Glob.Token
  | _, [] => []
  | skip + 1, _ :: rest => tokens skip rest
  | 0, (c, quoted) :: rest =>
    if quoted then .char c :: tokens 0 rest
    else if c = '*' then .anyText :: tokens 0 rest
    else if c = '?' then .anyChar :: tokens 0 rest
    else if c = '[' then
      match Glob.class? (rest.map (·.1)) with
      | some (token, length) => token :: tokens length rest
      | none => .char c :: tokens 0 rest
    else .char c :: tokens 0 rest

def accepts (word : List Known) (text : List Char) : Bool :=
  Glob.matchesText (tokens 0 (marked word)) text

end Known

end SlidePress.Shell
