import SlidePress.Text.Lines
import SlidePress.Text.Search

/-!
Paths as they are written: steps with slashes between them. Empty steps and dots change nothing
and are passed over, save for a dot in front, which is a step of its own. Taking a path apart keeps
the writing of what is left.
-/

namespace SlidePress

structure Path where
  text : String
  deriving DecidableEq, Repr

/-- One step of a path. The constructors stand in the order in which steps are sorted. -/
inductive Step where
  /-- The slash in front of an absolute path. -/
  | root
  /-- The dot in front of a relative path. -/
  | here
  | up
  | name (text : String)
  deriving DecidableEq, Repr

/-- Where the steps of a path start from. -/
inductive Path.Start where
  | root
  | here
  | anywhere
  deriving DecidableEq, Repr

/-- Whether the first step comes before the second; names are in the order of their characters. -/
def Step.before : Step → Step → Bool
  | .root, .root => false
  | .root, _ => true
  | .here, .root => false
  | .here, .here => false
  | .here, _ => true
  | .up, .name _ => true
  | .up, _ => false
  | .name a, .name b => a < b
  | .name _, _ => false

namespace Path

def split (path : Path) : Start × List Char :=
  match path.text.toList with
  | '/' :: rest => (.root, rest)
  | ['.'] => (.here, [])
  | '.' :: '/' :: rest => (.here, '/' :: rest)
  | text => (.anywhere, text)

def Start.chars : Start → List Char
  | .root => ['/']
  | .here => ['.']
  | .anywhere => []

/-- A piece between slashes that changes nothing. -/
def isIdle (piece : List Char) : Bool :=
  piece.isEmpty || piece == ['.']

def stepOf (piece : List Char) : Step :=
  if piece = ['.', '.'] then .up else .name (String.ofList piece)

def activePieces (path : Path) : List (List Char) :=
  ((Text.pieces '/' path.split.2).reverse.dropWhile isIdle).reverse

def steps (path : Path) : List Step :=
  let front := match path.split.1 with
    | .root => [Step.root]
    | .here => [Step.here]
    | .anywhere => []
  front ++ ((Text.pieces '/' path.split.2).filter (!isIdle ·)).map stepOf

def isAbsolute (path : Path) : Bool :=
  path.split.1 = .root

def name? (path : Path) : Option String :=
  match path.activePieces.getLast? with
  | some piece => if piece = ['.', '.'] then none else some (String.ofList piece)
  | none => none

/-- What stands behind the last dot of the name; a dot in front of the name alone does not count. -/
def ending? (path : Path) : Option (List Char) :=
  path.name?.bind fun name =>
    let parts := Text.pieces '.' name.toList
    match parts.dropLast, parts.getLast? with
    | [], _ | [[]], _ => none
    | _, ending => ending

/-- The path without its last step, as it is written in front of that step. -/
def parent? (path : Path) : Option Path :=
  let (start, _) := path.split
  let pieces := path.activePieces
  if pieces.isEmpty then
    if start = .here then some ⟨""⟩ else none
  else
    let rest := (pieces.dropLast.reverse.dropWhile isIdle).reverse
    some ⟨String.ofList (start.chars ++ Text.joined '/' rest)⟩

/-- The path followed by another one, which stands alone if it is absolute. -/
def join (path next : Path) : Path :=
  if next.isAbsolute then next
  else if path.text.isEmpty || path.text.toList.getLast? == some '/' then
    ⟨path.text ++ next.text⟩
  else ⟨path.text ++ "/" ++ next.text⟩

/-- The path with another name at its end; a path without a name gets one. -/
def withName (path : Path) (name : String) : Path :=
  match path.name?, path.parent? with
  | some _, some parent => parent.join ⟨name⟩
  | _, _ => path.join ⟨name⟩

/-- The order of steps, from the first one on; a path comes before what lies below it. -/
def stepsBefore : List Step → List Step → Bool
  | [], [] => false
  | [], _ :: _ => true
  | _ :: _, [] => false
  | a :: rest, b :: others => a.before b || (a == b && stepsBefore rest others)

/-- Whether the first path may stand in front of the second one in a sorted list. -/
def notAfter (first second : Path) : Bool :=
  !stepsBefore second.steps first.steps

end Path

end SlidePress
