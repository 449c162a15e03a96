import SlidePress.File.Lookup
import SlidePress.Glob.Pattern

/-!
The paths that a pattern stands for. A pattern is taken apart at its slashes, and each piece is
matched against the names in the folders that the pieces in front of it have led to. A piece
without wildcards is followed as it is written, so that the paths found keep the writing of the
pattern; only a dot for the working folder is left out in front.
-/

namespace SlidePress.Glob

/-- The pieces of a pattern. A slash in front is where the search starts and a slash at the end
asks for folders; neither makes a piece. -/
def patternPieces (pattern : List Char) : List (List Char) :=
  let text := if pattern.head? = some '/' then pattern.drop 1 else pattern
  let pieces := Text.pieces '/' text
  if pieces.getLast? = some [] then pieces.dropLast else pieces

def parsePieces : List (List Char) → Except SyntaxError (List (List Token))
  | [] => .ok []
  | piece :: pieces =>
    match parse piece with
    | .error error => .error error
    | .ok tokens => (parsePieces pieces).map (tokens :: ·)

def inside (folder : Path) (name : List Char) : Path :=
  if folder.steps = [.here] then ⟨String.ofList name⟩ else folder.join ⟨String.ofList name⟩

def isSpecial (piece : List Char) : Bool :=
  piece == ['.'] || piece == ['.', '.']

def folderAt? (tree : FileTree) (path : Path) : Option Location :=
  if tree.isFolder path then (tree.locate path).toOption else none

def namesIn (tree : FileTree) (folder : Path) : List String :=
  match folderAt? tree folder with
  | some place => tree.children place
  | none => []

/-- The names, with those of the folders on the way, of all that is below a folder. -/
def descendantsIn (tree : FileTree) (folder : Path) : List Location :=
  match folderAt? tree folder with
  | some place => tree.entries.filterMap fun (found, _) =>
      if FileTree.isBelow place found then some (found.drop place.length) else none
  | none => []

/-- The special steps that a piece with wildcards stands for: only one that begins with a dot
does so. -/
def specialSteps (tokens : List Token) : List (List Char) :=
  if tokens.head? = some (.char '.') then
    [['.'], ['.', '.']].filter (matchesText tokens)
  else []

def step (tree : FileTree) (path : Path) (tokens : List Token) : List Path :=
  match literal? tokens with
  | some name =>
    let next := inside path name
    let holds := if isSpecial name then tree.isFolder path else tree.holds next
    if holds then [next] else []
  | none =>
    let named := (namesIn tree path).filter (matchesText tokens ·.toList)
    let special := if tree.isFolder path then specialSteps tokens else []
    named.map (inside path ·.toList) ++ special.map fun step => path.join ⟨String.ofList step⟩

/-- The paths of what is below a folder, each with its name. -/
def below (tree : FileTree) (path : Path) : List (Path × String) :=
  (descendantsIn tree path).map fun names =>
    (inside path ("/".intercalate names).toList, names.getLast?.getD "")

/-- The paths to which pieces lead from a folder or, behind two stars, from any depth below it. Two
stars with nothing after them lead to folders only. -/
def expand (tree : FileTree) : (deep : Bool) → Path → List (List Token) → List Path
  | false, path, [] => [path]
  | true, path, [] => ((below tree path).map (·.1)).filter tree.isFolder
  | deep, path, tokens :: pieces =>
    if tokens = [.anySteps] then expand tree true path pieces
    else
      let found :=
        if deep then
          ((below tree path).filter fun (_, name) => matchesText tokens name.toList).map (·.1)
        else step tree path tokens
      found.flatMap fun next => expand tree false next pieces

/-- The files to which a pattern leads, in no particular order. -/
def files (tree : FileTree) (pattern : String) : Except SyntaxError (List Path) :=
  let text := pattern.toList
  match parse text with
  | .error error => .error error
  | .ok _ =>
    match parsePieces (patternPieces text) with
    | .error error => .error error
    | .ok pieces =>
      let start : Path := if text.head? = some '/' then ⟨"/"⟩ else ⟨"."⟩
      if text.getLast? = some '/' then .ok []
      else .ok ((expand tree false start pieces).filter tree.isFile)

end SlidePress.Glob
