import SlidePress.File.Fault
import SlidePress.File.Path
import SlidePress.File.Tree

/-!
Finding and reading what a path leads to. A path is walked step by step from the root or from the
working folder; every step needs a folder to start from, and a slash at the end of the path needs
one too.
-/

namespace SlidePress

def Location.path (place : Location) : Path :=
  ⟨"/" ++ "/".intercalate place⟩

def longestName : Nat := 255

/-- The bytes that a whole path may have as it is written. -/
def longestPath : Nat := 4095

namespace FileTree

/-- Walks the pieces between the slashes of a path. -/
def walk (tree : FileTree) : Location → List (List Char) → Except Fault Location
  | place, [] => .ok place
  | place, piece :: pieces =>
    match tree.find? place with
    | some .folder =>
      if Path.isIdle piece then tree.walk place pieces
      else if piece = ['.', '.'] then tree.walk place.dropLast pieces
      else
        let name := String.ofList piece
        let next := place ++ [name]
        if longestName < name.utf8ByteSize then .error .nameTooLong
        else if (tree.find? next).isSome then tree.walk next pieces
        else .error .notFound
    | some _ => .error .notFolder
    | none => .error .notFound

/-- Where the walk along a path begins. -/
def base (tree : FileTree) (path : Path) : Location :=
  if path.isAbsolute then [] else tree.here

/-- The place that a path leads to, however long it is written. -/
def resolve (tree : FileTree) (path : Path) : Except Fault Location :=
  let text := path.text.toList
  if text.isEmpty then .error .notFound
  else if text.contains '\x00' then .error .nulInPath
  else tree.walk (tree.base path) (Text.pieces '/' text)

/-- Whether the system takes a path: it may not be too long, whatever it leads to. -/
def isTaken (path : Path) : Bool :=
  path.text.contains '\x00' || path.text.utf8ByteSize ≤ longestPath

def locate (tree : FileTree) (path : Path) : Except Fault Location :=
  if isTaken path then tree.resolve path else .error .nameTooLong

def entry? (tree : FileTree) (path : Path) : Option Entry :=
  match tree.locate path with
  | .ok place => tree.find? place
  | .error _ => none

def holds (tree : FileTree) (path : Path) : Bool :=
  (tree.entry? path).isSome

def isFile (tree : FileTree) (path : Path) : Bool :=
  match tree.entry? path with
  | some (.file ..) => true
  | _ => false

def isFolder (tree : FileTree) (path : Path) : Bool :=
  match tree.entry? path with
  | some .folder => true
  | _ => false

/-- The path from the root of what a path leads to. Only what it leads to has to be short enough,
since the path is followed step by step. -/
def absolute (tree : FileTree) (path : Path) : Except Fault Path :=
  (tree.resolve path).map Location.path

/-- The content of the file that a path leads to. A device that does not end is read as an empty
one; nothing but its first bytes can be used, and those are not asked for here. -/
def read (tree : FileTree) (path : Path) : Except Fault Content :=
  match tree.locate path with
  | .error fault => .error fault
  | .ok place =>
    match tree.find? place with
    | some (.file content _) => .ok content
    | some (.device _) => .ok (.bytes .empty)
    | some .folder => .error .isFolder
    | none => .error .notFound

def readText (tree : FileTree) (path : Path) : Except Fault String :=
  match tree.read path with
  | .error fault => .error fault
  | .ok content =>
    match String.fromUTF8? content.data with
    | some text => .ok text
    | none => .error .notText

end FileTree

end SlidePress
