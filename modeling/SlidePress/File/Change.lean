import SlidePress.File.Lookup

/-!
Making files and folders. A path to something new needs a folder in front of its last name; the
name itself may not be a dot or two, nor end with a slash if it is that of a file.
-/

namespace SlidePress.FileTree

/-- The last piece of a path that is not empty, the pieces in front of it, and whether a slash
comes after it. -/
def splitLast (path : Path) : Option (List (List Char) × List Char × Bool) :=
  let pieces := Text.pieces '/' path.text.toList
  match pieces.reverse.dropWhile List.isEmpty with
  | [] => none
  | last :: front => some (front.reverse, last, pieces.getLast? == some [])

/-- The place that something new under a path would get, or what stands against it before the name
itself is looked at; `none` is for a path that ends in no name. -/
def newPlace (tree : FileTree) (path : Path) : Except Fault (Option (Location × Bool)) :=
  let text := path.text.toList
  if text.isEmpty then .error .notFound
  else if text.contains '\x00' then .error .nulInPath
  else if !isTaken path then .error .nameTooLong
  else
    match splitLast path with
    | none => .ok none
    | some (front, last, slash) =>
      match tree.walk (tree.base path) (front ++ [[]]) with
      | .error fault => .error fault
      | .ok folder =>
        if last = ['.'] ∨ last = ['.', '.'] then .ok none
        else if longestName < (String.ofList last).utf8ByteSize then .error .nameTooLong
        else .ok (some (folder ++ [String.ofList last], slash))

/-- Writes a file, a new one or in place of the content of an old one. -/
def write (tree : FileTree) (path : Path) (content : Content) : Except Fault FileTree :=
  match tree.newPlace path with
  | .error fault => .error fault
  | .ok none => .error .isFolder
  | .ok (some (_, true)) => .error .isFolder
  | .ok (some (place, false)) =>
    match tree.find? place with
    | some .folder => .error .isFolder
    | some (.device _) => .ok tree
    | some (.file _ runnable) => .ok (tree.put place (.file content runnable))
    | none => .ok (tree.put place (.file content false))

def makeFolder (tree : FileTree) (path : Path) : Except Fault FileTree :=
  match tree.newPlace path with
  | .error fault => .error fault
  | .ok none => .error .alreadyThere
  | .ok (some (place, _)) =>
    match tree.find? place with
    | some _ => .error .alreadyThere
    | none => .ok (tree.put place .folder)

/-- Makes a folder and, from the outside in, the folders that it is in. What is there already is
left alone. The recursion goes to the parent of the path as it is written, at most `depth` times;
the tree that is reached is kept even if a later step fails. -/
def makeFolders (tree : FileTree) (path : Path) : (depth : Nat) → FileTree × Option Fault
  | 0 => (tree, some .notFound)
  | depth + 1 =>
    if path.text.isEmpty then (tree, none)
    else
      match tree.makeFolder path with
      | .ok tree => (tree, none)
      | .error .notFound =>
        match path.parent? with
        | none => (tree, some .notFound)
        | some parent =>
          match tree.makeFolders parent depth with
          | (tree, some fault) => (tree, some fault)
          | (tree, none) =>
            match tree.makeFolder path with
            | .ok tree => (tree, none)
            | .error fault => (tree, if tree.isFolder path then none else some fault)
      | .error fault => (tree, if tree.isFolder path then none else some fault)

/-- Makes a folder with all folders on the way to it. -/
def makePath (tree : FileTree) (path : Path) : FileTree × Option Fault :=
  tree.makeFolders path (path.text.length + 1)

end SlidePress.FileTree
