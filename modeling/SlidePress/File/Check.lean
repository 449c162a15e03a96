import SlidePress.Failure
import SlidePress.File.Change

/-!
What the program asks of a path before it uses it.
-/

namespace SlidePress.FileTree

def requireFile (tree : FileTree) (path : Path) : Except Failure Unit :=
  if !tree.holds path then .error (.pathNotFound path)
  else if !tree.isFile path then .error (.notFile path)
  else .ok ()

def requireFolder (tree : FileTree) (path : Path) : Except Failure Unit :=
  if !tree.holds path then .error (.pathNotFound path)
  else if !tree.isFolder path then .error (.notFolder path)
  else .ok ()

/-- Makes a folder unless there is one. Folders that were made stay even if a later one fails. -/
def ensureFolder (tree : FileTree) (path : Path) : FileTree × Option Failure :=
  if !tree.holds path then
    let (tree, fault?) := tree.makePath path
    (tree, fault?.map .system)
  else if !tree.isFolder path then (tree, some (.occupied path))
  else (tree, none)

/-- Makes the folder that a file is to be in. A path of one name is in the working folder. -/
def ensureParent (tree : FileTree) (file : Path) : FileTree × Option Failure :=
  match file.parent? with
  | some parent => if parent.text.isEmpty then (tree, none) else tree.ensureFolder parent
  | none => (tree, none)

/-- The path from the root, or why there is none. -/
def requireAbsolute (tree : FileTree) (path : Path) : Except Failure Path :=
  (tree.absolute path).mapError (.noAbsolutePath path)

end SlidePress.FileTree
