import SlidePress.File.Content

/-!
All files and folders, each under the names on the way to it from the root, and the folder against
which relative paths are read. The root is a folder that is always there. There are no links, so
that every file has one place.
-/

namespace SlidePress

abbrev Location := List String

/-- A file that the system makes up. -/
inductive Device where
  /-- Empty, whatever is written to it. -/
  | null
  /-- Zeros without end. -/
  | zero
  deriving DecidableEq, Repr

inductive Entry where
  | folder
  | file (content : Content) (runnable : Bool)
  | device (device : Device)
  deriving BEq

/-- Files and folders by their place. -/
structure FileTree where
  entries : List (Location × Entry) := []
  /-- The working folder. -/
  here : Location := []

namespace FileTree

def find? (tree : FileTree) (place : Location) : Option Entry :=
  if place = [] then some .folder else tree.entries.lookup place

def put (tree : FileTree) (place : Location) (entry : Entry) : FileTree :=
  { tree with entries := (place, entry) :: tree.entries.filter (·.1 ≠ place) }

def remove (tree : FileTree) (place : Location) : FileTree :=
  { tree with entries := tree.entries.filter (·.1 ≠ place) }

/-- Whether a place is inside a folder, at any depth. -/
def isBelow (folder place : Location) : Bool :=
  folder.isPrefixOf place && folder.length < place.length

def children (tree : FileTree) (folder : Location) : List String :=
  tree.entries.filterMap fun (place, _) =>
    if place.dropLast = folder then place.getLast? else none

/-- The paths of all that is inside a folder, as seen from it and sorted; those of folders end
with a slash. -/
def listing (tree : FileTree) (folder : Location) : List String :=
  let paths := tree.entries.filterMap fun (place, entry) =>
    if isBelow folder place then
      let path := "/".intercalate (place.drop folder.length)
      some (match entry with
        | .folder => path ++ "/"
        | .file .. | .device _ => path)
    else none
  paths.mergeSort fun a b => a ≤ b

/-- What is in a tree and was not, or not in the same way, in an older one. Folders come before
what is in them. -/
def newSince (tree older : FileTree) : List (Location × Entry) :=
  (tree.entries.filter fun (place, entry) => older.find? place != some entry).mergeSort
    fun a b => a.1.length ≤ b.1.length

end FileTree

end SlidePress
