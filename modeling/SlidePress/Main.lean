import SlidePress.CommandLine.Answer
import SlidePress.Moment
import SlidePress.Package.Archive
import SlidePress.Picture.Blank
import SlidePress.Shell.Machine
import Std.Time.DateTime.Timestamp

/-!
The program on a real system. The files that a command line names are read into a tree, the answer
is worked out, and what has changed in the tree is written back. No other programs are started, and
the pictures that the program makes itself are left blank.
-/

open SlidePress

/-- A path of the system, relative to the working folder. -/
def systemPath (path : Path) : IO.FS.DirEntry := ⟨⟨"."⟩, path.text⟩

/-- Whether a path leads to a folder or to a file, if it leads to either. -/
def isFolderOnSystem? (path : Path) : IO (Option Bool) := do
  try
    match (← (systemPath path).path.metadata).type with
    | .dir => return some true
    | .file => return some false
    | _ => return none
  catch _ => return none

/-- The path and the paths of the folders that it goes through, the outermost one first. The parent
of a path is shorter, which bounds their number. -/
def pathsTo (path : Path) : (depth : Nat) → List Path
  | 0 => [path]
  | depth + 1 =>
    match path.parent? with
    | some parent => pathsTo parent depth ++ [path]
    | none => [path]

def readEntry (tree : FileTree) (path : Path) : IO FileTree := do
  match tree.newPlace path with
  | .ok (some (place, _)) =>
    match ← isFolderOnSystem? path with
    | some true => return tree.put place .folder
    | some false =>
      return tree.put place (.file (.bytes (← IO.FS.readBinFile (systemPath path).path)) false)
    | none => return tree
  | _ => return tree

/-- Puts what a path leads to into the tree, with the folders on the way. -/
def readPath (tree : FileTree) (path : Path) : IO FileTree :=
  (pathsTo path path.text.length).foldlM readEntry tree

/-- Puts what is below a folder into the tree, down to a depth. -/
def readFolder : (depth : Nat) → FileTree → Path → IO FileTree
  | 0, tree, _ => return tree
  | depth + 1, tree, folder => do
    let mut tree := tree
    for entry in ← (systemPath folder).path.readDir do
      let path := folder.join ⟨entry.fileName⟩
      tree ← readEntry tree path
      if tree.isFolder path then tree ← readFolder depth tree path
    return tree

def folderDepth : Nat := 64

def readRequest (tree : FileTree) : CommandLine.Request → IO FileTree
  | .generate request => do
    let tree ← readPath tree (request.input.getD CommandLine.usualInput)
    readPath tree (request.output.getD CommandLine.usualOutput)
  | .convert request => do
    let tree ← [Installation.kernelFile, Installation.releaseFile].foldlM readPath tree
    let folder := request.folder.getD ⟨"."⟩
    let tree ← readPath tree folder
    if tree.isFolder folder then readFolder folderDepth tree folder else return tree
  | _ => return tree

def storedBytes : Content → ByteArray
  | .package package => package.bytes
  | .picture width height => Picture.blank width height
  | content => content.data

/-- Writes what is new in a tree, folders before what is in them. -/
def writeChanges (before after : FileTree) : IO Unit := do
  for (place, entry) in after.newSince before do
    let path := (systemPath place.path).path
    match entry with
    | .folder => IO.FS.createDirAll path
    | .file content _ => IO.FS.writeBinFile path (storedBytes content)
    | .device _ => return

def readVariables : IO (List (String × String)) :=
  Preferences.variableNames.filterMapM fun name => do
    return (← IO.getEnv name).map (name, ·)

def main (arguments : List String) : IO UInt32 := do
  let here := ((toString (← IO.currentDir)).splitOn "/").filter (!·.isEmpty)
  let folders := (List.range here.length).map fun depth => here.take (depth + 1)
  let empty : FileTree := { entries := folders.map (·, .folder), here }
  let tree ← readRequest empty (.ofArguments arguments)
  let given ← readVariables
  let preferences := Preferences.ofVariables (List.lookup · given)
  let now := (← Std.Time.Timestamp.now).toSecondsSinceUnixEpoch.val.toNat
  let (reply, session) := CommandLine.answer (Shell.machine []) preferences (momentText now)
    { tree, clock := ← IO.monoMsNow } arguments
  writeChanges tree session.tree
  (← IO.getStdout).write session.standardOutput
  IO.eprint reply.errors
  return reply.code.toUInt32
