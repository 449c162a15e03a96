import SlidePress.File.Lookup
import SlidePress.Text.Utf8

/-!
Finding programs. A name with a slash is a path; any other name is looked for in folders, in their
order. A script names the program that runs it in its first line.
-/

namespace SlidePress.Shell

/-- The program to run, a utility of the system, and the arguments that come before those that are
given. -/
abbrev Runnable := Utility × List String

def trimBlanks (text : List Char) : List Char :=
  let isSpace (c : Char) : Bool := c == ' ' || c == '\t'
  ((text.dropWhile isSpace).reverse.dropWhile isSpace).reverse

/-- What a first line names: a program and perhaps one argument. -/
def interpreterLine? (data : ByteArray) : Option (String × List String) :=
  match Text.readLossy (data.toList.takeWhile (· ≠ 10)) with
  | '#' :: '!' :: line =>
    let line := trimBlanks line
    let program := line.takeWhile fun c => c ≠ ' ' ∧ c ≠ '\t'
    let rest := trimBlanks (line.drop program.length)
    if program.isEmpty then none
    else some (String.ofList program, if rest.isEmpty then [] else [String.ofList rest])
  | _ => none

def utilityAt (tree : FileTree) (path : Path) : Except Fault Utility :=
  match tree.locate path with
  | .error fault => .error fault
  | .ok place =>
    match tree.find? place with
    | some (.file (.utility utility) true) => .ok utility
    | some (.file _ true) => .error .badProgram
    | some _ => .error .denied
    | none => .error .notFound

def runnableAt (tree : FileTree) (path : Path) : Except Fault Runnable :=
  match tree.locate path with
  | .error fault => .error fault
  | .ok place =>
    match tree.find? place with
    | some (.file (.utility utility) true) => .ok (utility, [])
    | some (.file content true) =>
      match interpreterLine? content.data with
      | none => .error .badProgram
      | some (program, arguments) =>
        (utilityAt tree ⟨program⟩).map fun utility => (utility, arguments ++ [path.text])
    | some _ => .error .denied
    | none => .error .notFound

/-- Looks for a name in folders. Something that may not be run is passed over, and is what is wrong
if nothing better is found. -/
def searchFolders (tree : FileTree) (name : String) : (fault : Fault) → List Path →
    Except Fault Runnable
  | fault, [] => .error fault
  | fault, folder :: folders =>
    match runnableAt tree (folder.join ⟨name⟩) with
    | .ok runnable => .ok runnable
    | .error .denied => searchFolders tree name .denied folders
    | .error .notFound => searchFolders tree name fault folders
    | .error .notFolder => searchFolders tree name fault folders
    | .error other => .error other

def findProgram (tree : FileTree) (folders : List Path) (name : String) :
    Except Fault Runnable :=
  if name.isEmpty then .error .notFound
  else if '/' ∈ name.toList then runnableAt tree ⟨name⟩
  else searchFolders tree name .notFound folders

end SlidePress.Shell
