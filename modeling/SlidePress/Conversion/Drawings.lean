import SlidePress.File.Check
import SlidePress.Glob.Search

/-!
The drawings of a conversion, the files in a folder whose names satisfy a pattern, and where their
pictures go. Only the pattern has wildcards; the path of the folder is taken as it is written.
-/

namespace SlidePress.Conversion

def drawingPattern (folder : Path) (pattern : String) : String :=
  String.ofList (Glob.escape folder.text.toList) ++ "/" ++ pattern

/-- The drawings in a folder, sorted; there is at least one. -/
def findDrawings (tree : FileTree) (folder : Path) (pattern : String) :
    Except Failure (List Path) :=
  match tree.requireFolder folder with
  | .error failure => .error failure
  | .ok () =>
    match Glob.files tree (drawingPattern folder pattern) with
    | .error error => .error (.badPattern error)
    | .ok [] => .error (.noFilesFound pattern)
    | .ok files => .ok (files.mergeSort Path.notAfter)

def drawingEnding : List Char := ['.', 's', 'v', 'g']
def pictureEnding : List Char := ['.', 'p', 'n', 'g']

/-- The name of the picture: every ending of drawings in the name becomes that of pictures, and a
name without one gets it at its end. -/
def pictureName (name : String) : String :=
  let text := name.toList
  String.ofList (
    if Text.occursIn drawingEnding text then Text.replaceAll drawingEnding pictureEnding text
    else text ++ pictureEnding)

def picturePath (drawing : Path) : Path :=
  drawing.withName (pictureName (drawing.name?.getD ""))

end SlidePress.Conversion
