import SlidePress.Conversion.BuiltIn
import SlidePress.Conversion.Drawings
import SlidePress.Conversion.Report
import SlidePress.Conversion.Settings
import SlidePress.Installation.Run
import SlidePress.Picture.Format

/-!
Converting drawings one after another. Whatever goes wrong with one of them is an outcome, and the
others are converted all the same.
-/

namespace SlidePress.Conversion

/-- The command that makes the picture of a drawing of one given size. -/
def toolCommand (settings : Settings) (drawing : Path) : Command where
  program := Installation.toolName
  arguments := ["-w", toString settings.width, "-h", toString settings.height, drawing.text,
    "-o", (picturePath drawing).text]
  timeout := settings.timeoutSeconds * 1000

def makePicture (machine : Machine) (settings : Settings) (session : Session) (drawing : Path) :
    Except Stop Unit × Session :=
  match settings.backend with
  | .tool =>
    match session.run machine (toolCommand settings drawing) with
    | (.ok _, session) => (.ok (), session)
    | (.error stop, session) => (.error stop, session)
  | .builtIn scale =>
    match renderPicture machine.renderer session drawing (picturePath drawing) scale with
    | (.ok _, session) => (.ok (), session)
    | (.error failure, session) => (.error (.failure failure), session)

/-- What the system says for the size of a folder. -/
def folderSize : Nat := 4096

def pictureSize (tree : FileTree) (picture : Path) : Except Fault Nat :=
  match tree.locate picture with
  | .error fault => .error fault
  | .ok place =>
    match tree.find? place with
    | some (.file content _) => .ok content.size
    | some (.device _) => .ok 0
    | some .folder => .ok folderSize
    | none => .error .notFound

/-- The dimensions of a picture, if what is in it is of the format that its name tells of. -/
def pictureDimensions (tree : FileTree) (picture : Path) : Option Picture.Dimensions := do
  let format ← picture.ending?.bind Picture.Format.ofEnding?
  format.dimensions? (← (tree.read picture).toOption)

/-- Why a drawing has not been converted. -/
def reason (settings : Settings) : Failure → String
  | .timeout .. => s!"Conversion timeout (>{settings.timeoutSeconds}s)"
  | .command _ _ errors => "Conversion error: " ++ errors
  | failure => failure.message

/-- Converts a drawing. There is no outcome if the program breaks down. -/
def convert (machine : Machine) (settings : Settings) (session : Session) (drawing : Path) :
    Option Outcome × Session :=
  match makePicture machine settings session drawing with
  | (.error .crash, session) => (none, session)
  | (.error (.failure failure), session) =>
    (some (.failed drawing (reason settings failure)), session)
  | (.ok (), session) =>
    let picture := picturePath drawing
    match pictureSize session.tree picture with
    | .error fault => (some (.failed drawing (reason settings (.system fault))), session)
    | .ok bytes =>
      (some (.converted drawing picture bytes (pictureDimensions session.tree picture)), session)

/-- Converts drawings in their order and adds their outcomes to a report. -/
def convertFrom (machine : Machine) (settings : Settings) :
    Report → Session → List Path → Option Report × Session
  | report, session, [] => (some report, session)
  | report, session, drawing :: drawings =>
    match convert machine settings session drawing with
    | (some outcome, session) => convertFrom machine settings (report.push outcome) session drawings
    | (none, session) => (none, session)

def convertAll (machine : Machine) (settings : Settings) (session : Session)
    (drawings : List Path) : Option Report × Session :=
  convertFrom machine settings {} session drawings

end SlidePress.Conversion
