import SlidePress.CommandLine.Reply
import SlidePress.CommandLine.Request
import SlidePress.Conversion.Drawings
import SlidePress.Conversion.Run
import SlidePress.Preferences
import SlidePress.Terminal

/-!
The command that converts drawings.
-/

namespace SlidePress.CommandLine

open Conversion (Outcome Report Settings)

def shownName (path : Path) : String :=
  path.name?.getD path.text

def nameWidth : Nat := 45

def filled (width : Nat) (text : String) : String :=
  text ++ String.ofList (List.replicate (width - text.length) ' ')

/-- The lines about how drawings are converted. -/
def convertHeading (settings : Settings) (folder : Path) : List String := [
  Terminal.tinted .blue rule, Terminal.tinted .blue "SVG to PNG Converter",
  Terminal.tinted .blue rule, "", "Configuration:",
  match settings.backend with
    | .tool => s!"  Output dimensions: {settings.width}x{settings.height}px"
    | .builtIn scale => "  Output scale: " ++ Decimal.float32Text scale ++ "x",
  "  File pattern: " ++ settings.pattern, "  Directory: " ++ folder.text, ""]

/-- The lines about what became of all drawings. -/
def convertEnding (report : Report) : List String :=
  ["", Terminal.tinted .blue rule, Terminal.tinted .green "Conversion Summary",
    s!"  Successful: {report.successCount}"] ++
  (if 0 < report.failureCount then
    ["  " ++ Terminal.tinted .red s!"Failed: {report.failureCount}",
      Terminal.tinted .red "Failed files:"] ++
      report.failedDrawings.map fun drawing => "    - " ++ shownName drawing
  else ["  " ++ Terminal.tinted .green "All files converted successfully!"]) ++
  [Terminal.tinted .blue rule]

/-- The end of the line about a drawing. -/
def outcomeText : Outcome → String
  | .converted _ _ bytes _ => s!"{Terminal.checkMark} ({byteCount bytes})"
  | .failed _ reason => s!"{Terminal.crossMark} " ++ reason

/-- Converts drawings in their order and tells about each. The line about a drawing is sent off before
the drawing is converted; without that there is no report. -/
def convertEach (machine : Machine) (settings : Settings) :
    Report → Session → List Path → Except Stop Report × Session
  | report, session, [] => (.ok report, session)
  | report, session, drawing :: drawings =>
    let session := session.tell ("Converting: " ++ filled nameWidth (shownName drawing))
    match machine.flush session with
    | .error trouble => (.error (.failure (.untold trouble)), session)
    | .ok () =>
      match Conversion.convert machine settings session drawing with
      | (some outcome, session) =>
        convertEach machine settings (report.push outcome)
          (session.tell (outcomeText outcome ++ "\n")) drawings
      | (none, session) => (.error .crash, session)

def convertFound (machine : Machine) (settings : Settings) (session : Session)
    (drawings : List Path) : Reply × Session :=
  let session := session.tellLines [s!"Found {drawings.length} SVG file(s)", ""]
  match convertEach machine settings {} session drawings with
  | (.ok report, session) =>
    ({ code := report.exitCode }, session.tellLines (convertEnding report))
  | (.error (.failure failure), session) => (.ofFailure none failure, session)
  | (.error .crash, session) => (.broken, session)

def convertMatching (machine : Machine) (settings : Settings) (session : Session) :
    Reply × Session :=
  match Conversion.findDrawings session.tree settings.folder settings.pattern with
  | .ok drawings => convertFound machine settings session drawings
  | .error (.noFilesFound pattern) =>
    ({ code := 1 },
      session.tellLines [Terminal.tinted .red ("✗ No SVG files matching pattern: " ++ pattern)])
  | .error failure => (.ofFailure none failure, session)

/-- The name of what makes the pictures. The tool is installed if need be. -/
def toolLine (machine : Machine) (settings : Settings) (session : Session) :
    Except Stop String × Session :=
  match settings.backend with
  | .builtIn _ => (.ok "resvg (built-in)", session)
  | .tool => Installation.ensureTool machine session

def convertWith (machine : Machine) (settings : Settings) (session : Session) :
    Reply × Session :=
  let folder := (session.tree.absolute settings.folder).toOption.getD settings.folder
  let session := session.tellLines (convertHeading settings folder)
  match toolLine machine settings session with
  | (.ok tool, session) =>
    convertMatching machine settings
      (session.tellLines ["Tool: " ++ tool, Terminal.tinted .blue rule, ""])
  | (.error (.failure failure), session) =>
    ({ code := 1 }, session.tellLines
      ([Terminal.tinted .red ("✗ Error: " ++ failure.message), ""] ++
        Installation.manualInstructions))
  | (.error .crash, session) => (.broken, session)

def convert (machine : Machine) (preferences : Preferences) (session : Session)
    (request : ConvertRequest) : Reply × Session :=
  let usual : Settings := {}
  let scale := if request.native then some (request.scale.getD preferences.scale) else none
  match preferences.conversionSettings (request.width.getD usual.width)
      (request.height.getD usual.height) (request.pattern.getD usual.pattern) request.folder
      scale with
  | .ok settings => convertWith machine settings session
  | .error failure => (.ofFailure none failure, session)

end SlidePress.CommandLine
