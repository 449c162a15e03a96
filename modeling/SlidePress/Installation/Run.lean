import SlidePress.Installation.Plan
import SlidePress.Program.Run
import SlidePress.Terminal

/-!
Asking for the version of a program, and installing the tool that converts drawings. An
installation goes through the steps of its plan in their order and ends at the first one that
fails; it is reported as done only when all of them have succeeded.
-/

namespace SlidePress.Installation

def toolName : String := "rsvg-convert"

def firstLine (text : String) : String :=
  String.ofList ((Text.lines text.toList).head?.getD [])

def version (machine : Machine) (session : Session) (program : String) :
    Except Stop String × Session :=
  match session.readOutput machine (probe program) with
  | (.ok text, session) => (.ok (firstLine text), session)
  | (.error stop, session) => (.error stop, session)

def runSteps (machine : Machine) (product : String) :
    Session → List Step → Except Stop Unit × Session
  | session, [] => (.ok (), session)
  | session, step :: steps =>
    match session.run machine step.command with
    | (.ok _, session) => runSteps machine product session steps
    | (.error (.failure cause), session) =>
      (.error (.failure (.notInstalled product cause)), session)
    | (.error .crash, session) => (.error .crash, session)

def carryOut (machine : Machine) (session : Session) (plan : Plan) :
    Except Stop Unit × Session :=
  let session := session.tellLines [s!"Installing {plan.product} via {plan.manager}..."]
  match runSteps machine plan.product session plan.steps with
  | (.ok (), session) =>
    (.ok (), session.tellLines [s!"{Terminal.checkMark} {plan.product} installed successfully"])
  | (.error stop, session) => (.error stop, session)

def install (machine : Machine) (session : Session) (host : Host) :
    Except Stop Unit × Session :=
  let session := session.tellLines ["Detected: " ++ host.label]
  match plan? host with
  | none => (.error (.failure (.noInstallation host.label)), session)
  | some plan =>
    match plan.prerequisite with
    | none => carryOut machine session plan
    | some program =>
      match version machine session program with
      | (.ok _, session) => carryOut machine session plan
      | (.error (.failure _), session) =>
        (.error (.failure (.noManager program plan.manager)), session)
      | (.error .crash, session) => (.error .crash, session)

def kernelFile : Path := ⟨"/proc/version"⟩

def releaseFile : Path := ⟨"/etc/os-release"⟩

def thisHost (session : Session) : Host :=
  Host.detect session.tree kernelFile releaseFile

/-- The version of the tool, which is installed if it does not answer. -/
def ensureTool (machine : Machine) (session : Session) : Except Stop String × Session :=
  match version machine session toolName with
  | (.ok version, session) => (.ok version, session)
  | (.error .crash, session) => (.error .crash, session)
  | (.error (.failure _), session) =>
    let session := session.tellLines
      ["", Terminal.tinted .yellow s!"⚠ {toolName} not found. Installing...", ""]
    match install machine session (thisHost session) with
    | (.error stop, session) => (.error stop, session)
    | (.ok (), session) =>
      match version machine session toolName with
      | (.ok version, session) => (.ok version, session)
      | (.error .crash, session) => (.error .crash, session)
      | (.error (.failure _), session) =>
        (.error (.failure (.toolStillMissing toolName)), session)

/-- What the user is told when the tool cannot be installed. -/
def manualInstructions : List String := [
  "Please install librsvg manually:",
  "  macOS:          brew install librsvg",
  "  Ubuntu/Debian:  sudo apt-get install librsvg2-bin",
  "  Fedora:         sudo dnf install librsvg2-tools",
  "  Other:          install librsvg from your package manager"]

end SlidePress.Installation
