import SlidePress.Decimal.Shortest
import SlidePress.File.Fault
import SlidePress.File.Path
import SlidePress.Glob.Pattern
import SlidePress.Text.Quoted

/-!
Why the program stops short, and what it says then. The causes are those of its own work; what
the system refuses comes in as a fault.
-/

namespace SlidePress

/-- How a process that is over has ended. -/
inductive Ending where
  | exited (code : Nat)
  | killed (signal : Nat)
  deriving DecidableEq, Repr

/-- Why the program stops short. -/
inductive Failure where
  | system (fault : Fault)
  | pathNotFound (path : Path)
  | notFile (path : Path)
  | notFolder (path : Path)
  /-- A folder cannot be made because something else is there. -/
  | occupied (path : Path)
  | noAbsolutePath (path : Path) (fault : Fault)
  | badPattern (error : Glob.SyntaxError)
  | noFilesFound (pattern : String)
  | noDimensions (width height : Nat)
  | badScale (scale : Float32)
  /-- A drawing that is no picture, or a picture that is not written; what makes pictures says why. -/
  | drawing (path : Path) (trouble : String)
  | toolNotFound (program : String)
  /-- A tool that is not there even after it has been installed. -/
  | toolStillMissing (program : String)
  | timeout (program : String) (seconds : Nat)
  | command (program : String) (ending : Ending) (errors : String)
  | noInstallation (host : String)
  | noManager (program manager : String)
  | notInstalled (product : String) (cause : Failure)
  /-- What the program has told is not taken; the system says why. -/
  | untold (trouble : String)
  deriving Repr

/-- Why a run does not go on. -/
inductive Stop where
  | failure (failure : Failure)
  /-- The program itself has broken down. -/
  | crash

namespace Ending

def succeeded (ending : Ending) : Bool :=
  ending == .exited 0

def signalNames : List String := [
  "HUP", "INT", "QUIT", "ILL", "TRAP", "ABRT", "BUS", "FPE", "KILL", "USR1", "SEGV", "USR2",
  "PIPE", "ALRM", "TERM", "STKFLT", "CHLD", "CONT", "STOP", "TSTP", "TTIN", "TTOU", "URG", "XCPU",
  "XFSZ", "VTALRM", "PROF", "WINCH", "IO", "PWR", "SYS"]

def text : Ending → String
  | .exited code => s!"exit status: {code}"
  | .killed signal =>
    match signal with
    | 0 => "signal: 0"
    | place + 1 =>
      match signalNames[place]? with
      | some name => s!"signal: {signal} (SIG{name})"
      | none => s!"signal: {signal}"

end Ending

namespace Failure

/-- What is wrong with something that was asked for. -/
def invalid (reason : String) : String :=
  "Input validation error: " ++ reason

def message : Failure → String
  | .system fault => "Failed to read file: " ++ fault.message
  | .pathNotFound path => "Path not found: " ++ path.text
  | .notFile path => invalid ("Path is not a file: " ++ Text.quoted path.text)
  | .notFolder path => invalid ("Path is not a directory: " ++ Text.quoted path.text)
  | .occupied path => invalid ("Path exists but is not a directory: " ++ Text.quoted path.text)
  | .noAbsolutePath path fault =>
    invalid ("Failed to get absolute path for " ++ Text.quoted path.text ++ ": " ++ fault.message)
  | .badPattern error => invalid ("Invalid glob pattern: " ++ error.message)
  | .noFilesFound pattern => "No files found matching pattern: " ++ pattern
  | .noDimensions width height =>
    s!"Configuration error: Output dimensions must be positive, got {width}x{height}"
  | .badScale scale =>
    "Configuration error: Scale must be a positive number, got " ++ Decimal.float32Text scale
  | .drawing path trouble => "SVG rendering error: " ++ path.text ++ ": " ++ trouble
  | .toolNotFound program => s!"`{program}` not found on PATH"
  | .toolStillMissing program =>
    s!"`{program} (still missing after installation)` not found on PATH"
  | .timeout program seconds => s!"Timeout error: `{program}` did not finish within {seconds}s"
  | .command program ending errors => s!"`{program}` exited with status {ending.text}: {errors}"
  | .noInstallation host => s!"Installation failed: no automatic installation for {host}"
  | .noManager program manager =>
    s!"Installation failed: {program} not found. Install {manager} first " ++
      "(https://brew.sh), then run this command again."
  | .notInstalled product cause =>
    s!"Installation failed: failed to install {product}: " ++ cause.message
  | .untold trouble => trouble

end Failure

end SlidePress
