import SlidePress.File.Lookup
import SlidePress.Text.Blank

/-!
The kinds of systems that the program knows, as far as the choice of a package manager needs them.
A Linux system is known by the first entry for its name in the description of its release, unless
its kernel says that it runs inside another system.
-/

namespace SlidePress

/-- A kind of system. -/
inductive Host where
  | macOS
  /-- Linux inside Windows. -/
  | subsystem
  | ubuntu
  | debian
  /-- Fedora and its relatives. -/
  | fedora
  /-- A Linux system of a kind that is not known. -/
  | linux
  | windows
  | unknown
  deriving DecidableEq, Repr

namespace Host

/-- The name of the kind of system for people. -/
def label : Host → String
  | .macOS => "macOS"
  | .subsystem => "Windows Subsystem for Linux (WSL)"
  | .ubuntu => "Ubuntu"
  | .debian => "Debian"
  | .fedora => "Fedora/RHEL/CentOS"
  | .linux => "Linux"
  | .windows => "Windows"
  | .unknown => "unknown"

def nameKey : List Char := ['I', 'D', '=']

/-- The name in the first entry for it; spaces and quotes around the name do not belong to it. -/
def releaseName? (lines : List (List Char)) : Option (List Char) :=
  (lines.findSome? (Text.after? nameKey)).map fun value =>
    Text.trimMatching '"' (Text.trim value)

def ofName? (name : String) : Option Host :=
  if name = "ubuntu" then some .ubuntu
  else if name = "debian" then some .debian
  else if name ∈ ["fedora", "rhel", "centos"] then some .fedora
  else none

def ofRelease? (description : String) : Option Host :=
  (releaseName? (Text.lines description.toList)).bind fun name => ofName? (String.ofList name)

/-- What the kernel says about itself inside Windows, in small letters. -/
def subsystemMark : String := "microsoft"

/-- Whether the kernel runs inside Windows. The mark has ASCII letters only, so that no other
letters have to be made small. -/
def runsInWindows (kernel : String) : Bool :=
  Text.occursIn subsystemMark.toList (kernel.toList.map Char.toLower)

/-- The kind of a Linux system by what its kernel says and by the description of its release,
either of which may be missing. -/
def ofLinux (kernel release : Option String) : Host :=
  if kernel.any runsInWindows then .subsystem
  else (release.bind ofRelease?).getD .linux

/-- The kind of a Linux system by its two files; one that cannot be read is missing. -/
def detect (tree : FileTree) (kernel release : Path) : Host :=
  ofLinux (tree.readText kernel).toOption (tree.readText release).toOption

end Host

end SlidePress
