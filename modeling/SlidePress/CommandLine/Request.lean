import SlidePress.CommandLine.Item
import SlidePress.Decimal.Binary
import SlidePress.File.Path

/-!
What a command line asks for. Nothing can be given twice, and what is asked for first counts: a
question for help or for the version is answered unless a mistake stands in front of it.
-/

namespace SlidePress.CommandLine

/-- What is said about a deck to be made. -/
structure GenerateRequest where
  input : Option Path := none
  output : Option Path := none
  title : Option String := none
  footer : Option String := none
  deriving DecidableEq, Repr

/-- What is said about drawings to be converted. -/
structure ConvertRequest where
  width : Option Nat := none
  height : Option Nat := none
  pattern : Option String := none
  folder : Option Path := none
  native : Bool := false
  scale : Option Float32 := none
  deriving Repr

inductive Request where
  | generate (request : GenerateRequest)
  | convert (request : ConvertRequest)
  /-- No command is given. -/
  | nothing
  | version
  | help
  /-- The command line cannot be understood. -/
  | mistake
  deriving Repr

/-- A value for something that has none yet. -/
def givenOnce? (old : Option α) (new : Option α) : Option (Option α) :=
  if old.isSome then none else new.map some

/-- A path that is given as a value, which is never empty. -/
def pathValue? (value : String) : Option Path :=
  if value.isEmpty then none else some ⟨value⟩

/-- The largest number of pixels that can be written. -/
def largestSide : Nat := Nat.pow 2 32 - 1

/-- A number of pixels. Zero can have a sign of either kind. -/
def sideValue? (value : String) : Option Nat :=
  match value.toList with
  | '-' :: digits => (Decimal.digits? digits).filter (· = 0)
  | _ => Decimal.readNat? largestSide value

def commonSwitch? (verbose : Bool) : Switch → Option (Request ⊕ Bool)
  | .help => some (.inl .help)
  | .verbose => if verbose then none else some (.inr true)
  | .version | .native => none

namespace GenerateRequest

def vocabulary : Vocabulary where
  switches := [("verbose", .verbose), ("help", .help)]
  settings := [("input", .input), ("output", .output), ("title", .title), ("footer", .footer)]
  switchLetters := [('v', .verbose), ('h', .help)]
  settingLetters := [('i', .input), ('o', .output)]

def set? (request : GenerateRequest) (setting : Setting) (value : String) :
    Option GenerateRequest :=
  match setting with
  | .input => (givenOnce? request.input (pathValue? value)).map ({ request with input := · })
  | .output => (givenOnce? request.output (pathValue? value)).map ({ request with output := · })
  | .title => (givenOnce? request.title (some value)).map ({ request with title := · })
  | .footer => (givenOnce? request.footer (some value)).map ({ request with footer := · })
  | .dir | .scale => none

def ofItems (request : GenerateRequest) : (verbose : Bool) → List Item → Request
  | _, [] => .generate request
  | verbose, .switch switch :: items =>
    match commonSwitch? verbose switch with
    | some (.inl answer) => answer
    | some (.inr verbose) => request.ofItems verbose items
    | none => .mistake
  | verbose, .setting setting value :: items =>
    match request.set? setting value with
    | some request => request.ofItems verbose items
    | none => .mistake
  | _, .argument _ :: _ | _, .command .. :: _ | _, .mistake :: _ => .mistake

end GenerateRequest

namespace ConvertRequest

def vocabulary : Vocabulary where
  switches := [("verbose", .verbose), ("help", .help), ("native", .native)]
  settings := [("dir", .dir), ("scale", .scale)]
  switchLetters := [('v', .verbose), ('h', .help)]
  settingLetters := []

def set? (request : ConvertRequest) (setting : Setting) (value : String) :
    Option ConvertRequest :=
  match setting with
  | .dir => (givenOnce? request.folder (pathValue? value)).map ({ request with folder := · })
  | .scale => (givenOnce? request.scale (Decimal.readFloat32? value)).map
      ({ request with scale := · })
  | .input | .output | .title | .footer => none

/-- The request with one more plain argument: the width, the height and the pattern, in this
order. -/
def add? (request : ConvertRequest) (value : String) : Option ConvertRequest :=
  if request.width.isNone then
    (sideValue? value).map fun width => { request with width := some width }
  else if request.height.isNone then
    (sideValue? value).map fun height => { request with height := some height }
  else if request.pattern.isNone then some { request with pattern := some value }
  else none

/-- The request that items add up to. A scale is for the program itself only. -/
def ofItems (request : ConvertRequest) : (verbose : Bool) → List Item → Request
  | _, [] => if request.scale.isSome && !request.native then .mistake else .convert request
  | verbose, .switch switch :: items =>
    if switch = .native then
      if request.native then .mistake else { request with native := true }.ofItems verbose items
    else
      match commonSwitch? verbose switch with
      | some (.inl answer) => answer
      | some (.inr verbose) => request.ofItems verbose items
      | none => .mistake
  | verbose, .setting setting value :: items =>
    match request.set? setting value with
    | some request => request.ofItems verbose items
    | none => .mistake
  | verbose, .argument value :: items =>
    match request.add? value with
    | some request => request.ofItems verbose items
    | none => .mistake
  | _, .command .. :: _ | _, .mistake :: _ => .mistake

end ConvertRequest

namespace Request

def vocabulary : Vocabulary where
  switches := [("verbose", .verbose), ("version", .version), ("help", .help)]
  settings := []
  switchLetters := [('v', .verbose), ('V', .version), ('h', .help)]
  settingLetters := []
  hasCommands := true

def generateName : String := "generate-pptx"
def convertName : String := "svg-to-png"

def ofCommand (name : String) (arguments : List String) : Request :=
  if name = generateName then
    GenerateRequest.ofItems {} false (items GenerateRequest.vocabulary arguments)
  else if name = convertName then
    ConvertRequest.ofItems {} false (items ConvertRequest.vocabulary arguments)
  else if name = "help" then
    match arguments with
    | [] => .help
    | [topic] => if topic ∈ [generateName, convertName, "help"] then .help else .mistake
    | _ => .mistake
  else .mistake

def ofItems : (verbose : Bool) → List Item → Request
  | _, [] => .nothing
  | verbose, .switch switch :: items =>
    if switch = .version then .version
    else
      match commonSwitch? verbose switch with
      | some (.inl answer) => answer
      | some (.inr verbose) => ofItems verbose items
      | none => .mistake
  | _, .command name arguments :: _ => ofCommand name arguments
  | _, .setting .. :: _ | _, .argument _ :: _ | _, .mistake :: _ => .mistake

def ofArguments (arguments : List String) : Request :=
  ofItems false (items vocabulary arguments)

end Request

end SlidePress.CommandLine
