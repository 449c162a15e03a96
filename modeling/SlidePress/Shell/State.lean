import SlidePress.File.Change
import SlidePress.Failure
import SlidePress.Text.Utf8

/-!
The state of a command interpreter while it works, and reading and writing through it.
-/

namespace SlidePress.Shell

/-- Where something is written to. -/
inductive Sink where
  /-- One of the buffers that collect what is read elsewhere. -/
  | buffer (number : Nat)
  | file (place : Location)
  | nowhere
  deriving DecidableEq

/-- Why a script does not go on. -/
inductive Halt where
  | ended (ending : Ending)
  /-- Nobody has waited long enough. -/
  | outOfTime
  deriving DecidableEq

structure State where
  tree : FileTree
  /-- Milliseconds since the first program was started. -/
  elapsed : Nat := 0
  /-- The moment after which nobody waits any more, if there is one. -/
  limit : Option Nat := none
  /-- What has been collected; the first two buffers are the two outputs of the whole. -/
  buffers : List ByteArray := [.empty, .empty]
  output : Sink := .buffer 0
  errors : Sink := .buffer 1
  input : List UInt8 := []
  /-- Where programs are looked for. -/
  folders : List Path
  /-- What the script is called by, and its other parameters. -/
  name : String := "sh"
  arguments : List String := []
  assigned : List (String × String) := []
  /-- The number of the process. -/
  process : Nat := 100
  status : Nat := 0
  halt : Option Halt := none

namespace State

def isHalted (state : State) : Bool :=
  state.halt.isSome

def writeTo (state : State) (sink : Sink) (bytes : ByteArray) : State :=
  match sink with
  | .nowhere => state
  | .buffer number =>
    { state with buffers := state.buffers.modify number (· ++ bytes) }
  | .file place =>
    match state.tree.find? place with
    | some (.file content runnable) =>
      let tree := state.tree.put place (.file (.bytes (content.data ++ bytes)) runnable)
      { state with tree }
    | _ => state

def write (state : State) (bytes : ByteArray) : State :=
  state.writeTo state.output bytes

def print (state : State) (text : String) : State :=
  state.write text.toUTF8

def complain (state : State) (text : String) : State :=
  state.writeTo state.errors (text ++ "\n").toUTF8

def withStatus (state : State) (status : Nat) : State :=
  { state with status }

def withTruth (state : State) (truth : Bool) : State :=
  state.withStatus (if truth then 0 else 1)

def refuse (state : State) (text : String) : State :=
  (state.complain text).withStatus 1

/-- Lets time pass, unless nobody waits for so long. -/
def pass (state : State) (milliseconds : Nat) : State :=
  let elapsed := state.elapsed + milliseconds
  match state.limit with
  | some limit =>
    if limit < elapsed then { state with elapsed := limit, halt := some .outOfTime }
    else { state with elapsed }
  | none => { state with elapsed }

def hang (state : State) : State :=
  { state with halt := some .outOfTime }

def exit (state : State) (code : Nat) : State :=
  { state with status := code % 256, halt := some (.ended (.exited (code % 256))) }

/-- What a signal does to the process that it is sent to: most end it, some stop it, and some are
not noticed. -/
def receive (state : State) (signal : Nat) : State :=
  if signal ∈ [0, 17, 18, 23, 28] then state.withStatus 0
  else if signal ∈ [19, 20, 21, 22] then state.hang
  else { state with halt := some (.ended (.killed signal)) }

def setVariable (state : State) (name value : String) : State :=
  { state with assigned := (name, value) :: state.assigned.filter (·.1 ≠ name) }

def openBuffer (state : State) : State × Nat :=
  ({ state with buffers := state.buffers ++ [.empty] }, state.buffers.length)

def buffer (state : State) (number : Nat) : ByteArray :=
  state.buffers.getD number .empty

def faultText : Fault → String
  | .notFound => "No such file or directory"
  | .badProgram => "Exec format error"
  | .denied => "Permission denied"
  | .alreadyThere => "File exists"
  | .notFolder => "Not a directory"
  | .isFolder => "Is a directory"
  | .nameTooLong => "File name too long"
  | fault => fault.message

/-- The bytes of a file, of which at most `limit` are needed. -/
def readFile (state : State) (path : String) (limit : Nat) : Except Fault ByteArray :=
  match state.tree.entry? ⟨path⟩ with
  | some (.device .zero) => .ok ⟨(List.replicate limit 0).toArray⟩
  | _ => (state.tree.read ⟨path⟩).map Content.data

end State

end SlidePress.Shell
