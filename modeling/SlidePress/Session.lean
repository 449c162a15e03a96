import SlidePress.Deck.Building
import SlidePress.Failure
import SlidePress.File.Tree

/-!
What a run of the program has to do with: the files, the clock, and what it has done so far that
can be seen from outside.
-/

namespace SlidePress

/-- A program to be started with its arguments. -/
structure Command where
  program : String
  arguments : List String := []
  /-- How long it may take, in milliseconds. -/
  timeout : Nat := 30000
  /-- Whether its output is kept; otherwise it goes where that of this program goes. -/
  captured : Bool := true
  deriving DecidableEq, Repr

/-- What can be seen of a run while it goes on. -/
inductive Event where
  /-- A text has been written to standard output. -/
  | told (text : String)
  /-- A program has written to the standard output of this one. -/
  | relayed (bytes : ByteArray)
  /-- A program is about to be started. -/
  | launched (command : Command)
  /-- A program that took too long has been killed and its end has been waited for. -/
  | killed (command : Command)

/-- The state of a run. -/
structure Session where
  tree : FileTree
  /-- Milliseconds since the clock began. -/
  clock : Nat := 0
  log : List Event := []

namespace Session

def note (session : Session) (event : Event) : Session :=
  { session with log := session.log ++ [event] }

def tell (session : Session) (text : String) : Session :=
  session.note (.told text)

def tellLines (session : Session) (lines : List String) : Session :=
  lines.foldl (fun session line => session.tell (line ++ "\n")) session

def standardOutput (session : Session) : ByteArray :=
  session.log.foldl (fun bytes event =>
    match event with
    | .told text => bytes ++ text.toUTF8
    | .relayed more => bytes ++ more
    | .launched _ | .killed _ => bytes) .empty

/-- The programs that have been started, in order. -/
def launches (session : Session) : List Command :=
  session.log.filterMap fun
    | .launched command => some command
    | _ => none

end Session

end SlidePress
