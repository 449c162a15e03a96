import SlidePress.Shell.Interpreter
import SlidePress.Svg.Render

/-!
The machine on which programs are scripts and utilities. Its programs do the same at all times: what
they do depends on the files and on their arguments only. Pictures are left blank, and all that is told
is taken.
-/

namespace SlidePress.Shell

/-- How deep commands may be nested in each other, the rounds of a loop included. -/
def depth : Nat := 5000

namespace State

/-- When and how a process ends that has come to this state; everything takes some time. -/
def processEnding? (state : State) : Option (Nat × Ending) :=
  match state.halt with
  | none => some (state.elapsed + 1, .exited state.status)
  | some (.ended ending) => some (state.elapsed + 1, ending)
  | some .outOfTime => none

def snapshot (before : FileTree) (state : State) : Snapshot where
  tree := { state.tree with here := before.here }
  output := state.buffer 0
  errors := state.buffer 1

end State

def process (tree : FileTree) (folders : List Path) (utility : Utility)
    (arguments : List String) : Process :=
  let upTo (limit : Option Nat) : State :=
    State.spawn depth { tree, folders, limit } utility arguments
  { ending? := (upTo none).processEnding?
    after := fun moment => (upTo (some moment)).snapshot tree }

def longestArgument : Nat := 131071

def machine (folders : List Path) : Machine where
  start session command :=
    if (command.program :: command.arguments).any (·.contains '\x00') then .error .nulInCommand
    else
      match findProgram session.tree folders command.program with
      | .error fault => .error fault
      | .ok (utility, first) =>
        if command.arguments.any (longestArgument < ·.utf8ByteSize) then .error .argumentTooLong
        else .ok (process session.tree folders utility (first ++ command.arguments))
  renderer := Svg.renderer

end SlidePress.Shell
