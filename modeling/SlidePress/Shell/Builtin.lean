import SlidePress.Shell.Script
import SlidePress.Shell.Utility

/-!
The commands that the interpreter carries out itself, save for those that run other commands.
-/

namespace SlidePress.Shell

namespace State

def compareNumbers? (relation : String) (a b : Int) : Option Bool :=
  match relation with
  | "-eq" => some (a == b)
  | "-ne" => some (a != b)
  | "-lt" => some (decide (a < b))
  | "-le" => some (decide (a ≤ b))
  | "-gt" => some (decide (b < a))
  | "-ge" => some (decide (b ≤ a))
  | _ => none

def holdsFor? (state : State) (question argument : String) : Option Bool :=
  match question with
  | "-n" => some (!argument.isEmpty)
  | "-z" => some argument.isEmpty
  | "-e" => some (state.tree.holds ⟨argument⟩)
  | "-f" => some (state.tree.isFile ⟨argument⟩)
  | "-d" => some (state.tree.isFolder ⟨argument⟩)
  | "-r" | "-w" => some (state.tree.holds ⟨argument⟩)
  | "-s" => some (((state.tree.read ⟨argument⟩).toOption.map Content.size).any (0 < ·))
  | "-x" =>
    some (match state.tree.entry? ⟨argument⟩ with
      | some (.file _ runnable) => runnable
      | some .folder => true
      | _ => false)
  | _ => none

/-- The truth of a test, if it makes sense. -/
def test? (state : State) : List String → Option Bool
  | [] => some false
  | ["!"] => some true
  | "!" :: arguments => (state.test? arguments).map (!·)
  | [argument] => some (!argument.isEmpty)
  | [question, argument] => state.holdsFor? question argument
  | [a, relation, b] =>
    match relation with
    | "=" => some (a == b)
    | "!=" => some (a != b)
    | _ => compareNumbers? relation (argumentNumber a.toList) (argumentNumber b.toList)
  | _ => none

def test (state : State) (arguments : List String) : State :=
  match state.test? arguments with
  | some truth => state.withTruth truth
  | none => (state.complain s!"{state.name}: 1: test: unexpected operator").withStatus 2

/-- Reads a line into variables; the last one gets all that is left. -/
def readLine (state : State) (names : List String) : State :=
  let names := names.filter (· ≠ "-r")
  let line := state.input.takeWhile (· ≠ 10)
  let rest := state.input.drop (line.length + 1)
  let complete := line.length < state.input.length
  let words := (Text.readLossy line).splitBy fun a b => (a == ' ') == (b == ' ')
  let words := words.filter fun word => !word.all (· == ' ')
  let set := names.zipIdx.foldl (fun (state : State) (name, place) =>
    let value := if place + 1 = names.length then List.intercalate [' '] (words.drop place)
      else words.getD place []
    state.setVariable name (String.ofList value)) state
  { set with input := rest, status := if complete then 0 else 1 }

def signalNumber? (text : String) : Option Nat :=
  match text.toNat? with
  | some number => some number
  | none =>
    let name := if text.startsWith "SIG" then (text.drop 3).toString else text
    (Ending.signalNames.idxOf? name).map (· + 1)

/-- Sends a signal; only the interpreter itself is there to receive it. -/
def sendSignal (state : State) (arguments : List String) : State :=
  let (signal, targets) := match arguments with
    | "-s" :: name :: targets => (signalNumber? name, targets)
    | first :: targets =>
      if first.startsWith "-" then (signalNumber? (first.drop 1).toString, targets)
      else (some 15, arguments)
    | [] => (none, [])
  match signal, targets with
  | some signal, [target] =>
    if target = toString state.process then state.receive signal
    else state.refuse s!"{state.name}: 1: kill: No such process"
  | _, _ => (state.complain s!"{state.name}: 1: kill: Illegal option").withStatus 2

def changeFolder (state : State) (arguments : List String) : State :=
  match arguments with
  | [folder] =>
    match state.tree.locate ⟨folder⟩ with
    | .ok place =>
      if state.tree.isFolder ⟨folder⟩ then
        { state with tree := { state.tree with here := place }, status := 0 }
      else (state.complain s!"{state.name}: 1: cd: can't cd to {folder}").withStatus 2
    | .error _ => (state.complain s!"{state.name}: 1: cd: can't cd to {folder}").withStatus 2
  | _ => state.withStatus 0

def exportAll (state : State) (arguments : List String) : State :=
  arguments.foldl (fun state argument =>
    let text := argument.toList
    match text.dropWhile isNameChar with
    | '=' :: value =>
      state.setVariable (String.ofList (text.takeWhile isNameChar)) (String.ofList value)
    | _ => state) (state.withStatus 0)

/-- Ends with the status that is given, or else with that of the last command. -/
def leaveWith (state : State) (arguments : List String) : State :=
  match arguments with
  | [] => state.exit state.status
  | code :: _ =>
    match Decimal.digits? code.toList with
    | some code => state.exit code
    | none => (state.complain s!"{state.name}: 1: exit: Illegal number: {code}").exit 2

/-- What a command does that the interpreter carries out itself; other names have nothing here. -/
def builtin? (state : State) (name : String) (arguments : List String) : Option State :=
  match name with
  | ":" | "true" | "trap" | "ulimit" | "set" | "umask" | "wait" => some (state.withStatus 0)
  | "false" => some (state.withStatus 1)
  | "exit" => some (state.leaveWith arguments)
  | "echo" => some ((state.writeBytes (echoed arguments)).withStatus 0)
  | "printf" => some (state.printFormat arguments)
  | "test" => some (state.test arguments)
  | "[" =>
    some (if arguments.getLast? = some "]" then state.test arguments.dropLast
      else (state.complain s!"{state.name}: 1: [: missing ]").withStatus 2)
  | "read" => some (state.readLine arguments)
  | "kill" => some (state.sendSignal arguments)
  | "cd" => some (state.changeFolder arguments)
  | "pwd" => some state.workingFolder
  | "export" => some (state.exportAll arguments)
  | "shift" =>
    let count := ((arguments.head?).bind (·.toNat?)).getD 1
    some { state with arguments := state.arguments.drop count, status := 0 }
  | _ => none

end State

end SlidePress.Shell
