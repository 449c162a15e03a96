import SlidePress.Shell.Printing
import SlidePress.Shell.State
import SlidePress.Shell.Substitution

/-!
What the utilities of the system do, as far as tools make use of them.
-/

namespace SlidePress.Shell

namespace State

def writeBytes (state : State) (bytes : List UInt8) : State :=
  state.write ⟨bytes.toArray⟩

/-- The bytes of the files, or of the input when there is none. What cannot be read is complained
about in the name of the utility. -/
def gather (state : State) (utility : String) (limit : Nat) (files : List String) :
    State × List UInt8 :=
  if files.isEmpty then ({ state with input := [], status := 0 }, state.input)
  else
    files.foldl (fun (state, bytes) file =>
      if file = "-" then ({ state with input := [] }, bytes ++ state.input)
      else
        match state.readFile file limit with
        | .ok data => (state, bytes ++ data.toList)
        | .error fault => (state.refuse s!"{utility}: {file}: {faultText fault}", bytes))
      (state.withStatus 0, [])

def cat (state : State) (arguments : List String) : State :=
  let (state, bytes) := state.gather "cat" 0 arguments
  state.writeBytes bytes

def head (state : State) (arguments : List String) : State :=
  let take (bytesWanted : Option Nat) (linesWanted : Nat) (files : List String) : State :=
    let (state, bytes) := state.gather "head" (bytesWanted.getD 0) files
    match bytesWanted with
    | some count => state.writeBytes (bytes.take count)
    | none =>
      let ends := (bytes.zipIdx.filter (·.1 = 10)).map (·.2 + 1)
      state.writeBytes (match linesWanted with
        | 0 => []
        | count + 1 =>
          match ends[count]? with
          | some place => bytes.take place
          | none => bytes)
  match arguments with
  | "-c" :: count :: files => take (some (count.toNat?.getD 0)) 0 files
  | "-n" :: count :: files => take none (count.toNat?.getD 0) files
  | files => take none 10 files

def exchange (state : State) (arguments : List String) : State :=
  let set (text : String) : List Char :=
    let plain := (Text.readLossy (unescaped false 0 text.toList).1)
    spelledSet (plain.length + 1) plain
  let input := state.input
  let state := { state with input := [], status := 0 }
  let ascii (byte : UInt8) : Bool := byte < 0x80
  match arguments with
  | ["-d", old] =>
    state.writeBytes (input.filter fun byte => !(ascii byte && Char.ofNat byte.toNat ∈ set old))
  | [old, new] =>
    state.writeBytes (input.flatMap fun byte =>
      if ascii byte then charBytes (exchanged (set old) (set new) (Char.ofNat byte.toNat))
      else [byte])
  | _ => state.refuse "tr: missing operand"

def stream (state : State) (arguments : List String) : State :=
  let arguments := if arguments.head? = some "-e" then arguments.drop 1 else arguments
  match arguments with
  | [] => state.refuse "Usage: sed [OPTION]... \x7bscript-only-if-no-other-script\x7d [input-file]..."
  | order :: files =>
    let (state, bytes) := state.gather "sed" 0 files
    match substitute? order.toList (Text.readLossy bytes) with
    | some text => state.writeBytes (textBytes text)
    | none => state.refuse s!"sed: -e expression #1, char 1: unknown command: `{order.take 1}'"

def lastName (path : String) : String :=
  ((Path.mk path).name?).getD path

def copy (state : State) (arguments : List String) : State :=
  match arguments with
  | [source, target] =>
    let target := if state.tree.isFolder ⟨target⟩ then
      (Path.join ⟨target⟩ ⟨lastName source⟩).text else target
    match state.tree.locate ⟨source⟩ with
    | .error fault => state.refuse s!"cp: cannot stat '{source}': {faultText fault}"
    | .ok place =>
      match state.tree.find? place with
      | some (.file content runnable) =>
        match state.tree.write ⟨target⟩ content with
        | .error fault =>
          state.refuse s!"cp: cannot create regular file '{target}': {faultText fault}"
        | .ok tree =>
          let isNew := !state.tree.holds ⟨target⟩
          match tree.locate ⟨target⟩ with
          | .ok made =>
            let tree := if isNew then tree.put made (.file content runnable) else tree
            { state with tree, status := 0 }
          | .error _ => { state with tree, status := 0 }
      | some (.device _) => state.withStatus 0
      | _ => state.refuse s!"cp: -r not specified; omitting directory '{source}'"
  | [] => state.refuse "cp: missing file operand"
  | _ => state.refuse "cp: missing destination file operand"

def touch (state : State) (files : List String) : State :=
  files.foldl (fun state file =>
    if state.tree.holds ⟨file⟩ then state
    else
      match state.tree.write ⟨file⟩ (.bytes .empty) with
      | .ok tree => { state with tree }
      | .error fault => state.refuse s!"touch: cannot touch '{file}': {faultText fault}")
    (state.withStatus 0)

/-- Makes folders, with those on the way if that is asked for. -/
def makeFolders (state : State) (arguments : List String) : State :=
  let withParents := "-p" ∈ arguments
  (arguments.filter (· ≠ "-p")).foldl (fun state folder =>
    let (tree, fault?) := if withParents then state.tree.makePath ⟨folder⟩
      else
        match state.tree.makeFolder ⟨folder⟩ with
        | .ok tree => (tree, none)
        | .error fault => (state.tree, some fault)
    let state := { state with tree }
    match fault? with
    | none => state
    | some fault =>
      state.refuse s!"mkdir: cannot create directory '{folder}': {faultText fault}")
    (state.withStatus 0)

def removeFiles (state : State) (arguments : List String) : State :=
  let flags := (arguments.filter (·.startsWith "-")).flatMap String.toList
  (arguments.filter (!·.startsWith "-")).foldl (fun state file =>
    match state.tree.locate ⟨file⟩ with
    | .error fault =>
      if 'f' ∈ flags then state
      else state.refuse s!"rm: cannot remove '{file}': {faultText fault}"
    | .ok place =>
      if state.tree.isFolder ⟨file⟩ ∧ 'r' ∉ flags ∧ 'R' ∉ flags then
        state.refuse s!"rm: cannot remove '{file}': Is a directory"
      else
        let kept := state.tree.entries.filter fun (found, _) => !place.isPrefixOf found
        { state with tree := { state.tree with entries := kept } })
    (state.withStatus 0)

/-- The milliseconds that an argument of seconds, minutes or hours spells. -/
def duration? (argument : String) : Option Nat :=
  let text := argument.toList
  let (number, unit) := match text.getLast? with
    | some 's' => (text.dropLast, 1000)
    | some 'm' => (text.dropLast, 60000)
    | some 'h' => (text.dropLast, 3600000)
    | _ => (text, 1000)
  let (whole, rest) := Decimal.spanDigits number
  match rest with
  | [] => if whole.isEmpty then none else some (Decimal.ofDigits whole * unit)
  | '.' :: part =>
    if part.all Char.isDigit ∧ !(whole ++ part).isEmpty then
      some (Decimal.ofDigits (whole ++ part) * unit / Nat.pow 10 part.length)
    else none
  | _ => none

def sleep (state : State) (arguments : List String) : State :=
  match arguments with
  | [] => state.refuse "sleep: missing operand"
  | _ =>
    match arguments.find? fun argument => (duration? argument).isNone with
    | some wrong => state.refuse s!"sleep: invalid time interval '{wrong}'"
    | none => (state.withStatus 0).pass ((arguments.filterMap duration?).foldl (· + ·) 0)

def printFormat (state : State) (arguments : List String) : State :=
  match arguments with
  | [] => state.refuse "printf: usage: printf format [arg ...]"
  | format :: arguments =>
    let bytes := formatted format.toList (arguments.length + 1) (arguments.map String.toList)
    (state.writeBytes bytes).withStatus 0

def workingFolder (state : State) : State :=
  (state.print ((Location.path state.tree.here).text ++ "\n")).withStatus 0

def applyUtility (state : State) (utility : Utility) (arguments : List String) : State :=
  match utility with
  | .sh | .true => state.withStatus 0
  | .false => state.withStatus 1
  | .echo => (state.writeBytes (echoedPlain arguments)).withStatus 0
  | .printf => state.printFormat arguments
  | .cat => state.cat arguments
  | .cp => state.copy arguments
  | .sleep => state.sleep arguments
  | .head => state.head arguments
  | .tr => state.exchange arguments
  | .sed => state.stream arguments
  | .pwd => state.workingFolder
  | .touch => state.touch arguments
  | .mkdir => state.makeFolders arguments
  | .rm => state.removeFiles arguments

end State

end SlidePress.Shell
