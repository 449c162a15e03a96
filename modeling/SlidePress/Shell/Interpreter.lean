import SlidePress.Shell.Builtin
import SlidePress.Shell.Expansion
import SlidePress.Shell.Lookup
import SlidePress.Shell.Reading

/-!
Carrying out scripts. A script may never come to an end, so that all functions here go on only as
far as their fuel does; without fuel the script hangs.
-/

namespace SlidePress.Shell

namespace State

def valueOf (state : State) (name : List Char) : String :=
  let text := String.ofList name
  match text with
  | "?" => toString state.status
  | "#" => toString state.arguments.length
  | "$" => toString state.process
  | "*" | "@" => " ".intercalate state.arguments
  | "0" => state.name
  | "PATH" => (state.assigned.lookup text).getD (":".intercalate (state.folders.map (·.text)))
  | "PWD" => (state.assigned.lookup text).getD (Location.path state.tree.here).text
  | _ =>
    match text.toNat? with
    | some number => state.arguments.getD (number - 1) ""
    | none => (state.assigned.lookup text).getD ""

def knownValue (state : State) (name : List Char) (quoted : Bool) : Known :=
  if name = ['@'] ∧ quoted then .parameters (state.arguments.map String.toList)
  else .inserted (state.valueOf name).toList quoted

/-- What a script without a state of its own leaves behind: its files, what it wrote, and its
status. -/
def leave (before after : State) : State :=
  let tree := { after.tree with here := before.tree.here }
  let kept := { before with
    tree, elapsed := after.elapsed, buffers := after.buffers, input := after.input
    status := after.status, halt := after.halt }
  match after.halt with
  | some (.ended (.exited code)) => { kept with status := code, halt := none }
  | _ => kept

/-- What another process leaves behind. A signal that it got is only a status here. -/
def leaveProcess (before after : State) : State :=
  let left := leave before after
  match after.halt with
  | some (.ended (.killed signal)) => { left with status := 128 + signal, halt := none }
  | _ => left

def becomeProcess (before after : State) : State :=
  { leave before after with halt := some (after.halt.getD (.ended (.exited after.status))) }

/-- The text that a buffer holds, without line feeds at its end. -/
def bufferText (state : State) (number : Nat) : List Char :=
  ((Text.readLossy (state.buffer number).toList).reverse.dropWhile (· = '\n')).reverse

def openOutput (state : State) (path : String) (append : Bool) : Except Fault (State × Sink) :=
  match state.tree.entry? ⟨path⟩ with
  | some (.device _) => .ok (state, .nowhere)
  | some (.file ..) | none =>
    let content := if append then (state.tree.read ⟨path⟩).toOption.getD (.bytes .empty)
      else .bytes .empty
    match state.tree.write ⟨path⟩ content with
    | .error fault => .error fault
    | .ok tree => (tree.locate ⟨path⟩).map fun place => ({ state with tree }, .file place)
  | some .folder => .error .isFolder

/-- What an interpreter says about a file that it cannot write to. -/
def cannotCreate : Fault → String
  | .notFound => "Directory nonexistent"
  | fault => faultText fault

def redirectOutput (state : State) (number : Nat) (path : String) (append : Bool) :
    Except State State :=
  match state.openOutput path append with
  | .error fault =>
    .error ((state.complain s!"{state.name}: 1: cannot create {path}: {cannotCreate fault}").withStatus 2)
  | .ok (state, sink) =>
    .ok (if number = 2 then { state with errors := sink } else { state with output := sink })

def redirectInput (state : State) (path : String) : Except State State :=
  match state.readFile path 0 with
  | .error _ => .error ((state.complain s!"{state.name}: 1: cannot open {path}: No such file").withStatus 2)
  | .ok data => .ok { state with input := data.toList }

def copyOutput (state : State) (number source : Nat) : State :=
  let sink := if source = 2 then state.errors else state.output
  if number = 2 then { state with errors := sink } else { state with output := sink }

def closeOutput (state : State) (number : Nat) : State :=
  if number = 2 then { state with errors := .nowhere } else { state with output := .nowhere }

/-- Gives the outputs and the input back after a command. -/
def restore (before after : State) : State :=
  { after with output := before.output, errors := before.errors, input := before.input }

/-- The state in which a script begins that is not waited for. Its work counts as done after that
of the script which it has left. -/
def goAside (before after : State) : State :=
  { before with
    tree := { after.tree with here := before.tree.here }
    buffers := after.buffers, input := [], limit := none }

def addAside (after aside : State) : State :=
  { after with
    tree := { aside.tree with here := after.tree.here }, buffers := aside.buffers }

def fork (state : State) (name : String) (arguments : List String) : State :=
  { state with name, arguments, process := state.process + 1, status := 0, halt := none }

mutual

def know : (fuel : Nat) → State → Word → State × List Known
  | 0, state, _ => (state.hang, [])
  | fuel + 1, state, word =>
    word.foldl (fun (state, known) piece =>
      match piece with
      | .text text quoted => (state, known ++ [.written text quoted])
      | .value name quoted => (state, known ++ [knownValue state name quoted])
      | .output script quoted =>
        let (opened, number) := state.openBuffer
        let inner := match Script.read? script with
          | some script => carryOut fuel { opened with output := .buffer number } script
          | none => (opened.complain s!"{state.name}: 1: Syntax error").withStatus 2
        let after := leave opened inner
        (after, known ++ [.inserted (after.bufferText number) quoted])) (state, [])

def fieldsOf : (fuel : Nat) → State → List Word → State × List String
  | 0, state, _ => (state.hang, [])
  | fuel + 1, state, words =>
    words.foldl (fun (state, fields) word =>
      let (state, known) := know fuel state word
      (state, fields ++ (Known.fields known).map String.ofList)) (state, [])

def textOf : (fuel : Nat) → State → Word → State × String
  | 0, state, _ => (state.hang, "")
  | fuel + 1, state, word =>
    let (state, known) := know fuel state word
    (state, String.ofList (Known.single known))

/-- Opens what redirections name, from the left. -/
def redirect : (fuel : Nat) → State → List Redirection → Except State State
  | 0, state, _ => .error state.hang
  | _ + 1, state, [] => .ok state
  | fuel + 1, state, redirection :: more =>
    let opened : Except State State := match redirection with
      | .copy number source => .ok (state.copyOutput number source)
      | .closed number => .ok (state.closeOutput number)
      | .input file =>
        let (state, path) := textOf fuel state file
        state.redirectInput path
      | .output number file append =>
        let (state, path) := textOf fuel state file
        state.redirectOutput number path append
    match opened with
    | .ok state => redirect fuel state more
    | .error state => .error state

def assign : (fuel : Nat) → State → List (List Char × Word) → State
  | 0, state, _ => state.hang
  | fuel + 1, state, assignments =>
    assignments.foldl (fun state (name, word) =>
      let (state, value) := textOf fuel state word
      state.setVariable (String.ofList name) value) state

/-- The state of a process at its end that runs a program with its arguments. -/
def spawn : (fuel : Nat) → State → Utility → List String → State
  | 0, state, _, _ => state.hang
  | fuel + 1, state, utility, arguments =>
    if utility ≠ .sh then state.applyUtility utility arguments
    else
      let (name, arguments, source) : String × List String × Except Fault (List Char) :=
        match arguments with
        | "-c" :: script :: name :: arguments => (name, arguments, .ok script.toList)
        | "-c" :: script :: [] => ("sh", [], .ok script.toList)
        | file :: arguments =>
          (file, arguments, (state.readFile file 0).map fun data => Text.readLossy data.toList)
        | [] => ("sh", [], .ok (Text.readLossy state.input))
      let child := state.fork name arguments
      match source with
      | .error _ => (state.complain s!"sh: 0: cannot open {name}: No such file").withStatus 2
      | .ok text =>
        match Script.read? text with
        | some script => carryOut fuel child script
        | none => (state.complain s!"{name}: 1: Syntax error").withStatus 2

def call : (fuel : Nat) → State → String → List String → State
  | 0, state, _, _ => state.hang
  | fuel + 1, state, name, arguments =>
    match name, arguments with
    | "exec", program :: arguments =>
      match findProgram state.tree state.folders program with
      | .ok (utility, first) => becomeProcess state (spawn fuel state utility (first ++ arguments))
      | .error _ => (state.complain s!"{state.name}: 1: exec: {program}: not found").exit 127
    | "command", program :: arguments => call fuel state program arguments
    | "eval", arguments =>
      match Script.read? (" ".intercalate arguments).toList with
      | some script => carryOut fuel state script
      | none => (state.complain s!"{state.name}: 1: Syntax error").withStatus 2
    | _, _ =>
      match state.builtin? name arguments with
      | some after => after
      | none =>
        match findProgram state.tree state.folders name with
        | .ok (utility, first) =>
          leaveProcess state (spawn fuel state utility (first ++ arguments))
        | .error .notFound => (state.complain s!"{state.name}: 1: {name}: not found").withStatus 127
        | .error fault =>
          (state.complain s!"{state.name}: 1: {name}: {faultText fault}").withStatus 126

def carryOut : (fuel : Nat) → State → Script → State
  | 0, state, _ => state.hang
  | fuel + 1, state, script =>
    if state.isHalted then state
    else
      match script with
      | .nothing => state
      | .sequence first second => carryOut fuel (carryOut fuel state first) second
      | .aside script rest =>
        let after := carryOut fuel (state.withStatus 0) rest
        if after.halt = some .outOfTime then after
        else addAside after (carryOut fuel (goAside state after) script)
      | .both first second =>
        let after := carryOut fuel state first
        if after.status = 0 then carryOut fuel after second else after
      | .either first second =>
        let after := carryOut fuel state first
        if after.status = 0 then after else carryOut fuel after second
      | .negated script =>
        let after := carryOut fuel state script
        if after.isHalted then after else after.withTruth (after.status ≠ 0)
      | .apart script => leave state (carryOut fuel state script)
      | .redirected script redirections =>
        match redirect fuel state redirections with
        | .error after => restore state after
        | .ok opened => restore state (carryOut fuel opened script)
      | .pipe first second =>
        let (opened, number) := state.openBuffer
        let after := leave opened (carryOut fuel { opened with output := .buffer number } first)
        if after.isHalted then after
        else
          let input := (after.buffer number).toList
          restore state (leave after (carryOut fuel { after with input } second))
      | .choice condition yes no =>
        let after := carryOut fuel state condition
        if after.status = 0 then carryOut fuel after yes
        else
          match no with
          | .nothing => if after.isHalted then after else after.withStatus 0
          | no => carryOut fuel after no
      | .loop wanted condition body =>
        let after := carryOut fuel state condition
        if after.isHalted then after
        else if (after.status = 0) = wanted then
          carryOut fuel (carryOut fuel after body) (.loop wanted condition body)
        else after.withStatus 0
      | .each name words body =>
        let (state, fields) := fieldsOf fuel state words
        fields.foldl (fun state value =>
          carryOut fuel (state.setVariable (String.ofList name) value) body) state
      | .cases subject branches =>
        let (state, text) := textOf fuel state subject
        choose fuel (state.withStatus 0) text.toList branches
      | .simple assignments words redirections =>
        let (expanded, fields) := fieldsOf fuel state words
        match redirect fuel expanded redirections, fields with
        | .error after, [] => restore state after
        | .error after, name :: _ =>
          let after := restore state after
          if name ∈ [":", "exec", "exit", "export", "set", "shift", "trap"] then after.exit 2
          else after
        | .ok opened, [] => restore state (assign fuel (opened.withStatus 0) assignments)
        | .ok opened, ["exec"] => opened.withStatus 0
        | .ok opened, name :: arguments =>
          let after := call fuel (assign fuel opened assignments) name arguments
          if redirections.any fun | .input _ => true | _ => false then restore state after
          else { after with output := state.output, errors := state.errors }

/-- Carries out the first branch with a pattern for a text. -/
def choose : (fuel : Nat) → State → List Char → List (List Word × Script) → State
  | 0, state, _, _ => state.hang
  | _ + 1, state, _, [] => state
  | fuel + 1, state, text, (words, body) :: branches =>
    let (state, fits) := words.foldl (fun (state, fits) word =>
      if fits then (state, fits)
      else
        let (state, known) := know fuel state word
        (state, Known.accepts known text)) (state, false)
    if fits then carryOut fuel state body else choose fuel state text branches

end

end State

end SlidePress.Shell
