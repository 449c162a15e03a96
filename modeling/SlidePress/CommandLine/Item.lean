import SlidePress.Text.Search

/-!
The items of a command line: switches, options with their values, and plain arguments. A value can
be joined to the name of its option or come after it; there it must not look like a switch. Two
dashes alone end the options.
-/

namespace SlidePress.CommandLine

inductive Switch where
  | verbose
  | version
  | help
  | native
  deriving DecidableEq, Repr

/-- What can be given a value. -/
inductive Setting where
  | input
  | output
  | title
  | footer
  | dir
  | scale
  deriving DecidableEq, Repr

inductive Item where
  | switch (switch : Switch)
  | setting (setting : Setting) (value : String)
  | argument (value : String)
  /-- A word that chooses a command, with all that follows it. -/
  | command (name : String) (rest : List String)
  /-- Something that cannot be read; nothing comes after it. -/
  | mistake
  deriving DecidableEq, Repr

/-- The names that a command knows; those of one letter are kept apart. -/
structure Vocabulary where
  switches : List (String × Switch)
  settings : List (String × Setting)
  switchLetters : List (Char × Switch)
  settingLetters : List (Char × Setting)
  /-- Whether the first plain argument chooses a command. -/
  hasCommands : Bool := false

def looksLikeOption (argument : String) : Bool :=
  match argument.toList with
  | '-' :: _ :: _ => true
  | _ => false

/-- The value that comes after an option, with the arguments behind it. -/
def nextValue? : List String → Option (String × List String)
  | value :: rest => if looksLikeOption value then none else some (value, rest)
  | [] => none

/-- The parts of an argument in front of its first equals sign and behind it. -/
def splitValue (text : List Char) : String × Option String :=
  let name := String.ofList (text.takeWhile (· ≠ '='))
  match text.dropWhile (· ≠ '=') with
  | [] => (name, none)
  | _ :: value => (name, some (String.ofList value))

/-- What letters behind one dash stand for. -/
inductive Letters where
  | switches (switches : List Switch)
  /-- An option at the end of the letters, with its value if that is joined to it. -/
  | setting (switches : List Switch) (setting : Setting) (value? : Option String)
  | mistake (switches : List Switch)

def withSwitch (switch : Switch) : Letters → Letters
  | .switches switches => .switches (switch :: switches)
  | .setting switches setting value? => .setting (switch :: switches) setting value?
  | .mistake switches => .mistake (switch :: switches)

def readLetters (vocabulary : Vocabulary) : List Char → Letters
  | [] => .switches []
  | letter :: rest =>
    match vocabulary.switchLetters.lookup letter, vocabulary.settingLetters.lookup letter with
    | some switch, _ => withSwitch switch (readLetters vocabulary rest)
    | none, some setting =>
      .setting [] setting (match rest with
        | [] => none
        | '=' :: value => some (String.ofList value)
        | value => some (String.ofList value))
    | none, none => .mistake []

/-- The items of arguments. The arguments are counted down by `fuel`, of which there must be one for
each. -/
def readItems (vocabulary : Vocabulary) : (fuel : Nat) → List String → List Item
  | _, [] => []
  | 0, _ :: _ => [.mistake]
  | fuel + 1, argument :: rest =>
    match argument.toList with
    | ['-', '-'] => rest.map .argument
    | '-' :: '-' :: text =>
      let (name, value?) := splitValue text
      match vocabulary.switches.lookup name, vocabulary.settings.lookup name with
      | some switch, _ =>
        if value?.isSome then [.mistake] else .switch switch :: readItems vocabulary fuel rest
      | none, some setting =>
        match value? with
        | some value => .setting setting value :: readItems vocabulary fuel rest
        | none =>
          match nextValue? rest with
          | some (value, rest) => .setting setting value :: readItems vocabulary fuel rest
          | none => [.mistake]
      | none, none => [.mistake]
    | '-' :: letter :: letters =>
      match readLetters vocabulary (letter :: letters) with
      | .switches switches => switches.map .switch ++ readItems vocabulary fuel rest
      | .mistake switches => switches.map .switch ++ [.mistake]
      | .setting switches setting (some value) =>
        switches.map .switch ++ .setting setting value :: readItems vocabulary fuel rest
      | .setting switches setting none =>
        match nextValue? rest with
        | some (value, rest) =>
          switches.map .switch ++ .setting setting value :: readItems vocabulary fuel rest
        | none => switches.map .switch ++ [.mistake]
    | _ =>
      if vocabulary.hasCommands then [.command argument rest]
      else .argument argument :: readItems vocabulary fuel rest

def items (vocabulary : Vocabulary) (arguments : List String) : List Item :=
  readItems vocabulary arguments.length arguments

end SlidePress.CommandLine
