import SlidePress.Xml.Entity

/-!
The marks that a document is made of: tags with their attributes, texts, and what stands aside.
Whether the tags fit together is a matter of its own.
-/

namespace SlidePress.Xml

/-- The name and the attributes of a tag, in the order in which they are written. -/
structure Tag where
  name : Name
  attributes : List (Name × List Char)
  deriving DecidableEq, Repr

inductive Mark where
  | opening (tag : Tag)
  /-- A tag that opens and closes an element. -/
  | single (tag : Tag)
  | closing (name : Name)
  | text (text : List Char)
  /-- A comment or an instruction. -/
  | aside
  deriving DecidableEq, Repr

/-- Characters of a text: every line end is a line feed. -/
def lineFeeds (run : List Char) : List Char :=
  (run.zip (run.drop 1 ++ [' '])).filterMap fun (c, next) =>
    if c ≠ '\r' then some c else if next = '\n' then none else some '\n'

inductive TagEnd where
  | opening
  | single
  deriving DecidableEq, Repr

/-- Reads the attributes of a tag up to its end, the values as they are written. There is white
space in front of each. -/
def readAttributes : (fuel : Nat) → List Char →
    Option (List (Name × List Char) × TagEnd × List Char)
  | 0, _ => none
  | fuel + 1, text =>
    match text.dropWhile isSpace with
    | '>' :: rest => some ([], .opening, rest)
    | '/' :: '>' :: rest => some ([], .single, rest)
    | rest =>
      if text.head?.any isSpace then do
        let (item, rest) ← readAssignment rest
        let (attributes, finish, rest) ← readAttributes fuel rest
        return (item :: attributes, finish, rest)
      else none

/-- Reads a comment behind its opening. Two hyphens in a row end it. -/
def skipComment (text : List Char) : Option (List Char) := do
  let (inside, rest) ← readUpTo ['-', '-', '>'] text
  if Text.occursIn ['-', '-'] inside || Text.endsWith ['-'] inside then none else some rest

def declarationMarker : List Char := ['<', '?', 'x', 'm', 'l', ' ']

/-- Reads an instruction. The declaration of a document is none. -/
def skipInstruction (text : List Char) : Option (List Char) := do
  if Text.startsWith declarationMarker text then none
  else
    let (_, rest) ← readName (text.drop 2)
    let (_, rest) ← readUpTo ['?', '>'] (rest.dropWhile isSpace)
    return rest

/-- Whether a text begins with a comment or an instruction, and what follows it. -/
def skipAside? (text : List Char) : Option (Option (List Char)) :=
  match Text.after? ['<', '!', '-', '-'] text with
  | some rest => some (skipComment rest)
  | none => if Text.startsWith ['<', '?'] text then some (skipInstruction text) else none

/-- Reads a tag behind its angle bracket, the values of its attributes as they are written. -/
def readTag (text : List Char) : Option (Tag × TagEnd × List Char) := do
  let (name, rest) ← readSplitName text
  let (attributes, finish, rest) ← readAttributes (rest.length + 1) rest
  return (⟨name, attributes⟩, finish, rest)

def readMark (text : List Char) : Option (Mark × List Char) :=
  match skipAside? text with
  | some rest? => rest?.map (.aside, ·)
  | none =>
    match text.drop 1 with
    | '/' :: rest => do
      let (name, rest) ← readSplitName rest
      match rest.dropWhile isSpace with
      | '>' :: rest => some (.closing name, rest)
      | _ => none
    | '!' :: rest => do
      let rest ← Text.after? "[CDATA[".toList rest
      let (inside, rest) ← readUpTo [']', ']', '>'] rest
      return (.text (lineFeeds inside), rest)
    | rest => do
      let (tag, finish, rest) ← readTag rest
      return (match finish with | .opening => .opening tag | .single => .single tag, rest)

/-- The tag with the values that the written ones stand for, and the count of references. -/
def Tag.withValues? (entities : Entities) (room used : Nat) (tag : Tag) : Option (Tag × Nat) := do
  let (values, used) ← tag.attributes.foldlM (fun (values, used) (name, written) => do
    let (value, used) ← readValue entities room used written
    return ((name, value) :: values, used)) ([], used)
  return (⟨tag.name, values.reverse⟩, used)

end SlidePress.Xml
