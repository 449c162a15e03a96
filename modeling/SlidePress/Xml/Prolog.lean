import SlidePress.Xml.Mark

/-!
What may stand in front of the outermost element: the declaration of the document, comments and
instructions, and the declaration of its type, which may give names to texts.
-/

namespace SlidePress.Xml

/-- Reads a part of the declaration of a document that begins with a word, and the white space
behind it, which only the end of the declaration can do without. -/
def readDeclared? (word : String) (text : List Char) : Option (List Char) :=
  if Text.startsWith word.toList text then do
    let (_, rest) ← readAssignment text
    if rest.head?.any isSpace then some (rest.dropWhile isSpace)
    else if Text.startsWith ['?', '>'] rest || rest.isEmpty then some rest
    else none
  else none

/-- Reads the declaration of a document, if there is one. It names a version, and after that an
encoding and whether it stands alone. -/
def skipDeclaration (text : List Char) : Option (List Char) :=
  match Text.after? declarationMarker text with
  | none => some text
  | some rest => do
    let rest ← readDeclared? "version" (rest.dropWhile isSpace)
    let rest ← if Text.startsWith "encoding".toList rest then readDeclared? "encoding" rest
      else some rest
    let rest ← if Text.startsWith "standalone".toList rest then (readAssignment rest).map (·.2)
      else some rest
    Text.after? ['?', '>'] (rest.dropWhile isSpace)

/-- Passes over comments, instructions and white space. -/
def skipAsides : (fuel : Nat) → List Char → Option (List Char)
  | 0, text => some text
  | fuel + 1, text =>
    let text := text.dropWhile isSpace
    match skipAside? text with
    | none => some text
    | some rest? => rest?.bind (skipAsides fuel)

/-- Passes over the name of something outside, if there is one. -/
def skipExternal (text : List Char) : Option (List Char) :=
  let skipLiteral (text : List Char) : Option (List Char) := do
    let (_, rest) ← readQuoted (← afterSpaces? text)
    return rest
  match Text.after? "SYSTEM".toList text, Text.after? "PUBLIC".toList text with
  | some rest, _ => skipLiteral rest
  | none, some rest => (skipLiteral rest).bind skipLiteral
  | none, none => some text

/-- Reads what a name is declared to stand for: a text, or something outside, which is passed
over. -/
def readDefinition (general : Bool) (text : List Char) : Option (Option (List Char) × List Char) :=
  match text with
  | '"' :: _ | '\'' :: _ => do
    let (content, rest) ← readQuoted text
    if content.all isAllowed then some (some content, rest) else none
  | 'S' :: _ | 'P' :: _ => do
    let rest ← skipExternal text
    if rest.length = text.length then none
    else
      match general, Text.after? "NDATA".toList (rest.dropWhile isSpace) with
      | true, some rest => do
        let (_, rest) ← readName (← afterSpaces? rest)
        return (none, rest)
      | _, _ => some (none, rest)
  | _ => none

def readEntity (text : List Char) : Option (Entities × List Char) := do
  let text ← afterSpaces? text
  let (general, text) ← match text with
    | '%' :: rest => (afterSpaces? rest).map (false, ·)
    | _ => some (true, text)
  let (name, rest) ← readName text
  let (content?, rest) ← readDefinition general (← afterSpaces? rest)
  match rest.dropWhile isSpace with
  | '>' :: rest => some (content?.toList.map (name, ·), rest)
  | _ => none

/-- The declarations that are passed over up to the next closing bracket. -/
def idleDeclarations : List String := ["<!ELEMENT", "<!ATTLIST", "<!NOTATION"]

def readDeclarations : (fuel : Nat) → List Char → Option (Entities × List Char)
  | 0, _ => none
  | fuel + 1, text =>
    let text := text.dropWhile isSpace
    match Text.after? "<!ENTITY".toList text with
    | some rest => do
      let (entity, rest) ← readEntity rest
      let (entities, rest) ← readDeclarations fuel rest
      return (entity ++ entities, rest)
    | none =>
      match skipAside? text with
      | some rest? => rest?.bind (readDeclarations fuel)
      | none =>
        if idleDeclarations.any fun marker => Text.startsWith marker.toList text then
          match text.dropWhile (· ≠ '>') with
          | [] => none
          | _ :: rest => readDeclarations fuel rest
        else
          match text with
          | ']' :: rest =>
            match rest.dropWhile isSpace with
            | '>' :: rest => some ([], rest)
            | _ => none
          | _ => none

def readType (text : List Char) : Option (Entities × List Char) := do
  let (_, rest) ← readName (← afterSpaces? text)
  let rest ← skipExternal (rest.dropWhile isSpace)
  match rest.dropWhile isSpace with
  | '>' :: rest => some ([], rest)
  | '[' :: rest => readDeclarations (rest.length + 1) rest
  | _ => none

def readProlog (text : List Char) : Option (Entities × List Char) := do
  let text ← skipAsides (text.length + 1) (← skipDeclaration text)
  match Text.after? "<!DOCTYPE".toList text with
  | none => some ([], text)
  | some rest => do
    let (entities, rest) ← readType rest
    return (entities, ← skipAsides (rest.length + 1) rest)

end SlidePress.Xml
