import SlidePress.Xml.Mark

/-!
What stands inside of an element: marks, up to the one that closes it. Texts may refer to declared
texts, which are read in the same way and put their own marks in the place of the reference. Marks
are gathered with the last one first.
-/

namespace SlidePress.Xml

/-- What has been gathered of the inside of an element: the marks, the last one first, what follows
them in the text, and the count of references. -/
structure Inside where
  marks : List Mark
  rest : List Char
  used : Nat

/-- Adds the marks of the pieces of a text. Declared texts are read with `read`, which gets the
marks in front of it. -/
def addPieces (room : Nat) (read : (marks : List Mark) → (used : Nat) → List Char → Option Inside) :
    (marks : List Mark) → (used : Nat) → List Piece → Option (List Mark × Nat)
  | marks, used, [] => some (marks, used)
  | marks, used, piece :: pieces => do
    let (marks, used) ← match piece with
      | .plain run => some (.text (lineFeeds run) :: marks, used)
      | .char c => some (.text [c] :: marks, used)
      | .declared content =>
        (readDeclared room (read marks) used content).map fun inside => (inside.marks, inside.used)
    addPieces room read marks used pieces

def addRun (entities : Entities) (room : Nat)
    (read : (marks : List Mark) → (used : Nat) → List Char → Option Inside)
    (marks : List Mark) (used : Nat) (written : List Char) : Option (List Mark × Nat) :=
  if !written.all isAllowed || Text.occursIn [']', ']', '>'] written then none
  else (pieces? entities written).bind (addPieces room read marks used)

/-- Reads the inside of an element, `depth` elements deep in the text at hand and the outermost of
them not opened by it. It ends where that element is closed, or with the text. In a declared text
nothing can be closed before something has been opened: `started` tells whether it has. -/
def readInsideWith (entities : Entities) (room : Nat)
    (read : (marks : List Mark) → (used : Nat) → List Char → Option Inside) :
    (fuel : Nat) → (started : Bool) → (depth : Nat) → (marks : List Mark) → (used : Nat) →
    List Char → Option Inside
  | _, _, _, marks, used, [] => some ⟨marks, [], used⟩
  | 0, _, _, _, _, _ :: _ => none
  | fuel + 1, started, depth, marks, used, c :: text =>
    let go := readInsideWith entities room read fuel
    if c = '<' then
      match readMark (c :: text) with
      | none => none
      | some (.opening tag, rest) =>
        (tag.withValues? entities room used).bind fun (tag, used) =>
          go true (depth + 1) (.opening tag :: marks) used rest
      | some (.single tag, rest) =>
        (tag.withValues? entities room used).bind fun (tag, used) =>
          go true depth (.single tag :: marks) used rest
      | some (.closing name, rest) =>
        if !started then none
        else if depth = 0 then some ⟨.closing name :: marks, rest, used⟩
        else go started (depth - 1) (.closing name :: marks) used rest
      | some (mark, rest) => go started depth (mark :: marks) used rest
    else
      (addRun entities room read marks used ((c :: text).takeWhile (· ≠ '<'))).bind
        fun (marks, used) => go started depth marks used ((c :: text).dropWhile (· ≠ '<'))

/-- Reads a declared text as the inside of an element; others may lie `room` deep in it. -/
def readDeclaredInside (entities : Entities) : (room : Nat) → (marks : List Mark) → (used : Nat) →
    List Char → Option Inside
  | 0, marks, used, text =>
    readInsideWith entities 0 (fun _ _ _ => none) (text.length + 1) false 0 marks used text
  | room + 1, marks, used, text =>
    readInsideWith entities (room + 1) (readDeclaredInside entities room) (text.length + 1) false 0
      marks used text

/-- Reads the inside of the outermost element, whose tag is the first of the marks. -/
def readInside (entities : Entities) (marks : List Mark) (text : List Char) : Option Inside :=
  readInsideWith entities entityRoom (readDeclaredInside entities (entityRoom - 1))
    (text.length + 1) true 0 marks 0 text

end SlidePress.Xml
