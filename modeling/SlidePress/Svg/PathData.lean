import SlidePress.Svg.Arc

/-!
How outlines are written: letters with numbers behind them, which may be left out where the same
letter would come again. Small letters count from where the pen is. What can be read up to a
mistake is drawn.
-/

namespace SlidePress.Svg

/-- A letter with its numbers. -/
structure Command where
  letter : Char
  numbers : List Float

/-- How many numbers stand behind a letter, in small. -/
def numberCounts : List (Char × Nat) := [
  ('m', 2), ('l', 2), ('h', 1), ('v', 1), ('c', 6), ('s', 4), ('q', 4), ('t', 2), ('a', 7), ('z', 0)]

def numberCount? (letter : Char) : Option Nat :=
  numberCounts.lookup letter.toLower

/-- Reads a zero or a one, which needs no separator. -/
def readFlag (text : List Char) : Option (Float × List Char) :=
  let finish (value : Float) (rest : List Char) : Option (Float × List Char) :=
    some (value, match rest with
      | ',' :: rest => rest
      | rest => rest)
  match text.dropWhile isSpace with
  | '0' :: rest => finish 0 rest
  | '1' :: rest => finish 1 rest
  | _ => none

def readNumbers (letter : Char) (count : Nat) (text : List Char) :
    Option (List Float × List Char) :=
  if letter = 'a' then do
    let (front, rest) ← readListNumbers 3 text
    let (large, rest) ← readFlag rest
    let (sweep, rest) ← readFlag rest
    let (goal, rest) ← readListNumbers 2 rest
    return (front ++ [large, sweep] ++ goal, rest)
  else readListNumbers count text

def isNumberStart (c : Char) : Bool :=
  c.isDigit || c == '.' || c == '-' || c == '+'

/-- The letter that is meant where none is written, behind a letter. A move is followed by lines. -/
def nextLetter : Char → Char
  | 'm' => 'l'
  | 'M' => 'L'
  | letter => letter

/-- Reads the commands of an outline up to the first mistake. `last` is the letter of the command
in front; the first command has to be a move. -/
def readCommands : (fuel : Nat) → (last : Option Char) → List Char → List Command
  | 0, _, _ => []
  | fuel + 1, last, text =>
    match text.dropWhile isSpace with
    | [] => []
    | c :: rest =>
      let written := (numberCount? c).isSome
      let letter? :=
        if written then if last.isNone && c.toLower ≠ 'm' then none else some c
        else if isNumberStart c then (last.filter (·.toLower ≠ 'z')).map nextLetter
        else none
      match letter? with
      | none => []
      | some letter =>
        let small := letter.toLower
        match readNumbers small ((numberCount? letter).getD 0) (if written then rest else c :: rest) with
        | none => []
        | some (numbers, rest) =>
          let last := if written then letter else last.getD letter
          ⟨letter, numbers⟩ :: readCommands fuel (some last) rest

/-- The control point that the next curve may go on with: that of a curve of the same degree. -/
inductive Swing where
  | none
  | quadratic (control : Spot)
  | cubic (control : Spot)

/-- How far an outline has been drawn: where the pen is, where the part at hand began, and whether
it has just been closed. -/
structure Drawing where
  outline : Outline := {}
  pen : Spot := ⟨0, 0⟩
  start : Spot := ⟨0, 0⟩
  closed : Bool := false
  swing : Swing := .none

namespace Drawing

/-- The mirror image of a point on the other side of the pen. -/
def mirrored (drawing : Drawing) (p : Spot) : Spot :=
  ⟨drawing.pen.x * 2 - p.x, drawing.pen.y * 2 - p.y⟩

def moveTo (drawing : Drawing) (goal : Spot) : Drawing :=
  { drawing with
    outline := drawing.outline.move goal.toPoint, pen := goal, start := goal, closed := false,
    swing := .none }

def lineTo (drawing : Drawing) (goal : Spot) : Drawing :=
  { drawing with
    outline := drawing.outline.line goal.toPoint, pen := goal, closed := false, swing := .none }

def quadraticTo (drawing : Drawing) (control goal : Spot) : Drawing :=
  { drawing with
    outline := drawing.outline.quadratic control.toPoint goal.toPoint, pen := goal, closed := false,
    swing := .quadratic control }

def cubicTo (drawing : Drawing) (first second goal : Spot) : Drawing :=
  { drawing with
    outline := drawing.outline.cubic first.toPoint second.toPoint goal.toPoint, pen := goal,
    closed := false, swing := .cubic second }

def arcTo (drawing : Drawing) (arc : EndArc) : Drawing :=
  let drawn := match arc.centered? with
    | none => drawing.lineTo arc.finish
    | some centered => centered.curves.foldl (fun drawing (first, second, goal) =>
        drawing.cubicTo first second goal) drawing
  { drawn with swing := .none }

def close (drawing : Drawing) : Drawing :=
  if drawing.closed then drawing
  else
    { drawing with
      outline := drawing.outline.close, pen := drawing.start, closed := true, swing := .none }

/-- Draws a command. Behind a closed part everything but a move begins a new one where that part
began. -/
def add (drawing : Drawing) (command : Command) : Drawing :=
  let small := command.letter.isLower
  let spot (x y : Float) : Spot :=
    if small then ⟨x + drawing.pen.x, y + drawing.pen.y⟩ else ⟨x, y⟩
  let reopened :=
    if drawing.closed && command.letter.toLower ≠ 'm' && command.letter.toLower ≠ 'z' then
      drawing.moveTo drawing.start
    else drawing
  match command.letter.toLower, command.numbers with
  | 'm', [x, y] => drawing.moveTo (spot x y)
  | 'l', [x, y] => reopened.lineTo (spot x y)
  | 'h', [x] => reopened.lineTo ⟨(spot x 0).x, drawing.pen.y⟩
  | 'v', [y] => reopened.lineTo ⟨drawing.pen.x, (spot 0 y).y⟩
  | 'c', [x₁, y₁, x₂, y₂, x, y] => reopened.cubicTo (spot x₁ y₁) (spot x₂ y₂) (spot x y)
  | 's', [x₂, y₂, x, y] =>
    let first := match drawing.swing with
      | .cubic control => drawing.mirrored control
      | _ => drawing.pen
    reopened.cubicTo first (spot x₂ y₂) (spot x y)
  | 'q', [x₁, y₁, x, y] => reopened.quadraticTo (spot x₁ y₁) (spot x y)
  | 't', [x, y] =>
    let control := match drawing.swing with
      | .quadratic control => drawing.mirrored control
      | _ => drawing.pen
    reopened.quadraticTo control (spot x y)
  | 'a', [rx, ry, rotation, large, sweep, x, y] =>
    reopened.arcTo ⟨drawing.pen, spot x y, ⟨rx, ry⟩, radians rotation, large == 1, sweep == 1⟩
  | 'z', _ => drawing.close
  | _, _ => drawing

end Drawing

def outlineOf (text : List Char) : Outline :=
  ((readCommands (text.length + 1) none text).foldl Drawing.add {}).outline

end SlidePress.Svg
