import SlidePress.Svg.Rect

/-!
The box that a drawing, or a part of one, shows, and the map that fits it into a place of another
size.
-/

namespace SlidePress.Svg

/-- A width and a height in pixels. -/
structure Size where
  width : Float32
  height : Float32

def isSide (length : Float32) : Bool :=
  length.isFinite && 0 < length

def Size.ofSides? (width height : Float32) : Option Size :=
  if isSide width && isSide height then some ⟨width, height⟩ else none

def readBox? (text : List Char) : Option Rect := do
  let ([x, y, width, height], _) ← readListNumbers 4 text | none
  if width ≤ 0 ∨ height ≤ 0 then none
  else Rect.withArea? x.toFloat32 y.toFloat32 width.toFloat32 height.toFloat32

/-- Where a box stands in a place that is wider or higher. -/
inductive Alignment where
  | start
  | middle
  | finish
  deriving DecidableEq, Repr

/-- What part of the free room stands in front of a box. -/
def Alignment.offset (alignment : Alignment) (room : Float32) : Float32 :=
  match alignment with
  | .start => 0
  | .middle => room / 2
  | .finish => room

/-- How a box is fitted into a place. -/
inductive Fit where
  /-- Each side by itself. -/
  | stretched
  /-- Without a change of its proportions; `cover` asks for the whole place to be filled. -/
  | scaled (x y : Alignment) (cover : Bool)
  deriving DecidableEq, Repr

/-- A box is shown as a whole in the middle of its place, if nothing else is said. -/
def usualFit : Fit := .scaled .middle .middle false

def alignmentNames : List (String × Alignment × Alignment) := [
  ("xMinYMin", .start, .start), ("xMidYMin", .middle, .start), ("xMaxYMin", .finish, .start),
  ("xMinYMid", .start, .middle), ("xMidYMid", .middle, .middle), ("xMaxYMid", .finish, .middle),
  ("xMinYMax", .start, .finish), ("xMidYMax", .middle, .finish), ("xMaxYMax", .finish, .finish)]

/-- Passes over a word in front that asks for the fit of what is shown, and is not followed. -/
def afterDefer? (text : List Char) : Option (List Char) :=
  match Text.after? "defer".toList (text.dropWhile isSpace) with
  | some (' ' :: rest) => some (rest.dropWhile isSpace)
  | some _ => none
  | none => some (text.dropWhile isSpace)

def readFit? (text : List Char) : Option Fit := do
  let text ← afterDefer? text
  let word := String.ofList (text.takeWhile isWordChar)
  let rest := (text.dropWhile isWordChar).dropWhile isSpace
  let cover ← match String.ofList (rest.takeWhile isWordChar) with
    | "slice" => some true
    | "meet" | "" => some false
    | _ => none
  if word = "none" then return .stretched
  else
    let (x, y) ← alignmentNames.lookup word
    return .scaled x y cover

def fitted (box : Rect) (fit : Fit) (size : Size) : Transform :=
  let sx := size.width / box.width
  let sy := size.height / box.height
  match fit with
  | .stretched => { sx, sy, tx := -box.left * sx, ty := -box.top * sy }
  | .scaled x y cover =>
    let scale := if cover then if sx < sy then sy else sx else if sy < sx then sy else sx
    { sx := scale, sy := scale,
      tx := -box.left * scale + x.offset (size.width - box.width * scale)
      ty := -box.top * scale + y.offset (size.height - box.height * scale) }

def Size.fitted (size : Size) (fit : Fit) (room : Rect) : Size :=
  match fit with
  | .stretched => ⟨room.width, room.height⟩
  | .scaled _ _ cover =>
    let width := room.height * size.width / size.height
    let byWidth : Bool := if cover then width ≤ room.width else room.width ≤ width
    if byWidth then ⟨room.width, room.width * size.height / size.width⟩ else ⟨width, room.height⟩

def fittedPlace (size : Size) (fit : Fit) (room : Rect) : Rect :=
  let shown := size.fitted fit room
  let (left, top) := match fit with
    | .stretched => (room.left, room.top)
    | .scaled x y _ =>
      (room.left + x.offset (room.width - shown.width), room.top + y.offset (room.height - shown.height))
  ⟨left, top, left + shown.width, top + shown.height⟩

end SlidePress.Svg
