import SlidePress.Svg.Rect

/-!
Outlines: what is drawn with straight lines and with curves of second and third degree, and the
tightest box around it. A curve may bulge out of the box of its ends where one of its coordinates
turns round.
-/

namespace SlidePress.Svg

/-- A step of an outline. -/
inductive Segment where
  | move (goal : Point)
  | line (goal : Point)
  | quadratic (control goal : Point)
  | cubic (first second goal : Point)
  | close

/-- An outline with the last step first. -/
structure Outline where
  segments : List Segment := []
  /-- Where the part at hand began. -/
  start : Point := ⟨0, 0⟩
  /-- Whether the part at hand has been closed, so that drawing on begins a new one. -/
  closed : Bool := true
  /-- Where the pen is. -/
  pen : Option Point := none

namespace Outline

/-- Lifts the pen to a point. Of two moves in a row only the last one counts. -/
def move (outline : Outline) (goal : Point) : Outline :=
  match outline.segments with
  | .move _ :: front => ⟨.move goal :: front, goal, false, some goal⟩
  | front => ⟨.move goal :: front, goal, false, some goal⟩

def opened (outline : Outline) : Outline :=
  if outline.closed then outline.move outline.start else outline

def line (outline : Outline) (goal : Point) : Outline :=
  let outline := outline.opened
  { outline with segments := .line goal :: outline.segments, pen := some goal }

def quadratic (outline : Outline) (control goal : Point) : Outline :=
  let outline := outline.opened
  { outline with segments := .quadratic control goal :: outline.segments, pen := some goal }

def cubic (outline : Outline) (first second goal : Point) : Outline :=
  let outline := outline.opened
  { outline with segments := .cubic first second goal :: outline.segments, pen := some goal }

def close (outline : Outline) : Outline :=
  match outline.segments with
  | [] | .close :: _ => { outline with closed := true }
  | front => { outline with segments := .close :: front, closed := true }

end Outline

def Segment.points : Segment → List Point
  | .move goal | .line goal => [goal]
  | .quadratic control goal => [control, goal]
  | .cubic first second goal => [first, second, goal]
  | .close => []

def Segment.map (f : Point → Point) : Segment → Segment
  | .move goal => .move (f goal)
  | .line goal => .line (f goal)
  | .quadratic control goal => .quadratic (f control) (f goal)
  | .cubic first second goal => .cubic (f first) (f second) (f goal)
  | .close => .close

/-- The steps of an outline from the first one on, if there is anything to draw: there are two of
them, and all their points are finite. -/
def Outline.drawn? (outline : Outline) : Option (List Segment) :=
  let segments := outline.segments.reverse
  if segments.length < 2 ∨ (Rect.around? (segments.flatMap (·.points))).isNone then none
  else some segments

/-! ### Where curves turn -/

/-- `num / den`, if it lies between zero and one and is neither. -/
def insideUnit? (num den : Float32) : Option Float32 :=
  let (num, den) := if num < 0 then (-num, -den) else (num, den)
  if den == 0 || num == 0 || den ≤ num then none
  else
    let quotient := num / den
    if 0 < quotient && quotient < 1 then some quotient else none

/-- The zeros of `a * t ^ 2 + b * t + c` between zero and one. They are those of the stable form of
the formula: the one with the two numbers of the same sign added, and what the product of the two
leaves for the other. -/
def zerosInUnit (a b c : Float32) : List Float32 :=
  if a == 0 then (insideUnit? (-c) b).toList
  else
    let discriminant := b.toFloat * b.toFloat - 4 * a.toFloat * c.toFloat
    if discriminant < 0 then []
    else
      let root := discriminant.sqrt.toFloat32
      if !root.isFinite then []
      else
        let q := if b < 0 then -(b - root) / 2 else -(b + root) / 2
        (insideUnit? q a).toList ++ (insideUnit? c q).toList

/-- Where a coordinate of a curve of second degree turns round. -/
def quadraticTurns (a b c : Float32) : List Float32 :=
  (insideUnit? (a - b) (a - b - b + c)).toList

/-- Where a coordinate of a curve of third degree turns round. -/
def cubicTurns (a b c d : Float32) : List Float32 :=
  zerosInUnit (d - a + 3 * (b - c)) (2 * (a - b - b + c)) (b - a)

def quadraticAt (t a b c : Float32) : Float32 :=
  ((c - (b + b) + a) * t + ((b - a) + (b - a))) * t + a

def cubicAt (t a b c d : Float32) : Float32 :=
  (((d + 3 * (b - c) - a) * t + 3 * (c - (b + b) + a)) * t + 3 * (b - a)) * t + a

def Segment.extremes (pen : Point) : Segment → List Point
  | .move goal | .line goal => [goal]
  | .quadratic q goal =>
    (quadraticTurns pen.x q.x goal.x ++ quadraticTurns pen.y q.y goal.y).map
      (fun t => ⟨quadraticAt t pen.x q.x goal.x, quadraticAt t pen.y q.y goal.y⟩) ++ [goal]
  | .cubic q r goal =>
    (cubicTurns pen.x q.x r.x goal.x ++ cubicTurns pen.y q.y r.y goal.y).map
      (fun t => ⟨cubicAt t pen.x q.x r.x goal.x, cubicAt t pen.y q.y r.y goal.y⟩) ++ [goal]
  | .close => []

/-- Where the pen is behind a step of a part that began at `start`, and where the part at hand
begins then. -/
def Segment.follow (start : Point) : Segment → Point × Point
  | .move goal => (goal, goal)
  | .line goal | .quadratic _ goal | .cubic _ _ goal => (goal, start)
  | .close => (start, start)

def extremesFrom : (pen start : Point) → List Segment → List Point
  | _, _, [] => []
  | pen, start, segment :: segments =>
    let (next, start) := segment.follow start
    segment.extremes pen ++ extremesFrom next start segments

def tightBox? (segments : List Segment) : Option Rect :=
  match segments.flatMap (·.points) with
  | [] => none
  | first :: _ => Rect.spanned? first (extremesFrom ⟨0, 0⟩ ⟨0, 0⟩ segments)

/-- The box around the image of an outline whose own box is known. Only a map with a skew has to
look at the outline. -/
def imageBox? (segments : List Segment) (box : Rect) (map : Transform) : Option Rect :=
  if map.hasSkew then
    let images := segments.map (·.map map.apply)
    if (Rect.around? (images.flatMap (·.points))).isNone then none else tightBox? images
  else box.image? map

end SlidePress.Svg
