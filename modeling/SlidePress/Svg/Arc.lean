import SlidePress.Svg.Outline

/-!
Arcs of ellipses, given by their ends, and the curves of third degree that stand for them. All is
computed in 64 bits.
-/

namespace SlidePress.Svg

/-- A point, or a pair of lengths, in 64 bits. -/
structure Spot where
  x : Float
  y : Float

namespace Spot

def ofPoint (p : Point) : Spot := ⟨p.x.toFloat, p.y.toFloat⟩

def toPoint (p : Spot) : Point := ⟨p.x.toFloat32, p.y.toFloat32⟩

def plus (p q : Spot) : Spot := ⟨p.x + q.x, p.y + q.y⟩

def minus (p q : Spot) : Spot := ⟨p.x - q.x, p.y - q.y⟩

def times (factor : Float) (p : Spot) : Spot := ⟨factor * p.x, factor * p.y⟩

def angle (p : Spot) : Float := Float.atan2 p.y p.x

def turned (p : Spot) (angle : Float) : Spot :=
  ⟨p.x * angle.cos - p.y * angle.sin, p.x * angle.sin + p.y * angle.cos⟩

end Spot

def fullTurn : Float := 2 * pi

def fractionOf (number : Float) : Nat × Int :=
  let bits := number.toBits.toNat
  let hidden := Nat.pow 2 52
  let field := bits / hidden % 2048
  if field = 0 then (bits % hidden, -1074) else (hidden + bits % hidden, (field : Int) - 1075)

/-- What is left of an angle when all full turns are taken off it, with the sign of the angle. It
is exact. -/
def withinTurn (angle : Float) : Float :=
  if !angle.isFinite || angle.abs < fullTurn then angle
  else
    let (m, e) := fractionOf angle.abs
    let (n, f) := fractionOf fullTurn
    let rest := m * Nat.pow 2 (e - f).toNat % n
    let size := Float.scaleB (Float.ofNat rest) f
    if angle < 0 then -size else size

/-- An arc as it is written: its ends, the half axes of its ellipse, how far these are turned, and
which of the four arcs of such an ellipse through the ends it is. -/
structure EndArc where
  start : Spot
  finish : Spot
  radii : Spot
  rotation : Float
  large : Bool
  sweep : Bool

structure CenterArc where
  center : Spot
  radii : Spot
  start : Float
  sweep : Float
  rotation : Float

def leastRadius : Float := 1e-5

def EndArc.isLine (arc : EndArc) : Bool :=
  arc.radii.x.abs ≤ leastRadius || arc.radii.y.abs ≤ leastRadius ||
    (arc.start.x == arc.finish.x && arc.start.y == arc.finish.y)

/-- The centre and the angles of an arc that is no line. Half axes that are too short for the ends
are made long enough. -/
def EndArc.centered? (arc : EndArc) : Option CenterArc :=
  if arc.isLine then none
  else
    let turn := withinTurn arc.rotation
    let (sine, cosine) := (turn.sin, turn.cos)
    let half : Spot := ⟨(arc.start.x - arc.finish.x) * 0.5, (arc.start.y - arc.finish.y) * 0.5⟩
    let middle : Spot := ⟨(arc.start.x + arc.finish.x) * 0.5, (arc.start.y + arc.finish.y) * 0.5⟩
    let p : Spot := ⟨cosine * half.x + sine * half.y, -sine * half.x + cosine * half.y⟩
    let (rx, ry) := (arc.radii.x.abs, arc.radii.y.abs)
    let excess := p.x * p.x / (rx * rx) + p.y * p.y / (ry * ry)
    let (rx, ry) := if 1 < excess then (rx * excess.sqrt, ry * excess.sqrt) else (rx, ry)
    let rxry := rx * ry
    let rxpy := rx * p.y
    let rypx := ry * p.x
    let squares := rxpy * rxpy + rypx * rypx
    let sign : Float := if arc.large == arc.sweep then -1 else 1
    let factor := sign * ((rxry * rxry - squares) / squares).abs.sqrt
    let cx := factor * rxpy / ry
    let cy := -factor * rypx / rx
    let center : Spot :=
      ⟨cosine * cx - sine * cy + middle.x, sine * cx + cosine * cy + middle.y⟩
    let start := Spot.angle ⟨(p.x - cx) / rx, (p.y - cy) / ry⟩
    let finish := Spot.angle ⟨(-p.x - cx) / rx, (-p.y - cy) / ry⟩
    let sweep := withinTurn (finish - start)
    let sweep :=
      if arc.sweep && sweep < 0 then sweep + fullTurn
      else if !arc.sweep && 0 < sweep then sweep - fullTurn
      else sweep
    some ⟨center, ⟨rx, ry⟩, start, sweep, arc.rotation⟩

def ellipsePoint (radii : Spot) (rotation angle : Float) : Spot :=
  Spot.turned ⟨radii.x * angle.cos, radii.y * angle.sin⟩ rotation

def arcTolerance : Float := 0.1

def CenterArc.pieces (arc : CenterArc) : Float :=
  let error := (if arc.radii.x < arc.radii.y then arc.radii.y else arc.radii.x) / arcTolerance
  let full := Float.pow (1.1163 * error) (1 / 6)
  let full := if full < 3.999999 then 3.999999 else full
  (full * arc.sweep.abs * (1 / fullTurn)).ceil

/-- The curves of an arc by their control points and ends, from an angle on. -/
def CenterArc.curvesFrom (arc : CenterArc) (step arm : Float) :
    (count : Nat) → (angle : Float) → Spot → List (Spot × Spot × Spot)
  | 0, _, _ => []
  | count + 1, angle, p =>
    let next := angle + step
    let q := ellipsePoint arc.radii arc.rotation next
    let first := p.plus (.times arm (ellipsePoint arc.radii arc.rotation (angle + pi / 2)))
    let second := q.minus (.times arm (ellipsePoint arc.radii arc.rotation (next + pi / 2)))
    (arc.center.plus first, arc.center.plus second, arc.center.plus q) ::
      arc.curvesFrom step arm count next q

def CenterArc.curves (arc : CenterArc) : List (Spot × Spot × Spot) :=
  let count := arc.pieces
  let step := arc.sweep / count
  let sign : Float := if arc.sweep < 0 then -1 else 1
  let arm := 4 / 3 * (0.25 * step).abs.tan * sign
  arc.curvesFrom step arm count.toUInt64.toNat arc.start
    (ellipsePoint arc.radii arc.rotation arc.start)

/-- Draws a quarter of an ellipse, or another arc of it that is no longer than half of it and goes
round in the way of the axes. -/
def Outline.arc (outline : Outline) (rx ry : Float32) (goal : Point) : Outline :=
  match outline.pen with
  | none => outline
  | some pen =>
    let arc : EndArc := ⟨.ofPoint pen, .ofPoint goal, ⟨rx.toFloat, ry.toFloat⟩, 0, false, true⟩
    match arc.centered? with
    | none => outline.line goal
    | some arc => arc.curves.foldl (fun outline (first, second, goal) =>
        outline.cubic first.toPoint second.toPoint goal.toPoint) outline

end SlidePress.Svg
