import SlidePress.Svg.Color
import SlidePress.Svg.Scene

/-!
Markers of outlines: drawings at the start, at the end, and at the points between, as large as the
line is thick and turned the way the outline goes.
-/

namespace SlidePress.Svg

/-! ### The way an outline goes -/

/-- A step of an outline with where it begins. -/
structure Stride where
  step : Segment
  /-- Where the pen is in front of it. -/
  pen : Point
  /-- Where the part at hand began. -/
  start : Point

/-- A curve of second degree as one of third degree. -/
def Segment.raised (pen : Point) : Segment → Segment
  | .quadratic control goal =>
    let toward (n q : Float32) : Float32 := (n + q * 2) / 3
    .cubic ⟨toward pen.x control.x, toward pen.y control.y⟩
      ⟨toward goal.x control.x, toward goal.y control.y⟩ goal
  | step => step

def stridesFrom : (pen start : Point) → List Segment → List Stride
  | _, _, [] => []
  | pen, start, step :: steps =>
    let (next, nextStart) := step.follow start
    ⟨step.raised pen, pen, start⟩ :: stridesFrom next nextStart steps

def strides (steps : List Segment) : List Stride :=
  stridesFrom ⟨0, 0⟩ ⟨0, 0⟩ steps

def turn : Float32 := 6.2831855
def halfTurn : Float32 := 3.1415927

def degreesOfTurn : Float32 := 57.29578
def turnOfDegrees : Float32 := halfTurn / 180

def normalAngle (angle : Float32) : Float32 :=
  let angle := if turn ≤ angle then angle - turn else angle
  if angle < 0 then angle + turn else angle

def wayAngle (p q : Point) : Float32 :=
  let angle := Float32.atan2 (q.y - p.y) (q.x - p.x)
  if angle.isNaN then 0 else normalAngle angle

/-- The angle in the middle between the way into a point and the way out of it, in degrees. -/
def middleAngle (into out : Float32) : Float32 :=
  let half := (out - into) * 0.5
  let angle := into + half
  let angle := if halfTurn / 2 < half.abs then angle - halfTurn else angle
  normalAngle angle * degreesOfTurn

/-- The angle of the way from a point to another one, in degrees. -/
def lineAngle (p q : Point) : Float32 :=
  middleAngle (wayAngle p q) (wayAngle p q)

/-- Whether two numbers are the same or next to each other. -/
def areClose (a b : Float32) : Bool :=
  a == b || (a.toBits ^^^ b.toBits < 0x80000000 &&
    (Int.ofNat a.toBits.toNat - Int.ofNat b.toBits.toNat).natAbs ≤ 4)

def Point.isClose (p q : Point) : Bool :=
  areClose p.x q.x && areClose p.y q.y

/-- The angle at a point between two curves, given their control points next to it and the points
where they begin and end. A control point that is the point itself does not count. -/
def curveAngle (before control here next after : Point) : Float32 :=
  if control.isClose here then middleAngle (wayAngle before here) (wayAngle here next)
  else if here.isClose next then middleAngle (wayAngle control here) (wayAngle here after)
  else middleAngle (wayAngle control here) (wayAngle here next)

def firstAngle (first next : Stride) : Float32 :=
  match first.step, next.step with
  | .move p, .line q => lineAngle p q
  | .move p, .cubic control _ q => lineAngle p (if control.isClose p then q else control)
  | _, _ => 0

def lastAngle (before last : Stride) : Float32 :=
  match before.step, last.step with
  | _, .line p => lineAngle last.pen p
  | _, .cubic first second p => lineAngle (if second.isClose p then first else second) p
  | .line p, .close => lineAngle p last.start
  | _, _ => 0

/-- The way an outline goes at the end of a step, in front of another one. -/
def innerAngle (here next : Stride) : Float32 :=
  match here.step, next.step with
  | .move p, .line q => lineAngle p q
  | .move p, .cubic control _ _ => lineAngle p control
  | .line p, .line q => middleAngle (wayAngle here.pen p) (wayAngle p q)
  | .cubic _ control p, .cubic next _ q => curveAngle here.pen control p next q
  | .line p, .cubic next _ q => curveAngle here.pen here.pen p next q
  | .cubic _ control p, .line q => curveAngle here.pen control p q q
  | .line p, .move _ => lineAngle here.pen p
  | .cubic _ control p, .move _ => lineAngle (if control.isClose p then here.pen else control) p
  | .line p, .close => middleAngle (wayAngle here.pen p) (wayAngle p next.start)
  | _, _ => 0

def Segment.goal? : Segment → Option Point
  | .move goal | .line goal | .quadratic _ goal | .cubic _ _ goal => some goal
  | .close => none

/-! ### The places of markers -/

inductive MarkerPlace where
  | start
  | middle
  | finish
  deriving DecidableEq, Repr

def MarkerPlace.all : List (MarkerPlace × String) :=
  [(.start, "marker-start"), (.middle, "marker-mid"), (.finish, "marker-end")]

/-- The points of the outline between its ends, with the way it goes there. -/
def innerPoints : List Stride → List (Point × Float32)
  | here :: next :: strides =>
    let found := here.step.goal?.map fun p => (p, innerAngle here next)
    found.toList ++ innerPoints (next :: strides)
  | _ => []

/-- The points of an outline at which markers stand, with the way it goes there. -/
def MarkerPlace.points (place : MarkerPlace) (strides : List Stride) : List (Point × Float32) :=
  match place, strides with
  | .start, first :: next :: _ => (first.step.goal?.map (·, firstAngle first next)).toList
  | .middle, _ :: strides => innerPoints strides
  | .finish, strides =>
    match strides.reverse with
    | last :: before :: _ =>
      match last.step with
      | .move _ => []
      | step => [(step.goal?.getD last.start, lastAngle before last)]
    | _ => []
  | _, _ => []

/-! ### The maps of markers -/

/-- How a marker is turned. -/
inductive Orientation where
  /-- The way the outline goes, or the other way round at its start. -/
  | along (reverseStart : Bool)
  | fixed (degrees : Float32)

def Node.orientation (node : Node) : Orientation :=
  match (node.get? "orient").map String.ofList with
  | some "auto" => .along false
  | some "auto-start-reverse" => .along true
  | some said =>
    match readAngle said.toList with
    | some (degrees, []) => .fixed degrees.toFloat32
    | _ => .fixed 0
  | none => .fixed 0

def Orientation.degrees (orientation : Orientation) (place : MarkerPlace) (way : Float32) : Float32 :=
  match orientation with
  | .fixed degrees => degrees
  | .along reverseStart =>
    if reverseStart && place = .start then
      let degrees := way + 180
      if 360 ≤ degrees then degrees - 360 else degrees
    else way

def Transform.rotation (degrees : Float32) : Transform :=
  let angle := degrees * turnOfDegrees
  { sx := angle.cos, ky := angle.sin, kx := -angle.sin, sy := angle.cos }

def Transform.scale (sx sy : Float32) : Transform :=
  { sx, sy }

/-- How thick the line of an element is, if it has one. -/
def Scene.thickness? (scene : Scene) (node : Node) : Option Float32 :=
  let thickness := match node.takes? "stroke-width" with
    | none => 1
    | some (said, fontSize) =>
      ((readMeasure? said).getD ⟨1, .none⟩).pixels fontSize
        (partOf (wholeOf scene.view "stroke-width"))
  if isSide thickness then some thickness else none

/-- The maps from a marker to the places where it stands at an outline, if it can be drawn. -/
def Scene.markerMaps? (scene : Scene) (shape marker : Node) (place : MarkerPlace)
    (steps : List Segment) : Option (List Transform) := do
  let scale ← if marker.get? "markerUnits" = some "userSpaceOnUse".toList then some 1
    else scene.thickness? shape
  let length (name : String) (usual : Float) : Float32 :=
    marker.length scene.view name ⟨usual, .none⟩
  let room ← Rect.withArea? (length "refX" 0) (length "refY" 0) (length "markerWidth" 3)
    (length "markerHeight" 3)
  let fit := match marker.viewBox? with
    | none => Transform.scale scale scale
    | some box =>
      let map := fitted box marker.fit ⟨room.width * scale, room.height * scale⟩
      Transform.scale (map.sx * map.sx + map.kx * map.kx).sqrt
        (map.ky * map.ky + map.sy * map.sy).sqrt
  return (place.points (strides steps)).map fun (p, way) =>
    let degrees := marker.orientation.degrees place way
    let turned := if nearZero degrees then Transform.move p.x p.y
      else (Transform.move p.x p.y).comp (.rotation degrees)
    (turned.comp fit).comp (.move (-room.left) (-room.top))

/-! ### Elements with markers -/

def Scene.marking? (scene : Scene) (node : Node) (name : String) : Option Node :=
  ((node.takes? name).bind fun (said, _) => readReference? said).bind scene.find?

def Scene.hasMarkers (scene : Scene) (node : Node) : Bool :=
  let isHidden := (node.takes? "visibility").any fun (said, _) =>
    ["hidden", "collapse"].contains (String.ofList said)
  !scene.clipping && !isHidden && MarkerPlace.all.any fun (_, name) => (scene.marking? node name).isSome

/-- The markers of an element that can be drawn, with where they stand. -/
def Scene.markersOf (scene : Scene) (node : Node) : List (MarkerPlace × Node) :=
  MarkerPlace.all.filterMap fun (place, name) =>
    ((scene.marking? node name).filter fun marker =>
      marker.kind == .marker && !scene.markers.contains marker.id).map (place, ·)

/-! ### The order of painting -/

inductive Paint where
  | fill
  | stroke
  | markers
  deriving DecidableEq, Repr

def paintNames : List (String × Paint) := [("fill", .fill), ("stroke", .stroke), ("markers", .markers)]

/-- Reads the names of what is painted first. A mistake, or a name that comes twice, makes no order. -/
def readPaintOrder (text : List Char) : List Paint :=
  let spaced := text.map fun c => if isSpace c then ' ' else c
  let words := (Text.pieces ' ' spaced).filter (!·.isEmpty)
  let paints := words.mapM fun word => paintNames.lookup (String.ofList word)
  (paints.filter fun paints => paints.eraseDups.length = paints.length).getD []

/-- Whether an element is painted with its markers between its inside and its line. -/
def Node.splitsPaint (node : Node) : Bool :=
  (node.takes? "paint-order").any fun (said, _) => (readPaintOrder said)[1]? = some Paint.markers

def asksForColor? (text : List Char) : Option Bool :=
  if text = "none".toList then some false
  else if text = "currentColor".toList || isColor text then some true
  else none

/-- Whether a text is a paint: a color, or a reference to something to paint with. Where that is
missing, what stands behind the reference counts. A text with a mistake is the paint that is
`usual`. -/
def Scene.isPaint (scene : Scene) (usual : Bool) (said : List Char) : Bool :=
  let text := Text.trim said
  match readReference text with
  | none =>
    if ["inherit", "context-fill", "context-stroke"].contains (String.ofList text) then false
    else (asksForColor? text).getD usual
  | some (id, rest) =>
    let other := rest.dropWhile isSpace
    match if other.isEmpty then some false else asksForColor? other with
    | none => usual
    | some paints =>
      match scene.find? id with
      | some node => node.kind == .plain
      | none => paints

/-- Whether something of an outline is painted: its inside, which is unless something else is said, or
its line. In a clip path all insides are. -/
def Scene.isPainted (scene : Scene) (node : Node) : Bool :=
  let has (name : String) (usual : Bool) : Bool :=
    ((node.takes? name).map fun (said, _) => scene.isPaint usual said).getD usual
  scene.clipping || has "fill" true || has "stroke" false && (scene.thickness? node).isSome

end SlidePress.Svg
