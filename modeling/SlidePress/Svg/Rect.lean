import SlidePress.Svg.Transform

/-!
Upright rectangles: the box around points, the box around two boxes, and the box around the image
of a box.
-/

namespace SlidePress.Svg

/-- A rectangle by its edges. It may have no width or no height. -/
structure Rect where
  left : Float32
  top : Float32
  right : Float32
  bottom : Float32

def lesser (a b : Float32) : Float32 :=
  if b < a then b else a

def greater (a b : Float32) : Float32 :=
  if a < b then b else a

def greatest : Float := (Float32.ofBits 0x7F7FFFFF).toFloat

/-- Whether two edges are in order and not too far from each other. -/
def areEdges (low high : Float32) : Bool :=
  low.isFinite && high.isFinite && low ≤ high && high.toFloat - low.toFloat < greatest

namespace Rect

def ofEdges? (left top right bottom : Float32) : Option Rect :=
  if areEdges left right && areEdges top bottom then some ⟨left, top, right, bottom⟩ else none

def ofSides? (x y width height : Float32) : Option Rect :=
  ofEdges? x y (width + x) (height + y)

def width (rect : Rect) : Float32 :=
  rect.right - rect.left

def height (rect : Rect) : Float32 :=
  rect.bottom - rect.top

def hasArea (rect : Rect) : Bool :=
  rect.left < rect.right && rect.top < rect.bottom

def withArea? (x y width height : Float32) : Option Rect :=
  (ofSides? x y width height).filter hasArea

/-- The point without extent where all counting begins. -/
def origin : Rect := ⟨0, 0, 0, 0⟩

def union (one other : Rect) : Rect :=
  ⟨lesser one.left other.left, lesser one.top other.top, greater one.right other.right,
    greater one.bottom other.bottom⟩

def ofPoint (p : Point) : Rect := ⟨p.x, p.y, p.x, p.y⟩

/-- The box around a point and others, if its edges are in order. -/
def spanned? (first : Point) (points : List Point) : Option Rect :=
  let box := points.foldl (fun box p => union box (ofPoint p)) (ofPoint first)
  ofEdges? box.left box.top box.right box.bottom

/-- The box around points. All of them have to be finite. -/
def around? (points : List Point) : Option Rect :=
  match points with
  | [] => none
  | first :: _ =>
    if points.all fun p => p.x.isFinite && p.y.isFinite then spanned? first points else none

def image? (box : Rect) (map : Transform) : Option Rect :=
  if map.isId then some box
  else
    around? ([⟨box.left, box.top⟩, ⟨box.right, box.top⟩, ⟨box.right, box.bottom⟩,
      ⟨box.left, box.bottom⟩].map map.apply)

end Rect

/-- The box around two boxes, either of which may be missing. -/
def unionOf? : Option Rect → Option Rect → Option Rect
  | some one, some other => some (one.union other)
  | none, box? | box?, none => box?

end SlidePress.Svg
