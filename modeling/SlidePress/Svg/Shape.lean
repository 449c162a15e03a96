import SlidePress.Svg.Node
import SlidePress.Svg.PathData
import SlidePress.Svg.ViewBox

/-!
The outlines of the basic shapes. Their lengths are measured in the view that they stand in, parts
of a whole by its width, its height, or its diagonal.
-/

namespace SlidePress.Svg

/-- The lengths that are measured by the width of a view, and by its height. -/
def widthNames : List String := ["cx", "markerWidth", "refX", "rx", "width", "x", "x1", "x2"]
def heightNames : List String := ["cy", "markerHeight", "refY", "ry", "height", "y", "y1", "y2"]

/-- What parts of a length are parts of, in a view. -/
def wholeOf (view : Rect) (name : String) : Float32 :=
  if widthNames.contains name then view.width
  else if heightNames.contains name then view.height
  else ((view.width * view.width + view.height * view.height) / 2).sqrt

/-- The length that an element has under a name, if it is one. -/
def Node.measure? (node : Node) (name : String) : Option Measure :=
  (node.get? name).bind readMeasure?

def Node.pixelsOf (node : Node) (view : Rect) (name : String) (measure : Measure) : Float32 :=
  measure.pixels node.fontSize (partOf (wholeOf view name))

def Node.length (node : Node) (view : Rect) (name : String) (usual : Measure := .zero) : Float32 :=
  node.pixelsOf view name ((node.measure? name).getD usual)

def rectOutline (rect : Rect) : Outline :=
  ({} : Outline).move ⟨rect.left, rect.top⟩ |>.line ⟨rect.right, rect.top⟩
    |>.line ⟨rect.right, rect.bottom⟩ |>.line ⟨rect.left, rect.bottom⟩ |>.close

def roundOutline (x y width height rx ry : Float32) : Outline :=
  ({} : Outline).move ⟨x + rx, y⟩
    |>.line ⟨x + width - rx, y⟩ |>.arc rx ry ⟨x + width, y + ry⟩
    |>.line ⟨x + width, y + height - ry⟩ |>.arc rx ry ⟨x + width - rx, y + height⟩
    |>.line ⟨x + rx, y + height⟩ |>.arc rx ry ⟨x, y + height - ry⟩
    |>.line ⟨x, y + ry⟩ |>.arc rx ry ⟨x + rx, y⟩ |>.close

def ellipseOutline (cx cy rx ry : Float32) : Outline :=
  ({} : Outline).move ⟨cx + rx, cy⟩
    |>.arc rx ry ⟨cx, cy + ry⟩ |>.arc rx ry ⟨cx - rx, cy⟩
    |>.arc rx ry ⟨cx, cy - ry⟩ |>.arc rx ry ⟨cx + rx, cy⟩ |>.close

/-- The half axes of an element. One that is missing or negative is like the other one. -/
def Node.radii (node : Node) (view : Rect) : Float32 × Float32 :=
  let said (name : String) : Option Float32 :=
    ((node.measure? name).filter fun measure => !hasMinus measure.number).map
      (node.pixelsOf view name)
  match said "rx", said "ry" with
  | none, none => (0, 0)
  | some rx, none => (rx, rx)
  | none, some ry => (ry, ry)
  | some rx, some ry => (rx, ry)

def nearZero (number : Float32) : Bool :=
  (number.toBits &&& 0x7FFFFFFF) ≤ 4

def Node.rectOutline? (node : Node) (view : Rect) : Option Outline := do
  let width := node.length view "width"
  let height := node.length view "height"
  if !isSide width || !isSide height then none
  else
    let x := node.length view "x"
    let y := node.length view "y"
    let (rx, ry) := node.radii view
    let rx := if width / 2 < rx then width / 2 else rx
    let ry := if height / 2 < ry then height / 2 else ry
    if nearZero rx && nearZero ry then (Rect.ofSides? x y width height).map rectOutline
    else some (roundOutline x y width height rx ry)

/-- Reads points and draws lines between them, up to the first mistake. -/
def drawPoints : (fuel : Nat) → Outline → List Char → Outline
  | 0, outline, _ => outline
  | fuel + 1, outline, text =>
    match readListNumbers 2 text with
    | some ([x, y], rest) =>
      let goal : Point := ⟨x.toFloat32, y.toFloat32⟩
      drawPoints fuel (if outline.segments.isEmpty then outline.move goal else outline.line goal) rest
    | _ => outline

/-- The lines between the points of an element, of which there have to be two. -/
def Node.pointsOutline? (node : Node) : Option Outline :=
  (node.get? "points").bind fun text =>
    let outline := drawPoints (text.length + 1) {} text
    if outline.segments.length < 2 then none else some outline

def Node.outline? (node : Node) (view : Rect) : Option Outline :=
  let length (name : String) := node.length view name
  match node.kind with
  | .rect => node.rectOutline? view
  | .circle =>
    let r := length "r"
    if isSide r then some (ellipseOutline (length "cx") (length "cy") r r) else none
  | .ellipse =>
    let (rx, ry) := node.radii view
    if isSide rx && isSide ry then some (ellipseOutline (length "cx") (length "cy") rx ry) else none
  | .line =>
    some (({} : Outline).move ⟨length "x1", length "y1"⟩ |>.line ⟨length "x2", length "y2"⟩)
  | .polyline => node.pointsOutline?
  | .polygon => node.pointsOutline?.map (·.close)
  | .path => (node.get? "d").map outlineOf
  | _ => none

/-- The steps of a basic shape, if there is anything to draw. -/
def Node.segments? (node : Node) (view : Rect) : Option (List Segment) :=
  (node.outline? view).bind (·.drawn?)

end SlidePress.Svg
