import SlidePress.Svg.Extent

/-!
The size of a drawing. Width and height are those that its outermost element says; what it leaves
open, or says as a part of a whole, is a part of the box that the drawing shows. Without such a box
the drawing is as large as what it draws reaches to the right and down, if it draws something there.
-/

namespace SlidePress.Svg

def usualSide : Float := 100

/-- The share of the side of the box that a percentage is. The percentage is made a fraction first,
and both steps are rounded. -/
def shareOf (side percent : Float32) : Float32 :=
  side * (percent / 100)

/-- The pixels of a side of a drawing, given that of the box that it shows. -/
def sidePixels (root : Node) (said : Measure) (boxSide? : Option Float32) : Float32 :=
  match boxSide?, said.unit with
  | none, .percent => (said.number / 100 * usualSide).toFloat32
  | some side, _ => said.pixels root.fontSize (shareOf side)
  | none, _ => said.pixels root.fontSize id

def saidSize? (root : Node) : Option Size :=
  let box? := root.viewBox?
  let side (name : String) (boxSide? : Option Float32) : Float32 :=
    sidePixels root ((root.measure? name).getD wholeLength) boxSide?
  Size.ofSides? (side "width" (box?.map (·.width))) (side "height" (box?.map (·.height)))

/-- Whether the size of a drawing is left open: a side is a part of a whole that is not given. -/
def isOpen (root : Node) : Bool :=
  let isPart (name : String) : Bool := ((root.measure? name).getD wholeLength).unit == .percent
  root.viewBox?.isNone && (isPart "width" || isPart "height")

def sizeOf? (picture? : List Char → Option Size) (root : Node) : Option Size := do
  let size ← saidSize? root
  if !isOpen root then return size
  else
    let view : Rect := ⟨0, 0, size.width, size.height⟩
    let reached := (contentBox? picture? root view).bind fun box => Size.ofSides? box.right box.bottom
    return reached.getD size

end SlidePress.Svg
