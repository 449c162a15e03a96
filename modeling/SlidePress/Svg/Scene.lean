import SlidePress.Svg.Loop

/-!
What is known where an element is shown: the view that lengths are measured in, the elements that can
be referred to, and what is being drawn there.
-/

namespace SlidePress.Svg

structure Scene where
  /-- The view that lengths are measured in. -/
  view : Rect
  /-- The sides that the element says that uses the one at hand. -/
  useWidth : Option Float32 := none
  useHeight : Option Float32 := none
  /-- Whether a clip path is being drawn. -/
  clipping : Bool := false
  /-- The elements of the drawing that have names, the last ones first. -/
  named : List Node
  /-- The names of the clip paths and masks that are being drawn. They have no effect on
  themselves. -/
  within : List (List Char) := []
  /-- The names of the markers that are being drawn. They do not mark themselves. -/
  markers : List (List Char) := []
  /-- The sizes of the pictures that links lead to. -/
  picture? : List Char → Option Size

namespace Scene

def find? (scene : Scene) (id : List Char) : Option Node :=
  scene.named.find? (·.id == id)

def referred? (scene : Scene) (node : Node) (name : String) : Option Node := do
  let id ← node.reference? name
  if scene.within.contains id then none else scene.find? id

def ofDrawing (picture? : List Char → Option Size) (root : Node) (view : Rect) : Scene :=
  { view, named := (root.all.filter fun node => !node.id.isEmpty).reverse, picture? }

end Scene

def wholeLength : Measure := ⟨100, .percent⟩

/-! ### Boxes that elements show -/

/-- The sides of an element that shows a box, where it is used. -/
def Scene.sidesOf (scene : Scene) (node : Node) : Float32 × Float32 :=
  let width := node.length scene.view "width" wholeLength
  let height := node.length scene.view "height" wholeLength
  if node.kind = .svg then (scene.useWidth.getD width, scene.useHeight.getD height)
  else (width, height)

def Scene.boxMap (scene : Scene) (user shown : Node) : Transform :=
  let (width, height) := scene.sidesOf user
  match Size.ofSides? width height, shown.viewBox? with
  | some size, some box => fitted box shown.fit size
  | _, _ => .id

def Scene.isCut (scene : Scene) (user shown : Node) : Bool :=
  let visible := shown.get? "overflow" = some "visible".toList ∨
    shown.get? "overflow" = some "auto".toList
  let sided := user.kind ≠ .svg ∨ scene.useWidth.isSome ∨ scene.useHeight.isSome ∨
    ((user.get? "width").isSome ∧ (user.get? "height").isSome)
  let (width, height) := scene.sidesOf user
  decide (¬ visible ∧ sided) && isSide width && isSide height &&
    (Rect.withArea? (user.length scene.view "x") (user.length scene.view "y") width height).isSome

/-! ### Regions of masks and filters -/

/-- What a word says that lengths are parts of: the box of an element, or the view. -/
def boxUnits? (node : Node) (name : String) : Option Bool :=
  match (node.get? name).map String.ofList with
  | some "objectBoundingBox" => some true
  | some "userSpaceOnUse" => some false
  | _ => none

/-- The pixels of a length, which is a part of a box or one in the view. -/
def Scene.pixelsIn (scene : Scene) (node : Node) (ofBox : Bool) (name : String) (measure : Measure) :
    Float32 :=
  measure.pixels node.fontSize fun percent =>
    if ofBox then percent / 100 else partOf (wholeOf scene.view name) percent

/-- The region of a mask or of a filter, if it has an area. -/
def Scene.region? (scene : Scene) (node : Node) (ofBox : Bool) : Option Rect :=
  let length (name : String) (usual : Float) : Float32 :=
    scene.pixelsIn node ofBox name ((node.measure? name).getD ⟨usual, .percent⟩)
  Rect.withArea? (length "x" (-10)) (length "y" (-10)) (length "width" 120) (length "height" 120)

def Rect.within? (rect box : Rect) : Option Rect :=
  withArea? (rect.left * box.width + box.left) (rect.top * box.height + box.top)
    (rect.width * box.width) (rect.height * box.height)

end SlidePress.Svg
