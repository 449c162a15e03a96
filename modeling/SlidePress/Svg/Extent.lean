import SlidePress.Svg.Filter
import SlidePress.Svg.Marker

/-!
How far a drawing extends. Every element adds the box of what it draws, placed as it is placed;
elements that show nothing, and those whose clip path, mask or filter leaves nothing of them, add
nothing. What is clipped, faded or hidden still takes its room.
-/

namespace SlidePress.Svg

/-- How far some elements extend. -/
structure Extent where
  /-- How many of them there are. -/
  count : Nat := 0
  /-- The box around them in the coordinates of the group that holds them. -/
  box : Option Rect := none
  /-- The box around them in the coordinates of the drawing. -/
  placed : Option Rect := none

namespace Extent

def add (one other : Extent) : Extent :=
  ⟨one.count + other.count, unionOf? one.box other.box, unionOf? one.placed other.placed⟩

/-- How far a group of elements extends that is placed by a map. A group without any is a point. -/
def grouped (extent : Extent) (map : Transform) : Extent :=
  let box := extent.box.getD .origin
  ⟨1, some ((box.image? map).getD box), some (extent.placed.getD .origin)⟩

end Extent

def isShape (kind : Kind) : Bool :=
  kind ∈ [.rect, .circle, .ellipse, .line, .polyline, .polygon, .path]

def isGraphic (kind : Kind) : Bool :=
  isShape kind || kind ∈ [.image, .text, .use]

def canClip (kind : Kind) : Bool :=
  isShape kind && kind ≠ .line || kind ∈ [.text, .use]

/-- How far a picture extends. It is fitted into its place, and the whole of its place is placed as the
picture is fitted. -/
def pictureExtent (scene : Scene) (place : Transform) (node : Node) : Extent :=
  let found : Option (Rect × Rect) := do
    let size ← (node.get? "href").bind scene.picture?
    let (width, height) := node.pictureSides scene.view size
    let room ← Rect.withArea? (node.length scene.view "x") (node.length scene.view "y") width height
    let shown := fittedPlace size node.fit room
    let map : Transform := {
      sx := shown.width / size.width, sy := shown.height / size.height
      tx := shown.left, ty := shown.top }
    return (← (⟨0, 0, size.width, size.height⟩ : Rect).image? map, ← room.image? (place.comp map))
  match found with
  | some (box, placed) => ⟨1, some box, some placed⟩
  | none => {}

/-! ### What makes a group -/

/-- Whether the opacity of an element is less than whole. What is no opacity is a whole one. -/
def Node.isFaded (node : Node) : Bool :=
  match (node.get? "opacity").bind readMeasure? with
  | some ⟨number, unit⟩ =>
    let opacity := if unit = .percent then number.toFloat32 / 100 else number.toFloat32
    (unit = .none || unit = .percent) && !((1 ≤ opacity && opacity.isFinite) || areClose opacity 1)
  | none => false

/-- The ways of mixing an element with what is behind it, other than covering that. -/
def mixtures : List String := [
  "multiply", "screen", "overlay", "darken", "lighten", "color-dodge", "color-burn", "hard-light",
  "soft-light", "difference", "exclusion", "hue", "saturation", "color", "luminosity"]

def Node.isMixed (node : Node) : Bool :=
  ((node.get? "mix-blend-mode").any fun said => mixtures.contains (String.ofList said)) ||
    node.get? "isolation" = some "isolate".toList

/-! ### Elements in each other

What is inside of an element is measured by `measure`, which tells how far one element extends
where it is shown and placed. Clip paths and masks that do not depend on what they are for are tried
once only: the names of those that leave something are kept. -/

/-- What is found while the names of clip paths and masks are kept. -/
abbrev Trying := StateM (List (List Char))

abbrev Measuring := Scene → (place : Transform) → Node → Trying Extent

/-- How far elements extend one after another. -/
def extentOfAll (measure : Measuring) (scene : Scene) (place : Transform) (nodes : List Node) :
    Trying Extent :=
  nodes.foldlM (fun extent node => extent.add <$> measure scene place node) {}

/-- Tries an element that is to be kept, if it is found to leave something. -/
def tryOnce (id : List Char) (isShared : Bool) (test : Trying Bool) : Trying Bool := do
  if isShared && (← get).contains id then return true
  else
    let passes ← test
    if isShared && passes then modify (id :: ·)
    return passes

/-- Whether the clip path that an element asks for leaves something of it. One that is not there
leaves all. -/
def passesClip (measure : Measuring) : (fuel : Nat) → Scene → (hasBox : Bool) → Node → Trying Bool
  | 0, _, _, _ => return false
  | fuel + 1, scene, hasBox, node =>
    match scene.referred? node "clip-path" with
    | none => return true
    | some clip =>
      let inner := { scene with within := clip.id :: scene.within, clipping := true }
      let ofBox := (boxUnits? clip "clipPathUnits").getD false
      let mapped := match clip.get? "transform" with
        | none => true
        | some text => (readTransform? text).any (·.isVisible)
      if clip.kind ≠ .clipPath || !mapped then return false
      else tryOnce clip.id (!ofBox) do
        if !(← passesClip measure fuel inner hasBox clip) then return false
        else if !hasBox && ofBox then return false
        else return 0 < (← extentOfAll measure inner .id clip.children).count

/-- Whether the mask that an element asks for leaves something of it. One that is not there
leaves all, and so does one of which the region is a part of a box that has no area. -/
def passesMask (measure : Measuring) : (fuel : Nat) → Scene → (hasBox : Bool) → Node → Trying Bool
  | 0, _, _, _ => return false
  | fuel + 1, scene, hasBox, node =>
    match scene.referred? node "mask" with
    | none => return true
    | some mask =>
      let inner := { scene with within := mask.id :: scene.within }
      let ofBox := (boxUnits? mask "maskUnits").getD true
      let contentOfBox := (boxUnits? mask "maskContentUnits").getD false
      if mask.kind ≠ .mask then return false
      else tryOnce mask.id (!ofBox && !contentOfBox) do
        if (scene.region? mask ofBox).isNone then return false
        else if !hasBox && ofBox then return true
        else if !(← passesMask measure fuel inner hasBox mask) then return false
        else if !hasBox && contentOfBox then return false
        else return 0 < (← extentOfAll measure inner .id mask.children).count

/-- How far an element extends as a group of what `inside` tells from its place. It is placed by its
own map, or by another one if it stands for an element that has been placed already. -/
def groupExtent (measure : Measuring) (scene : Scene) (place : Transform) (forced : Bool)
    (shown : Option Transform) (node : Node) (inside : (place : Transform) → Trying Extent) :
    Trying Extent := do
  let map := node.transform scene.view
  let extent ← inside (place.comp map)
  let box? := extent.box.filter (·.hasArea)
  let fuel := scene.named.length + 1
  if !(← passesClip measure fuel scene box?.isSome node) then return {}
  else if !scene.clipping && !(← passesMask measure fuel scene box?.isSome node) then return {}
  else
    match if scene.clipping then some 0 else scene.filterCount? box? node with
    | none => return {}
    | some filters =>
      let changed := !scene.clipping &&
        ((scene.referred? node "mask").isSome || 0 < filters || node.isFaded)
      if forced || changed || !map.isId || (scene.referred? node "clip-path").isSome ||
          node.isMixed || node.kind == .group || node.kind == .use then
        return extent.grouped (shown.getD map)
      else return extent

/-- How far the drawing of a marker extends where a map places it; an empty one is left out. -/
def markerExtent (measure : Measuring) (scene : Scene) (place : Transform) (marker : Node)
    (map : Transform) : Trying Extent := do
  let inner := { scene with markers := marker.id :: scene.markers }
  let inside ← extentOfAll measure inner (place.comp map) marker.children
  return if inside.count = 0 then {} else inside.grouped map

def markersExtent (measure : Measuring) (scene : Scene) (place : Transform) (node : Node)
    (steps : List Segment) : Trying Extent := do
  let placed := (scene.markersOf node).flatMap fun (at?, marker) =>
    ((scene.markerMaps? node marker at? steps).getD []).map (marker, ·)
  let extents ← placed.mapM fun (marker, map) => markerExtent measure scene place marker map
  return (extents.foldl Extent.add {}).grouped .id

/-- How far a shape extends, with its markers. One that is painted with markers between its inside and
its line is left out where neither is painted. -/
def shapeExtent (measure : Measuring) (scene : Scene) (place : Transform) (node : Node) :
    Trying Extent := do
  let found : Option (List Segment × Rect × Rect) := do
    let steps ← node.segments? scene.view
    let box ← tightBox? steps
    return (steps, box, ← imageBox? steps box place)
  match found with
  | none => return {}
  | some (steps, box, placed) =>
    let isLeftOut := node.splitsPaint && !scene.isPainted node
    let drawn : Extent := if isLeftOut then {} else ⟨1, some box, some placed⟩
    if scene.hasMarkers node then
      return drawn.add (← markersExtent measure scene place node steps)
    else return drawn

/-- How far the inside of an element extends that is placed by another map than its own alone. -/
def placedExtent (measure : Measuring) (scene : Scene) (place map : Transform) (node : Node) :
    Trying Extent :=
  groupExtent measure scene (place.comp map) (!map.isId) (some map) node fun place =>
    extentOfAll measure scene place node.children

/-- How far the copy of a symbol extends. What is in it is measured in the place of the copy. -/
def symbolExtent (measure : Measuring) (scene : Scene) (place : Transform) (node symbol : Node) :
    Trying Extent := do
  let own := node.transform scene.view
  let x := node.length scene.view "x"
  let y := node.length scene.view "y"
  let moved := (Transform.move x y).comp (scene.boxMap node symbol)
  let (width, height) := scene.sidesOf node
  let inner := { scene with view := (Rect.withArea? x y width height).getD scene.view }
  if scene.clipping then return {}
  else if scene.isCut node symbol then
    let extent ← groupExtent measure scene place true (some .id) node fun place =>
      placedExtent measure inner place moved symbol
    if extent.count = 0 then return {} else return extent.grouped own
  else
    groupExtent measure scene place false (some .id) node fun place =>
      placedExtent measure inner place (own.comp moved) symbol

/-- How far the copy extends that an element shows. -/
def useExtent (measure : Measuring) (scene : Scene) (place : Transform) (node : Node) :
    Trying Extent :=
  match node.children with
  | [] => return {}
  | shown :: _ =>
    if shown.kind = .symbol then symbolExtent measure scene place node shown
    else
      let own := node.transform scene.view
      let moved := Transform.move (node.length scene.view "x") (node.length scene.view "y")
      let side (name : String) : Option Float32 :=
        (node.get? name).map fun _ => node.length scene.view name wholeLength
      let scene := if shown.kind = .svg then
          { scene with useWidth := side "width", useHeight := side "height" }
        else scene
      placedExtent measure scene place (own.comp moved) node

/-- How far a drawing inside of another one extends. -/
def innerExtent (measure : Measuring) (scene : Scene) (place : Transform) (node : Node) :
    Trying Extent := do
  let own := node.transform scene.view
  let x := node.length scene.view "x"
  let y := node.length scene.view "y"
  let moved := (Transform.move x y).comp (scene.boxMap node node)
  let (width, height) := scene.sidesOf node
  let view := (node.viewBox?.or (Rect.withArea? x y width height)).getD scene.view
  let inner := { scene with view }
  if scene.isCut node node then return (← placedExtent measure inner place moved node).grouped own
  else placedExtent measure inner place (own.comp moved) node

def shownExtent (measure : Measuring) (scene : Scene) (place : Transform) (node : Node) :
    Trying Extent :=
  let group := groupExtent measure scene place false none node
  match node.kind with
  | .use => useExtent measure scene place node
  | .switch =>
    match node.children.find? (·.meetsConditions) with
    | none => return {}
    | some child => group fun place => measure scene place child
  | .svg => group fun place => innerExtent measure scene place node
  | .group => group fun place => extentOfAll measure scene place node.children
  | .image => group fun place => return pictureExtent scene place node
  | _ => group fun place =>
    if isShape node.kind then shapeExtent measure scene place node else return {}

/-- How far an element extends. A clip path is drawn without groups. -/
def extentOf : (fuel : Nat) → Measuring
  | 0, _, _, _ => return {}
  | fuel + 1, scene, place, node =>
    let isKnown := if scene.clipping then canClip node.kind
      else isGraphic node.kind || node.kind ∈ [.group, .switch, .svg]
    if isKnown && node.isShown then shownExtent (extentOf fuel) scene place node else return {}

def extentFuel : Nat := 1000000

def Node.hasGround (node : Node) : Bool :=
  (node.get? "background-color").any isColor

/-- The box around all that a drawing of a size shows, if it shows something. A color behind it fills
its view. -/
def contentBox? (picture? : List Char → Option Size) (root : Node) (view : Rect) : Option Rect :=
  if !root.isShown then none
  else
    let root := root.withoutLoops
    let scene := Scene.ofDrawing picture? root view
    let measure := extentOf extentFuel
    let shown : Trying Extent := groupExtent measure scene .id false none root fun place =>
      extentOfAll measure scene place root.children
    unionOf? (shown.run []).1.placed (if root.hasGround then some view else none)

end SlidePress.Svg
