import SlidePress.Svg.Shape

/-!
What decides, before anything is drawn, whether an element is shown and how it is placed: whether
it is switched off, the conditions that it makes, and its own map with the point that this map
leaves alone.
-/

namespace SlidePress.Svg

/-- Reads a reference to an element of the same document in brackets, at the front of a text. -/
def readReference (text : List Char) : Option (List Char × List Char) := do
  let rest ← Text.after? "url(".toList (text.dropWhile isSpace)
  let rest := rest.dropWhile isSpace
  let (quote?, rest) := match rest with
    | '"' :: rest => (some '"', rest.dropWhile isSpace)
    | '\'' :: rest => (some '\'', rest.dropWhile isSpace)
    | rest => (none, rest)
  let '#' :: rest := rest | none
  let inName (c : Char) : Bool := match quote? with
    | some quote => c ≠ quote
    | none => c ≠ ' ' && c ≠ ')'
  let written := rest.takeWhile inName
  let name := if quote?.isSome then Text.trimRight written else written
  let rest := rest.dropWhile inName
  if name.isEmpty || name.any (fun c => c == '"' || c == '\'') then none
  else
    let rest ← match quote?, rest with
      | none, rest => some rest
      | some _, _ :: rest => some rest
      | some _, [] => none
    let ')' :: rest := rest.dropWhile isSpace | none
    return (name, rest)

/-- Reads a reference to an element of the same document, with nothing but white space behind it. -/
def readReference? (text : List Char) : Option (List Char) :=
  match readReference text with
  | some (name, rest) => if rest.all isSpace then some name else none
  | none => none

def viewerLanguage : List Char := ['e', 'n']

def isUnderstood (language : List Char) : Bool :=
  match Text.after? viewerLanguage (Text.trim language) with
  | some rest => rest.head?.all (· == '-')
  | none => false

def featureSpace : List Char := "http://www.w3.org/TR/SVG11/feature#".toList

def featureNames : List String := [
  "SVGDOM-static", "SVG-static", "CoreAttribute", "Structure", "BasicStructure",
  "ContainerAttribute", "ConditionalProcessing", "Image", "Style", "Shape", "Text", "BasicText",
  "PaintAttribute", "BasicPaintAttribute", "OpacityAttribute", "GraphicsAttribute",
  "BasicGraphicsAttribute", "Marker", "Gradient", "Pattern", "Clip", "BasicClip", "Mask", "Filter",
  "BasicFilter", "XlinkAttribute"]

def hasFeature (feature : List Char) : Bool :=
  (Text.after? featureSpace feature).any fun name => featureNames.contains (String.ofList name)

/-- Whether the conditions that an element makes are met. No extension is there. -/
def Node.meetsConditions (node : Node) : Bool :=
  (node.get? "requiredExtensions").isNone &&
    ((node.get? "requiredFeatures").all fun features => (Text.pieces ' ' features).all hasFeature) &&
    (node.get? "systemLanguage").all fun languages => (Text.pieces ',' languages).any isUnderstood

def Node.isShown (node : Node) : Bool :=
  node.get? "display" ≠ some "none".toList &&
    ((node.get? "transform").bind readTransform?).all (·.isVisible) && node.meetsConditions

/-- A coordinate of a point: a length, a word for one side of it, or the centre. -/
inductive Coordinate where
  | length (measure : Measure)
  | side (horizontal : Bool) (percent : Float)
  | center

def placeNames : List (List Char × Coordinate) := [
  ("left".toList, .side true 0), ("right".toList, .side true 100), ("top".toList, .side false 0),
  ("bottom".toList, .side false 100), ("center".toList, .center)]

def half : Measure := ⟨50, .percent⟩

def readCoordinate (text : List Char) : Option (Coordinate × List Char) :=
  let text := text.dropWhile isSpace
  let word? := placeNames.findSome? fun (word, place) => (Text.after? word text).map (place, ·)
  word?.or ((readLength text).map fun (measure, rest) => (.length measure, rest))

/-- A coordinate as a length in its direction, if it can be one. -/
def Coordinate.along? (horizontal : Bool) : Coordinate → Option Measure
  | .length measure => some measure
  | .side along percent => if along = horizontal then some ⟨percent, .percent⟩ else none
  | .center => some half

/-- A point with two coordinates. Words may be in either order. -/
def originOf? (first second : Coordinate) : Option (Measure × Measure) :=
  match first.along? true, second.along? false, first.along? false, second.along? true with
  | some x, some y, _, _ => some (x, y)
  | _, _, some y, some x => some (x, y)
  | _, _, _, _ => none

def isDepth (text : List Char) : Bool :=
  match readLength text with
  | some (measure, rest) => measure.unit ≠ .percent && rest.all isSpace
  | none => false

/-- Reads a point: one coordinate, or two and perhaps a depth behind them. Where something follows
a coordinate, white space too, there has to be another one. -/
def readOrigin? (text : List Char) : Option (Measure × Measure) := do
  let (first, rest) ← readCoordinate text
  if rest.isEmpty then
    match first.along? true, first.along? false with
    | some x, _ => return (x, half)
    | none, some y => return (half, y)
    | none, none => none
  else
    let (second, rest) ← readCoordinate (afterSeparator rest)
    if rest.isEmpty || isDepth (afterSeparator rest) then originOf? first second else none

/-- The map of an element. One that leaves nothing to be seen counts as none. -/
def Node.transform (node : Node) (view : Rect) : Transform :=
  let map := (((node.get? "transform").bind readTransform?).filter (·.isVisible)).getD .id
  match (node.get? "transform-origin").bind readOrigin? with
  | none => map
  | some (x, y) =>
    let dx := node.pixelsOf view "width" x
    let dy := node.pixelsOf view "height" y
    ((Transform.move dx dy).comp map).comp (.move (-dx) (-dy))

def Node.viewBox? (node : Node) : Option Rect :=
  (node.get? "viewBox").bind readBox?

def Node.fit (node : Node) : Fit :=
  ((node.get? "preserveAspectRatio").bind readFit?).getD usualFit

/-- The sides of the place that an element has for a picture. Where it gives one of them, the other
one is in proportion to it. -/
def Node.pictureSides (node : Node) (view : Rect) (size : Size) : Float32 × Float32 :=
  let side (name : String) (usual : Float32) : Float32 :=
    node.length view name ⟨usual.toFloat, .none⟩
  let width := side "width" size.width
  let height := side "height" size.height
  match node.measure? "width", node.measure? "height" with
  | some _, none => (width, size.height * (width / size.width))
  | none, some _ => (size.width * (height / size.height), height)
  | _, _ => (width, height)

end SlidePress.Svg
