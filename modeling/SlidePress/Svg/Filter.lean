import SlidePress.Svg.Color
import SlidePress.Svg.Scene

/-!
Filters of elements: a list of functions and of references to filters of the drawing. A list with a
mistake in it is no list. An element of which no filter works is not shown at all if one is missing.
-/

namespace SlidePress.Svg

/-! ### Lists of filters -/

inductive Filter where
  /-- The filter of a name in the drawing. -/
  | named (id : List Char)
  /-- A function. -/
  | function
  deriving DecidableEq, Repr

/-- Passes over what is read in front of a bracket, if something is there. -/
def afterOptional? (after? : List Char → Option (List Char)) (text : List Char) :
    Option (List Char) :=
  if text.head? = some ')' then some text else after? text

/-- Passes over a length that is no percentage; it has no minus sign unless `signed`. -/
def afterLength? (signed : Bool) (text : List Char) : Option (List Char) := do
  let (measure, rest) ← readLength text
  if measure.unit = .percent ∨ ¬signed ∧ hasMinus measure.number then none else some rest

/-- Passes over a number or a percentage without a minus sign. -/
def afterAmount? (text : List Char) : Option (List Char) := do
  let (number, _) ← readNumber text
  let (_, rest) ← afterShare? text
  if hasMinus number then none else some rest

/-- Passes over a color if there is one, and tells whether it was there. -/
def afterSomeColor (text : List Char) : Bool × List Char :=
  match afterColor? text with
  | some rest => (true, afterSeparator rest)
  | none => (false, text)

/-- Passes over a shadow: how far it is away in both directions, how much it is blurred, and its color,
which may stand in front. -/
def afterShadow? (text : List Char) : Option (List Char) := do
  let (colored, rest) := afterSomeColor text
  let rest ← afterLength? true rest
  let rest ← afterLength? true (afterSeparator rest)
  let rest := afterSeparator rest
  let rest := ((afterLength? false rest).map afterSeparator).getD rest
  return if colored then rest else (afterSomeColor rest).2

/-- What the arguments of the functions are, by their names. -/
def argumentReaders : List (String × (List Char → Option (List Char))) := [
  ("blur", afterOptional? (afterLength? false)), ("drop-shadow", afterShadow?),
  ("brightness", afterOptional? afterAmount?), ("contrast", afterOptional? afterAmount?),
  ("grayscale", afterOptional? afterAmount?), ("invert", afterOptional? afterAmount?),
  ("opacity", afterOptional? afterAmount?), ("sepia", afterOptional? afterAmount?),
  ("saturate", afterOptional? afterAmount?),
  ("hue-rotate", afterOptional? fun text => (readAngle text).map (·.2))]

def readFilter? (text : List Char) : Option (Filter × List Char) := do
  let name := String.ofList (text.takeWhile isWordChar)
  let '(' :: rest := (text.dropWhile isWordChar).dropWhile isSpace | none
  let rest := rest.dropWhile isSpace
  let (filter, rest) ←
    if name = "url" then
      match rest with
      | '#' :: rest =>
        let isEnd (c : Char) : Bool := c == ' ' || c == ')'
        some (.named (rest.takeWhile (!isEnd ·)), rest.dropWhile (!isEnd ·))
      | _ => none
    else
      match argumentReaders.lookup name with
      | some after? => (after? rest).map (.function, ·)
      | none => none
  let ')' :: rest := rest.dropWhile isSpace | none
  return (filter, rest)

def readFilters : (fuel : Nat) → List Char → Option (List Filter)
  | 0, _ => none
  | fuel + 1, text =>
    match text.dropWhile isSpace with
    | [] => some []
    | text => do
      let (filter, rest) ← readFilter? text
      return filter :: (← readFilters fuel rest)

/-! ### Whether filters work -/

def Scene.filterChildren? (scene : Scene) : (fuel : Nat) → Node → Option (List Node)
  | 0, _ => none
  | fuel + 1, node =>
    if node.kind ≠ .filter then none
    else if !node.children.isEmpty then some node.children
    else do
      let id ← (node.get? "href").bind readLink?
      scene.filterChildren? fuel (← scene.find? id)

/-- Whether a step of a filter has a region, in parts of the box of an element or in the region of the
filter. -/
def Scene.hasStepRegion (scene : Scene) (step : Node) (ofBox : Bool) (region : Rect) : Bool :=
  let length (name : String) (usual : Float32) : Float32 :=
    match step.measure? name with
    | some measure => scene.pixelsIn step ofBox name measure
    | none => usual
  let room : Rect := if ofBox then ⟨0, 0, 1, 1⟩ else region
  (Rect.withArea? (length "x" room.left) (length "y" room.top) (length "width" room.width)
    (length "height" room.height)).isSome

/-- Whether a filter does something to an element with a box or without one: it has a region, and its
first step has one. -/
def Scene.works (scene : Scene) (box? : Option Rect) (node : Node) : Bool :=
  let ofBox := (boxUnits? node "filterUnits").getD true
  let stepsOfBox := (boxUnits? node "primitiveUnits").getD false
  let found : Option Bool := do
    let region ← scene.region? node ofBox
    let region ← if ofBox then region.within? (← box?) else some region
    let children ← scene.filterChildren? (scene.named.length + 1) node
    let step ← children.find? (·.kind == .filterStep)
    return scene.hasStepRegion step stepsOfBox region
  node.kind == .filter && (box?.isSome || !stepsOfBox) && found.getD false

/-- How many filters of an element with a box or without one work; there is no answer where none does
and one is missing. Functions need a box. -/
def Scene.filterCount? (scene : Scene) (box? : Option Rect) (node : Node) : Option Nat :=
  let filters := ((node.get? "filter").bind fun text =>
    if text = "none".toList then none else readFilters (text.length + 1) text).getD []
  let works (id : List Char) : Bool := (scene.find? id).any (scene.works box?)
  let count := filters.countP fun
    | .named id => works id
    | .function => box?.isSome
  let isMissing := filters.any fun
    | .named id => !works id
    | .function => false
  if count = 0 ∧ isMissing then none else some count

end SlidePress.Svg
