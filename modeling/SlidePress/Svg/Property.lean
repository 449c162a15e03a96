import SlidePress.Css.Sheet
import SlidePress.Svg.Length

/-!
The properties of an element: what its attributes say, what the style sheets say about it, and
what its own style says, each in place of what was said before, unless that was important.
-/

namespace SlidePress.Svg

def drawingSpace : List Char := "http://www.w3.org/2000/svg".toList

def linkSpace : List Char := "http://www.w3.org/1999/xlink".toList

structure Property where
  name : List Char
  value : List Char
  important : Bool
  deriving DecidableEq, Repr

/-- The properties of an element. The first one of a name counts. -/
abbrev Properties := List Property

/-- The properties of the elements around an element, from the inside out. -/
abbrev Surroundings := List Properties

def Properties.find? (properties : Properties) (name : List Char) : Option Property :=
  List.find? (·.name == name) properties

def Properties.get? (properties : Properties) (name : String) : Option (List Char) :=
  (properties.find? name.toList).map (·.value)

/-- The properties that styles can set and that elements do not take over from around them. -/
def ownStyleNames : List String := [
  "alignment-baseline", "background-color", "baseline-shift", "clip-path", "display",
  "dominant-baseline", "filter", "flood-color", "flood-opacity", "isolation", "lighting-color",
  "mask", "mask-type", "mix-blend-mode", "opacity", "overflow", "stop-color", "stop-opacity",
  "text-decoration", "transform", "transform-box", "transform-origin"]

/-- The properties that styles can set and that elements take over from around them. -/
def sharedStyleNames : List String := [
  "clip-rule", "color", "color-interpolation", "color-interpolation-filters", "color-rendering",
  "direction", "fill", "fill-opacity", "fill-rule", "font-family", "font-kerning", "font-size",
  "font-size-adjust", "font-stretch", "font-style", "font-variant", "font-weight",
  "glyph-orientation-horizontal", "glyph-orientation-vertical", "image-rendering",
  "letter-spacing", "marker-end", "marker-mid", "marker-start", "paint-order", "pointer-events",
  "shape-rendering", "stroke", "stroke-dasharray", "stroke-dashoffset", "stroke-linecap",
  "stroke-linejoin", "stroke-miterlimit", "stroke-opacity", "stroke-width", "text-anchor",
  "text-rendering", "unicode-bidi", "vector-effect", "visibility", "white-space", "word-spacing",
  "writing-mode"]

/-- The properties that cannot be asked to be those of the element around. -/
def neverTakenOver : List String := [
  "isolation", "mask-type", "mix-blend-mode", "paint-order", "transform", "transform-box",
  "transform-origin", "white-space"]

/-- What properties are when they are to be those of the elements around and these have none. -/
def usualValues : List (String × String) := [
  ("baseline-shift", "baseline"), ("clip-path", "none"), ("clip-rule", "nonzero"),
  ("color-interpolation-filters", "linearRGB"), ("direction", "ltr"), ("display", "inline"),
  ("fill", "black"), ("fill-opacity", "1"), ("fill-rule", "nonzero"), ("filter", "none"),
  ("flood-color", "black"), ("flood-opacity", "1"), ("font-size", "medium"),
  ("font-stretch", "normal"), ("font-style", "normal"), ("font-variant", "normal"),
  ("font-weight", "normal"), ("image-rendering", "auto"), ("letter-spacing", "normal"),
  ("marker-end", "none"), ("marker-mid", "none"), ("marker-start", "none"), ("mask", "none"),
  ("opacity", "1"), ("overflow", "visible"), ("shape-rendering", "auto"), ("stop-color", "black"),
  ("stop-opacity", "1"), ("stroke", "none"), ("stroke-dasharray", "none"),
  ("stroke-dashoffset", "0"), ("stroke-linecap", "butt"), ("stroke-linejoin", "miter"),
  ("stroke-miterlimit", "4"), ("stroke-opacity", "1"), ("stroke-width", "1"),
  ("text-anchor", "start"), ("text-decoration", "none"), ("text-rendering", "auto"),
  ("visibility", "visible"), ("word-spacing", "normal"), ("writing-mode", "lr-tb")]

def isStyleName (name : List Char) : Bool :=
  (ownStyleNames ++ sharedStyleNames).contains (String.ofList name)

/-- The word that asks for the value of the element around. -/
def takeOver : List Char := "inherit".toList

def takenOver? (around : Surroundings) (name : List Char) : Option Property :=
  let found := if sharedStyleNames.contains (String.ofList name) then
      around.findSome? (·.find? name)
    else around.head?.bind (·.find? name)
  match found with
  | some property => some property
  | none => (usualValues.lookup (String.ofList name)).map fun value => ⟨name, value.toList, false⟩

def said? (around : Surroundings) (property : Property) : Option Property :=
  if property.value = takeOver ∧ isStyleName property.name ∧
      !neverTakenOver.contains (String.ofList property.name) then
    takenOver? around property.name
  else some property

/-- Puts a property in the place of the one of the same name, unless that is important. -/
def Properties.put (properties : Properties) (property : Property) : Properties :=
  match properties with
  | [] => [property]
  | first :: rest =>
    if first.name = property.name then (if first.important then first else property) :: rest
    else first :: Properties.put rest property

def fontWords : List String := [
  "normal", "small-caps", "italic", "oblique", "bold", "bolder", "lighter", "100", "200", "300",
  "400", "500", "600", "700", "800", "900", "ultra-condensed", "extra-condensed", "condensed",
  "semi-condensed", "semi-expanded", "expanded", "extra-expanded", "ultra-expanded"]

/-- How many words may stand in front of the size of a font. -/
def mostFontWords : Nat := 4

def afterFontWords : (count : Nat) → List Char → List Char
  | 0, text => text
  | count + 1, text =>
    let word := text.takeWhile isWordChar
    if fontWords.contains (String.ofList word) then
      afterFontWords count ((text.dropWhile isWordChar).dropWhile isSpace)
    else text

/-- The size that a font has when all of it is said at once: words, the size, perhaps the height
of a line, and a family. -/
def sizeOfFont? (font : List Char) : Option (List Char) := do
  let text := afterFontWords mostFontWords (font.dropWhile isSpace)
  let first ← text.head?
  let rest ← if first.isDigit then (readLength text).map (·.2)
    else
      let word := String.ofList (text.takeWhile isWordChar)
      if (fontSteps.lookup word).isSome then some (text.dropWhile isWordChar) else none
  let size := text.take (text.length - rest.length)
  let rest ← match rest.dropWhile isSpace with
    | '/' :: rest => (readLength (rest.dropWhile isSpace)).map (·.2.dropWhile isSpace)
    | rest => some rest
  if rest.isEmpty then none else some size

/-- The properties that a declaration sets. A font sets its size. -/
def saidBy (declaration : Css.Declaration) : Properties :=
  let { name, value, important } := declaration
  if name = "marker".toList then
    ["marker-start", "marker-mid", "marker-end"].map fun name => ⟨name.toList, value, important⟩
  else if name = "font".toList then
    (sizeOfFont? value).toList.map fun size => ⟨"font-size".toList, size, important⟩
  else if isStyleName name then [⟨name, value, important⟩]
  else []

def styleOnly : List String := ["style", "class", "mix-blend-mode", "isolation", "font-kerning"]

/-- The properties that the attributes of an element say. An element that stands in the place of
another one has no name of its own. -/
def saidByAttributes (nameless : Bool) (element : Xml.Element) : Properties :=
  element.attributes.filterMap fun (name, value) =>
    if name.space.all [drawingSpace, linkSpace, Xml.xmlSpace].contains &&
        !styleOnly.contains (String.ofList name.own) && !(nameless && name.own == ['i', 'd']) then
      some ⟨name.own, value, false⟩
    else none

/-- The declarations about an element: those of the rules that choose it, and its own. -/
def declarationsAbout (document : Xml.Document) (rules : List Css.Rule) (element : Xml.Element) :
    List Css.Declaration :=
  (rules.filter (·.selector.chooses document element)).flatMap (·.declarations) ++
    ((element.attribute? "style").map Css.declarationsOf).getD []

def propertiesOf (document : Xml.Document) (rules : List Css.Rule) (around : Surroundings)
    (nameless : Bool) (element : Xml.Element) : Properties :=
  let front := (saidByAttributes nameless element).filterMap (said? around)
  (((declarationsAbout document rules element).flatMap saidBy).filterMap (said? around)).foldl
    Properties.put front

end SlidePress.Svg
