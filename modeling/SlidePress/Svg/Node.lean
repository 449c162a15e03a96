import SlidePress.Failure
import SlidePress.Svg.Property

/-!
A drawing as a tree of the elements that a drawing can have, with their properties. Elements that
it cannot have are left out with all that is in them. An element that uses another one holds a
copy of it.
-/

namespace SlidePress.Svg

/-- What is wrong with a drawing that is to become a picture. -/
inductive Trouble where
  | notText
  /-- A compressed drawing that cannot be unpacked. -/
  | notCompressed
  | notMarkup
  /-- Elements deeper in each other, or more of them, than a drawing may have. -/
  | tooManyElements
  | noSize
  deriving DecidableEq, Repr

def Trouble.message : Trouble → String
  | .notText => "provided data has not an UTF-8 encoding"
  | .notCompressed => "provided data has a malformed GZip content"
  | .notMarkup => "SVG data parsing failed"
  | .tooManyElements => "the maximum number of SVG elements has been reached"
  | .noSize => "SVG has an invalid size"

/-- What an element of a drawing is. -/
inductive Kind where
  | svg
  | group
  | definitions
  | symbol
  | use
  | switch
  | rect
  | circle
  | ellipse
  | line
  | polyline
  | polygon
  | path
  | image
  | text
  | clipPath
  | mask
  | filter
  | filterStep
  | marker
  /-- An element that shows nothing by itself. -/
  | plain
  deriving DecidableEq, Repr

/-- The elements of drawings by their names. A link is a group. -/
def kindNames : List (String × Kind) := [
  ("a", .group), ("circle", .circle), ("clipPath", .clipPath), ("defs", .definitions),
  ("ellipse", .ellipse), ("feBlend", .filterStep), ("feColorMatrix", .filterStep),
  ("feComponentTransfer", .filterStep), ("feComposite", .filterStep),
  ("feConvolveMatrix", .filterStep), ("feDiffuseLighting", .filterStep),
  ("feDisplacementMap", .filterStep), ("feDistantLight", .plain), ("feDropShadow", .filterStep),
  ("feFlood", .filterStep), ("feFuncA", .plain), ("feFuncB", .plain), ("feFuncG", .plain),
  ("feFuncR", .plain), ("feGaussianBlur", .filterStep), ("feImage", .filterStep),
  ("feMerge", .filterStep), ("feMergeNode", .plain), ("feMorphology", .filterStep),
  ("feOffset", .filterStep), ("fePointLight", .plain), ("feSpecularLighting", .filterStep),
  ("feSpotLight", .plain), ("feTile", .filterStep), ("feTurbulence", .filterStep),
  ("filter", .filter), ("g", .group), ("image", .image), ("line", .line),
  ("linearGradient", .plain), ("marker", .marker), ("mask", .mask), ("path", .path),
  ("pattern", .plain), ("polygon", .polygon), ("polyline", .polyline), ("radialGradient", .plain),
  ("rect", .rect), ("stop", .plain), ("svg", .svg), ("switch", .switch), ("symbol", .symbol),
  ("text", .text), ("textPath", .plain), ("tref", .plain), ("tspan", .plain), ("use", .use)]

/-- What an element is in a drawing, if it can be in one. Its name is in the namespace of drawings
or in none. -/
def kindOf? (element : Xml.Element) : Option Kind :=
  if element.name.space.all (· == drawingSpace) then
    kindNames.lookup (String.ofList element.name.own)
  else none

/-- What an element says, with the size of its font. -/
abbrev Manner := Properties × Float32

/-- An element of a drawing. Its font size is the one that lengths in it are measured in. -/
structure Node where
  kind : Kind
  properties : Properties
  fontSize : Float32
  /-- What the elements around say, from the inside out. -/
  around : List Manner
  children : List Node
  deriving Repr

def Node.get? (node : Node) (name : String) : Option (List Char) :=
  node.properties.get? name

/-- The value of a property that an element has, or else takes over from around it, and the font size of
the element that says it. -/
def Node.takes? (node : Node) (name : String) : Option (List Char × Float32) :=
  ((node.properties, node.fontSize) :: node.around).findSome? fun (properties, fontSize) =>
    (properties.get? name).map (·, fontSize)

def Node.id (node : Node) : List Char :=
  (node.get? "id").getD []

def readLink? (text : List Char) : Option (List Char) :=
  match text.dropWhile isSpace with
  | '#' :: rest =>
    let name := rest.takeWhile (· ≠ ' ')
    if name.isEmpty || !((rest.dropWhile (· ≠ ' ')).all isSpace) then none else some name
  | _ => none

def linked? (document : Xml.Document) (element : Xml.Element) : Option Nat := do
  let link ← (element.attributes.lookup ⟨some linkSpace, "href".toList⟩).or
    (element.attribute? "href")
  let name ← readLink? link
  document.find? fun other => other.attribute? "id" == some name

def isInside (document : Xml.Document) (outer : Nat) : (fuel : Nat) → (index : Nat) → Bool
  | 0, _ => false
  | fuel + 1, index =>
    match (document.element? index).bind (·.parent) with
    | some parent => parent == outer || isInside document outer fuel parent
    | none => false

/-- Whether something inside of an element uses that element again, or what uses it. -/
def usesBack (document : Xml.Document) (user used : Nat) : Bool :=
  (document.elements.toList.zipIdx.filter fun (element, index) =>
    element.name == ⟨some drawingSpace, "use".toList⟩ &&
      isInside document used document.elements.size index).any fun (element, _) =>
    match linked? document element with
    | some other => other == user || other == used
    | none => false

/-- The element that an element is to show a copy of, wherever it stands. -/
def usedBy? (document : Xml.Document) (index : Nat) : Option Nat := do
  let link ← linked? document (← document.element? index)
  if link = index then none
  else if (kindOf? (← document.element? link)).isNone then none
  else if usesBack document index link then none
  else some link

/-- A document with what is found in it once for all copies. -/
structure Source where
  document : Xml.Document
  rules : List Css.Rule
  /-- The elements that the elements show copies of. -/
  used : Array (Option Nat)

def Source.ofDocument (document : Xml.Document) : Source where
  document
  rules := Css.rulesOf document
  used := ((List.range document.elements.size).map (usedBy? document)).toArray

/-- The element that an element shows a copy of which itself is shown for `origin`. That one is not
shown again. -/
def Source.used? (source : Source) (origin? : Option Nat) (index : Nat) : Option Nat :=
  (source.used[index]?.join).filter (some · ≠ origin?)

/-- How deep elements may lie in each other. -/
def deepest : Nat := 1024

/-- How many elements a drawing may have. -/
def mostNodes : Nat := 1000000

/-- Where an element stands when its node is made. -/
structure Position where
  /-- The element that it is shown for, if it is part of a copy. -/
  origin : Option Nat := none
  around : List Manner := []
  fontSize : Float32 := usualFontSize
  /-- Whether elements keep their names. A copy has none. -/
  nameless : Bool := false

/-- The nodes of what stands in an element one after another, made with `make`, and the count of
nodes. -/
def gather (make : (count : Nat) → Xml.Child → Except Trouble (List Node × Nat)) :
    (count : Nat) → List Xml.Child → Except Trouble (List Node × Nat)
  | count, [] => .ok ([], count)
  | count, child :: children => do
    let (nodes, count) ← make count child
    let (more, count) ← gather make count children
    return (nodes ++ more, count)

def Source.propertiesAt (source : Source) (position : Position) (element : Xml.Element) : Properties :=
  propertiesOf source.document source.rules (position.around.map (·.1)) position.nameless element

def Position.inside (position : Position) (properties : Properties) : Position :=
  let fontSize := match properties.get? "font-size" with
    | some said => fontSizeWithin position.fontSize said
    | none => position.fontSize
  { position with around := (properties, fontSize) :: position.around, fontSize }

/-- The names of the elements that a text is made of. Links are parts of it too. -/
def textPartNames : List String := ["a", "textPath", "tref", "tspan"]

/-- The nodes of something that stands in a text: one, or none if it is no part of a text. Parts keep
their names in copies too. -/
def textNodesOf (source : Source) :
    (fuel : Nat) → Position → (count : Nat) → Xml.Child → Except Trouble (List Node × Nat)
  | 0, _, count, _ | _, _, count, .aside => .ok ([], count)
  | _, _, count, .text _ => .ok ([], count + 1)
  | fuel + 1, position, count, .element index =>
    match source.document.element? index with
    | none => .ok ([], count)
    | some element =>
      let name := String.ofList element.name.own
      if (kindOf? element).isNone || !textPartNames.contains name then .ok ([], count)
      else do
        if mostNodes < count then throw .tooManyElements
        let properties := source.propertiesAt { position with nameless := false } element
        let inner := position.inside properties
        let (children, count) ← if name = "tref" then pure ([], count + 1)
          else gather (textNodesOf source fuel inner) (count + 1) element.children.toList
        return ([⟨.plain, properties, inner.fontSize, position.around, children⟩], count)

/-- The nodes of something that stands in an element: one, or none if a drawing cannot have it.
The fuel is what is left of the depth that elements may have. -/
def nodesOf (source : Source) :
    (fuel : Nat) → Position → (count : Nat) → Xml.Child → Except Trouble (List Node × Nat)
  | 0, _, _, _ => .error .tooManyElements
  | fuel + 1, position, count, child =>
    match child with
    | .text _ | .aside => .ok ([], count)
    | .element index =>
      match source.document.element? index with
      | none => .ok ([], count)
      | some element =>
        match kindOf? element with
        | none => .ok ([], count)
        | some kind => do
          if mostNodes < count then throw .tooManyElements
          let properties := source.propertiesAt position element
          let inner := position.inside properties
          let children := element.children.toList
          let (children, count) ← match kind with
            | .text =>
              gather (textNodesOf source source.document.elements.size inner) (count + 1) children
            | .use =>
              match fuel, source.used? position.origin index with
              | _, none => pure ([], count + 1)
              | 0, some _ => throw .tooManyElements
              | fuel + 1, some link =>
                nodesOf source fuel
                  { inner with origin := some index, nameless := true } (count + 1) (.element link)
            | _ => gather (nodesOf source fuel inner) (count + 1) children
          return ([⟨kind, properties, inner.fontSize, position.around, children⟩], count)

/-- The drawing that a document is: its outermost element, which must be one. -/
def drawingOf (document : Xml.Document) : Except Trouble Node :=
  match nodesOf (.ofDocument document) (deepest + 1) {} 1 (.element 0) with
  | .error trouble => .error trouble
  | .ok (node :: _, _) => if node.kind = .svg then .ok node else .error .notMarkup
  | .ok ([], _) => .error .notMarkup

end SlidePress.Svg
