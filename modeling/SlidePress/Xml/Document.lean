import SlidePress.Xml.Content
import SlidePress.Xml.Prolog
import SlidePress.Xml.Scope

/-!
Documents as trees of elements. The elements are numbered in the order of their tags, so that each
of them is reached by its number, and so are the one around it and the one in front of it.
-/

namespace SlidePress.Xml

/-- What stands directly inside of an element. -/
inductive Child where
  | text (content : List Char)
  /-- A comment or an instruction. -/
  | aside
  | element (index : Nat)
  deriving DecidableEq, Repr

structure Element where
  name : FullName
  attributes : List (FullName × List Char)
  /-- The element around this one. -/
  parent : Option Nat
  /-- The element in front of this one in the same element. -/
  previous : Option Nat
  children : Array Child
  deriving Repr

/-- The elements of a document. The first one holds all others. -/
structure Document where
  elements : Array Element

/-- An element whose closing tag has not come yet. -/
structure Opened where
  index : Nat
  name : Name
  scope : Scope

/-- A document whose marks have been read up to some point, the innermost open element first. -/
structure Growth where
  elements : Array Element := #[]
  opened : List Opened := []

namespace Growth

def addChild (growth : Growth) (child : Child) : Growth :=
  match growth.opened with
  | [] => growth
  | top :: _ =>
    { growth with elements := growth.elements.modify top.index fun element =>
        { element with children := element.children.push child } }

/-- Adds text to the innermost open element; texts in a row are one. -/
def addText (growth : Growth) (content : List Char) : Growth :=
  match growth.opened with
  | [] => growth
  | top :: _ =>
    { growth with elements := growth.elements.modify top.index fun element =>
        let children := match element.children.back? with
          | some (.text front) => element.children.pop.push (.text (front ++ content))
          | _ => element.children.push (.text content)
        { element with children } }

def lastElement? (growth : Growth) : Option Nat := do
  let top ← growth.opened.head?
  let element ← growth.elements[top.index]?
  element.children.findSomeRev? fun
    | .element index => some index
    | _ => none

/-- Opens an element. Only one can be outside of all others. -/
def openTag (growth : Growth) (tag : Tag) : Option Growth := do
  let scope := (← tag.declared?) ++ (growth.opened.head?.map (·.scope)).getD []
  let attributes ← tag.fullAttributes? scope
  let name ← elementName? scope tag.name
  let index := growth.elements.size
  if growth.opened.isEmpty && 0 < index then none
  else
    let element : Element :=
      ⟨name, attributes, growth.opened.head?.map (·.index), growth.lastElement?, #[]⟩
    let grown := growth.addChild (.element index)
    return ⟨grown.elements.push element, ⟨index, tag.name, scope⟩ :: growth.opened⟩

/-- Closes the innermost open element, which must have the name. -/
def close (growth : Growth) (name : Name) : Option Growth :=
  match growth.opened with
  | top :: opened => if top.name = name then some { growth with opened } else none
  | [] => none

def add (growth : Growth) : Mark → Option Growth
  | .opening tag => growth.openTag tag
  | .single tag => (growth.openTag tag).bind (·.close tag.name)
  | .closing name => growth.close name
  | .text content => some (growth.addText content)
  | .aside => some (growth.addChild .aside)

end Growth

/-- The document with the given marks, if its tags fit together. -/
def Document.ofMarks? (marks : List Mark) : Option Document := do
  let growth ← marks.foldlM Growth.add {}
  if growth.opened.isEmpty && !growth.elements.isEmpty then some ⟨growth.elements⟩ else none

def readRoot (entities : Entities) (text : List Char) : Option (List Mark × List Char) :=
  match text with
  | '<' :: text => do
    let (tag, finish, rest) ← readTag text
    let (tag, _) ← tag.withValues? entities entityRoom 0
    match finish with
    | .single => return ([.single tag], rest)
    | .opening =>
      let inside ← readInside entities [.opening tag] rest
      return (inside.marks.reverse, inside.rest)
  | _ => none

/-- The document that a text spells. A byte order mark may stand in front. -/
def Document.ofText? (text : List Char) : Option Document := do
  let text := match text with
    | '\uFEFF' :: rest => rest
    | text => text
  let (entities, rest) ← readProlog text
  let (marks, rest) ← readRoot entities rest
  let rest ← skipAsides (rest.length + 1) rest
  if rest.isEmpty then Document.ofMarks? marks else none

namespace Document

def element? (document : Document) (index : Nat) : Option Element :=
  document.elements[index]?

def find? (document : Document) (property : Element → Bool) : Option Nat :=
  document.elements.findIdx? property

end Document

def Element.attribute? (element : Element) (name : String) : Option (List Char) :=
  element.attributes.lookup ⟨none, name.toList⟩

def Element.frontText? (element : Element) : Option (List Char) :=
  match element.children.toList with
  | .text content :: _ => some content
  | _ => none

end SlidePress.Xml
