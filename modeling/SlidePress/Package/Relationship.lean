import SlidePress.Xml.Tree

/-!
Relationships tie the parts of a package together. The relationships of a part are a part of their
own: a list of identifiers, each with the role of the part it stands for and with its path as seen
from the folder of the part that has the relationships.
-/

namespace SlidePress

open Xml (Node tag)

/-- What one part is to another. -/
inductive Role where
  | document
  | coreProperties
  | extendedProperties
  | slideMaster
  | slideLayout
  | theme
  | slide
  deriving DecidableEq, Repr

def Role.uri : Role → String
  | .document =>
    "http://schemas.openxmlformats.org/officeDocument/2006/relationships/officeDocument"
  | .coreProperties =>
    "http://schemas.openxmlformats.org/package/2006/relationships/metadata/core-properties"
  | .extendedProperties =>
    "http://schemas.openxmlformats.org/officeDocument/2006/relationships/extended-properties"
  | .slideMaster => "http://schemas.openxmlformats.org/officeDocument/2006/relationships/slideMaster"
  | .slideLayout => "http://schemas.openxmlformats.org/officeDocument/2006/relationships/slideLayout"
  | .theme => "http://schemas.openxmlformats.org/officeDocument/2006/relationships/theme"
  | .slide => "http://schemas.openxmlformats.org/officeDocument/2006/relationships/slide"

/-- A relationship under the number of its identifier. -/
structure Relationship where
  id : Nat
  role : Role
  target : String
  deriving DecidableEq, Repr

def relationshipId (id : Nat) : String :=
  s!"rId{id}"

/-- An element on a line of its own, indented below its parent. -/
def indented (node : Node) : List Node :=
  [.text "\n    ", node]

namespace Relationship

def markup (relationship : Relationship) : Node :=
  tag "Relationship" [("Id", relationshipId relationship.id), ("Type", relationship.role.uri),
    ("Target", relationship.target)]

def listMarkup (relationships : List Relationship) : Node :=
  tag "Relationships" [("xmlns", "http://schemas.openxmlformats.org/package/2006/relationships")]
    (relationships.flatMap (indented ·.markup) ++ [.text "\n"])

def part (relationships : List Relationship) : String :=
  Xml.document (listMarkup relationships)

end Relationship

end SlidePress
