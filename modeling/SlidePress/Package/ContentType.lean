import SlidePress.Package.Relationship

/-!
The list of what the parts of a package hold: a default for every ending of a name and an entry of
its own for each part that the default would not describe.
-/

namespace SlidePress

open Xml (Node tag)

/-- What a part holds. -/
structure ContentType where
  partName : String
  type : String
  deriving DecidableEq, Repr

namespace ContentType

/-- The types of all documents of this format begin alike. -/
def officeType (rest : String) : String :=
  s!"application/vnd.openxmlformats-officedocument.{rest}+xml"

def markup (entry : ContentType) : Node :=
  tag "Override" [("PartName", entry.partName), ("ContentType", entry.type)]

def defaults : List Node := [
  tag "Default" [("Extension", "xml"), ("ContentType", "application/xml")],
  tag "Default" [("Extension", "rels"),
    ("ContentType", "application/vnd.openxmlformats-package.relationships+xml")]]

def fixed : List ContentType := [
  ⟨"/ppt/presentation.xml", officeType "presentationml.presentation.main"⟩,
  ⟨"/ppt/slideMasters/slideMaster1.xml", officeType "presentationml.slideMaster"⟩,
  ⟨"/ppt/slideLayouts/slideLayout1.xml", officeType "presentationml.slideLayout"⟩,
  ⟨"/ppt/theme/theme1.xml", officeType "theme"⟩,
  ⟨"/docProps/core.xml", "application/vnd.openxmlformats-package.core-properties+xml"⟩,
  ⟨"/docProps/app.xml", officeType "extended-properties"⟩]

def slides (count : Nat) : List ContentType :=
  (List.range' 1 count).map fun number =>
    ⟨s!"/ppt/slides/slide{number}.xml", officeType "presentationml.slide"⟩

/-- The list for a package with `count` slides; without slides their place is an empty line. -/
def listMarkup (count : Nat) : Node :=
  let entries := (fixed ++ slides count).map markup
  tag "Types" [("xmlns", "http://schemas.openxmlformats.org/package/2006/content-types")]
    ((defaults ++ entries).flatMap indented ++ [.text (if count = 0 then "\n\n" else "\n")])

def part (count : Nat) : String :=
  Xml.document (listMarkup count)

end ContentType

end SlidePress
