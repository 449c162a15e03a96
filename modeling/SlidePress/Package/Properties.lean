import SlidePress.Package.Relationship

/-!
What a package tells about itself: its title, who wrote it and when, and how many slides it has.
-/

namespace SlidePress.Properties

open Xml (Node tag)

/-- The program by its name in the packages that it writes. -/
def creator : String := "deckhand"

def extendedMarkup (slideCount : Nat) : Node :=
  tag "Properties" [
    ("xmlns", "http://schemas.openxmlformats.org/officeDocument/2006/extended-properties"),
    ("xmlns:vt", "http://schemas.openxmlformats.org/officeDocument/2006/docPropsVTypes")]
    (indented (tag "Application" [] [.text creator]) ++
      indented (tag "PresentationFormat" [] [.text "Custom"]) ++
      indented (tag "Slides" [] [.text (toString slideCount)]) ++ [.text "\n"])

def coreMarkup (title created : String) : Node :=
  tag "cp:coreProperties" [
    ("xmlns:cp", "http://schemas.openxmlformats.org/package/2006/metadata/core-properties"),
    ("xmlns:dc", "http://purl.org/dc/elements/1.1/"),
    ("xmlns:dcterms", "http://purl.org/dc/terms/"),
    ("xmlns:dcmitype", "http://purl.org/dc/dcmitype/"),
    ("xmlns:xsi", "http://www.w3.org/2001/XMLSchema-instance")]
    (indented (tag "dc:title" [] [.text title]) ++
      indented (tag "dc:creator" [] [.text creator]) ++
      indented (tag "dcterms:created" [("xsi:type", "dcterms:W3CDTF")] [.text created]) ++
      indented (tag "cp:revision" [] [.text "1"]) ++ [.text "\n"])

def extendedPart (slideCount : Nat) : String :=
  Xml.document (extendedMarkup slideCount)

def corePart (title created : String) : String :=
  Xml.document (coreMarkup title created)

end SlidePress.Properties
