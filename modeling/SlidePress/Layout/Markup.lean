import SlidePress.Layout.Hundredths
import SlidePress.Xml.Tree

/-!
The markup of a layout. Identifiers are numbers that the parts of a slide get in their order: one
for the group of all shapes, and the following numbers for the shapes. Sizes and spaces are
written as they stand in the layout, which has been scaled before.
-/

namespace SlidePress

open Xml (Node tag)

def slideNamespaces : List (String × String) := [
  ("xmlns:a", "http://schemas.openxmlformats.org/drawingml/2006/main"),
  ("xmlns:r", "http://schemas.openxmlformats.org/officeDocument/2006/relationships"),
  ("xmlns:p", "http://schemas.openxmlformats.org/presentationml/2006/main")]

def Align.code : Align → String
  | .left => "l"
  | .center => "ctr"
  | .right => "r"

def Anchor.code : Anchor → String
  | .top => "t"
  | .middle => "ctr"

def Color.fill (color : Color) : Node :=
  tag "a:solidFill" [] [tag "a:srgbClr" [("val", color.hex)]]

/-- How far the text of a bullet at a level stands from the edge. -/
def bulletMargin (level : UInt32) : Nat :=
  342900 + level.toNat * 400050

namespace Paragraph

def properties (paragraph : Paragraph) : Node :=
  let placing := match paragraph.bullet with
    | some level => [("lvl", toString level.toNat), ("marL", toString (bulletMargin level)),
        ("indent", "-342900")]
    | none => []
  let space := match paragraph.spaceBefore with
    | some points =>
      [tag "a:spcBef" [] [tag "a:spcPts" [("val", toString points.toNat)]]]
    | none => []
  let bullet := match paragraph.bullet with
    | some _ => [tag "a:buFont" [("typeface", "Arial")],
        .element "a:buChar" [⟨"char", .codePoint '•'⟩] []]
    | none => [tag "a:buNone"]
  tag "a:pPr" (("algn", paragraph.align.code) :: placing) (space ++ bullet)

def runAttributes (paragraph : Paragraph) : List (String × String) :=
  [("lang", "en-US"), ("sz", toString paragraph.size.toNat)] ++
    (if paragraph.bold then [("b", "1")] else []) ++ [("dirty", "0")]

def runFormat (paragraph : Paragraph) : List Node :=
  paragraph.color.fill :: match paragraph.font with
    | some font => [tag "a:latin" [("typeface", font)], tag "a:cs" [("typeface", font)]]
    | none => []

/-- The paragraph; one without text has no run and keeps its format for the line it takes. -/
def markup (paragraph : Paragraph) : Node :=
  let content :=
    if paragraph.text.isEmpty then
      tag "a:endParaRPr" paragraph.runAttributes paragraph.runFormat
    else
      tag "a:r" [] [tag "a:rPr" paragraph.runAttributes paragraph.runFormat,
        tag "a:t" [] [.text paragraph.text]]
  tag "a:p" [] [paragraph.properties, content]

end Paragraph

namespace Shape

/-- The name by which editors show the shape. -/
def Kind.label : Kind → String
  | .textBox => "TextBox"
  | .rectangle => "Rectangle"

def identity (shape : Shape) (id : Nat) : Node :=
  let purpose := match shape.kind with
    | .textBox => [("txBox", "1")]
    | .rectangle => []
  tag "p:nvSpPr" [] [
    tag "p:cNvPr" [("id", toString id), ("name", s!"{shape.kind.label} {id}")],
    tag "p:cNvSpPr" purpose,
    tag "p:nvPr"]

/-- Where the shape stands and how it is filled. -/
def geometry (shape : Shape) : Node :=
  let frame := shape.frame
  let filling := match shape.fill with
    | some color => [color.fill, tag "a:ln" [] [tag "a:noFill"]]
    | none => [tag "a:noFill"]
  tag "p:spPr" [] ([
    tag "a:xfrm" [] [
      tag "a:off" [("x", toString frame.left), ("y", toString frame.top)],
      tag "a:ext" [("cx", toString frame.width), ("cy", toString frame.height)]],
    tag "a:prstGeom" [("prst", "rect")] [tag "a:avLst"]] ++ filling)

/-- The paragraphs of the shape, with how they fill it. -/
def textBody (shape : Shape) : Node :=
  tag "p:txBody" [] (
    tag "a:bodyPr" [("wrap", if shape.wordWrap then "square" else "none"), ("lIns", "91440"),
      ("tIns", "45720"), ("rIns", "91440"), ("bIns", "45720"),
      ("anchor", shape.anchor.code), ("rtlCol", "0")] [tag "a:noAutofit"] ::
    tag "a:lstStyle" :: shape.paragraphs.map Paragraph.markup)

/-- The shape under an identifier; one without paragraphs has no body of text. -/
def markup (shape : Shape) (id : Nat) : Node :=
  tag "p:sp" [] ([shape.identity id, shape.geometry] ++
    if shape.paragraphs.isEmpty then [] else [shape.textBody])

end Shape

/-- The group of all shapes of a slide, which has the first identifier. -/
def shapeTree (shapes : List Node) : Node :=
  tag "p:spTree" [] ([
    tag "p:nvGrpSpPr" [] [tag "p:cNvPr" [("id", "1"), ("name", "")], tag "p:cNvGrpSpPr",
      tag "p:nvPr"],
    tag "p:grpSpPr" [] [tag "a:xfrm" [] [
      tag "a:off" [("x", "0"), ("y", "0")], tag "a:ext" [("cx", "0"), ("cy", "0")],
      tag "a:chOff" [("x", "0"), ("y", "0")], tag "a:chExt" [("cx", "0"), ("cy", "0")]]]] ++
    shapes)

/-- Slides take their colors from the slide that all slides are made after. -/
def inheritedColors : Node :=
  tag "p:clrMapOvr" [] [tag "a:masterClrMapping"]

namespace Layout

/-- The shapes under identifiers from `first` on. -/
def shapesMarkup : (first : Nat) → List Shape → List Node
  | _, [] => []
  | first, shape :: shapes => shape.markup first :: shapesMarkup (first + 1) shapes

def markup (layout : Layout) : Node :=
  tag "p:sld" slideNamespaces [
    tag "p:cSld" [] [
      tag "p:bg" [] [tag "p:bgPr" [] [layout.background.fill, tag "a:effectLst"]],
      shapeTree (shapesMarkup 2 layout.shapes)],
    inheritedColors]

def document (layout : Layout) : String :=
  Xml.document layout.markup

/-- The slide as the text of a part. There is none if the layout cannot be scaled. -/
def toXml? (layout : Layout) : Option String :=
  layout.scaled?.map document

end Layout

end SlidePress
