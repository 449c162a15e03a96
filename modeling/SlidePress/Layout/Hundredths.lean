import SlidePress.Layout.Shape

/-!
Layouts in the measures of the file format, which has hundredths of a point where layouts have points.
The products are words of 32 bits like the points. One that does not fit into them breaks the program
down, so that there is no layout then.
-/

namespace SlidePress

def hundredths? (points : UInt32) : Option UInt32 :=
  let product := 100 * points.toNat
  if product < UInt32.size then some (.ofNat product) else none

def Paragraph.scaled? (paragraph : Paragraph) : Option Paragraph :=
  match paragraph.spaceBefore.mapM hundredths?, hundredths? paragraph.size with
  | some spaceBefore, some size => some { paragraph with size, spaceBefore }
  | _, _ => none

def Shape.scaled? (shape : Shape) : Option Shape :=
  (shape.paragraphs.mapM Paragraph.scaled?).map fun paragraphs => { shape with paragraphs }

def Layout.scaled? (layout : Layout) : Option Layout :=
  (layout.shapes.mapM Shape.scaled?).map fun shapes => { layout with shapes }

end SlidePress
