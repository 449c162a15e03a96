import SlidePress.Layout.Color
import SlidePress.Layout.Length

/-!
The paragraphs of a slide, its shapes and the layout that they make. A paragraph is one run of text in
one format; sizes, spaces and levels are words of 32 bits, as the file format has them. The order of
the shapes is the order in which they are drawn.
-/

namespace SlidePress

/-- Where the lines of a paragraph stand. -/
inductive Align where
  | left
  | center
  | right
  deriving DecidableEq, Repr

/-- A paragraph with one format for all of its text. -/
structure Paragraph where
  text : String
  /-- Size of the font in points. -/
  size : UInt32 := 18
  bold : Bool := false
  color : Color := .black
  font : Option String := none
  align : Align := .left
  /-- The level of the bullet in front, when there is one. -/
  bullet : Option UInt32 := none
  /-- Space above the paragraph in points. -/
  spaceBefore : Option UInt32 := none
  deriving DecidableEq, Repr

/-- Whether text hangs from the top of its shape or stands in the middle of it. -/
inductive Anchor where
  | top
  | middle
  deriving DecidableEq, Repr

inductive Shape.Kind where
  | textBox
  | rectangle
  deriving DecidableEq, Repr

/-- A text box or a rectangle with text. -/
structure Shape where
  kind : Shape.Kind
  frame : Frame
  fill : Option Color
  anchor : Anchor := .top
  wordWrap : Bool := true
  paragraphs : List Paragraph := []
  deriving DecidableEq, Repr

namespace Shape

def textBox (frame : Frame) (paragraphs : List Paragraph) : Shape :=
  { kind := .textBox, frame, fill := none, paragraphs }

def rectangle (frame : Frame) (fill : Color) (paragraphs : List Paragraph) : Shape :=
  { kind := .rectangle, frame, fill := some fill, paragraphs }

/-- The texts of the paragraphs, a line for each. -/
def text (shape : Shape) : String :=
  "\n".intercalate (shape.paragraphs.map (·.text))

end Shape

/-- All that is drawn on one slide. -/
structure Layout where
  background : Color
  shapes : List Shape := []
  deriving DecidableEq, Repr

namespace Layout

def push (layout : Layout) (shape : Shape) : Layout :=
  { layout with shapes := layout.shapes ++ [shape] }

/-- The texts of all paragraphs, shape by shape. -/
def texts (layout : Layout) : List String :=
  layout.shapes.flatMap fun shape => shape.paragraphs.map (·.text)

end Layout

end SlidePress
