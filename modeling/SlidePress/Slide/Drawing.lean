import SlidePress.Draft
import SlidePress.Layout.Shape
import SlidePress.Slide.BodyLine
import SlidePress.Slide.Style
import SlidePress.Text.Uppercase

/-!
Drawing a draft in a style. The slides are sixteen inches wide and nine high; the frames below are
measured on them in inches.
-/

namespace SlidePress

namespace Design

/-- The text at the foot of a page: its number, behind the footer text if there is any. -/
def footerLabel (design : Design) (page : Nat) : String :=
  match design.footerText with
  | some text => if text.isEmpty then s!"Slide {page}" else s!"{text}  |  Slide {page}"
  | none => s!"Slide {page}"

def footer (design : Design) (page : Nat) : Shape :=
  .textBox (.ofInches 0.5 8.3 15.0 0.4)
    [{ text := design.footerLabel page, size := 12, color := design.theme.footerText,
       align := .center }]

/-- A title slide: the title, the first line of the body below it, and the other lines further
down if there are any. Blank lines count for nothing. -/
def titleSlide (design : Design) (draft : Draft) : Layout :=
  let theme := design.theme
  let lines := (Text.lines draft.content.toList).filter (!Text.allBlank ·)
  let centered (text : String) (size : UInt32) (bold : Bool) : Paragraph :=
    { text, size, bold, color := theme.onPrimary, align := .center }
  let subtitle := String.ofList (lines.headD [])
  let heading : List Shape := [
    .textBox (.ofInches 1.0 2.5 14.0 2.0) [centered draft.title 60 true],
    .textBox (.ofInches 1.0 4.5 14.0 1.0) [centered subtitle 32 false]]
  let details : List Shape := match lines.tail with
    | [] => []
    | others => [.textBox (.ofInches 1.0 6.5 14.0 1.5)
        (others.map fun line => centered (String.ofList (Text.trim line)) 18 false)]
  { background := theme.primary, shapes := heading ++ details }

/-- A divider: nothing but the title. -/
def dividerSlide (design : Design) (draft : Draft) : Layout :=
  let theme := design.theme
  { background := theme.primary
    shapes := [.textBox (.ofInches 1.0 3.0 14.0 2.0)
      [{ text := draft.title, size := 54, bold := true, color := theme.onPrimary,
         align := .center }]] }

/-- A slide of text: the title in a banner and the body below it, if there is a line in it. -/
def contentSlide (design : Design) (draft : Draft) : Layout :=
  let theme := design.theme
  let banner := { Shape.rectangle (.ofInches 0.0 0.0 16.0 1.2) theme.primary
    [{ text := draft.title, size := 36, bold := true, color := theme.onPrimary }] with
    anchor := .middle }
  let body : List Shape := match design.bodyParagraphs draft.content with
    | [] => []
    | paragraphs => [.textBox (.ofInches 0.5 1.5 15.0 7.0) paragraphs]
  { background := theme.light, shapes := banner :: body }

/-- A slide of code: the title, the lines of the code just as they are, and the name of the
language in capitals if the document names one. -/
def codeSlide (design : Design) (draft : Draft) : Layout :=
  let theme := design.theme
  let code := (Text.pieces '\n' draft.content.toList).map fun line =>
    ({ text := String.ofList line, font := some theme.codeFont, size := 16,
       color := theme.codeText } : Paragraph)
  let heading := Shape.textBox (.ofInches 0.5 0.3 15.0 0.8)
    [{ text := draft.title, size := 32, bold := true, color := theme.dark }]
  let panel := { Shape.rectangle (.ofInches 0.5 1.3 15.0 7.2) theme.codeBackground code with
    wordWrap := false }
  let label : List Shape :=
    if draft.languageName.isEmpty then []
    else [.textBox (.ofInches 13.5 1.0 2.0 0.4)
      [{ text := Text.uppercase draft.languageName, size := 12, bold := true,
         color := theme.secondary, align := .right }]]
  { background := theme.light, shapes := heading :: panel :: label }

def slide (design : Design) (draft : Draft) (style : Style) (page : Nat) : Layout :=
  let layout := match style with
    | .title => design.titleSlide draft
    | .divider => design.dividerSlide draft
    | .content => design.contentSlide draft
    | .code => design.codeSlide draft
  if style.hasFooter then layout.push (design.footer page) else layout

end Design

end SlidePress
