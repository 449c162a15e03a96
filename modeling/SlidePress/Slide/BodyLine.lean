import SlidePress.Layout.Shape
import SlidePress.Slide.Theme
import SlidePress.Text.Blank
import SlidePress.Text.Lines
import SlidePress.Text.Search

/-!
The lines of a slide's body and the paragraphs that they become, one for each line that is not
blank. The rules for a line are tried in the order of the constructors.
-/

namespace SlidePress

/-- What a line of a body is, with the text that is shown. -/
inductive BodyLine where
  | bullet (text : String)
  | subBullet (text : String)
  | emphasis (text : String)
  | status (text : String)
  | plain (text : String)
  deriving DecidableEq, Repr

namespace BodyLine

def dash : List Char := ['-', ' ']
def dot : List Char := ['•', ' ']
def indentedDash : List Char := [' ', ' ', '-', ' ']
def stars : List Char := ['*', '*']

def bulletText? (line : List Char) : Option (List Char) :=
  (Text.after? dash line).orElse fun _ => Text.after? dot line

/-- Reads one line; a blank one is nothing. -/
def ofLine (icons : List String) (line : List Char) : Option BodyLine :=
  match bulletText? line with
  | some text => some (.bullet (String.ofList (Text.trim text)))
  | none =>
    match Text.after? indentedDash line with
    | some text => some (.subBullet (String.ofList (Text.trim text)))
    | none =>
      if Text.startsWith stars line && Text.endsWith stars line then
        some (.emphasis (String.ofList (Text.trimMatching '*' line)))
      else if icons.any fun icon => Text.startsWith icon.toList line then
        some (.status (String.ofList line))
      else if Text.allBlank line then none
      else some (.plain (String.ofList line))

def paragraph (theme : Theme) : BodyLine → Paragraph
  | .bullet text => { text, bullet := some 0, size := 22, color := theme.dark, spaceBefore := some 6 }
  | .subBullet text => { text, bullet := some 1, size := 20, color := theme.dark }
  | .emphasis text =>
    { text, size := 24, bold := true, color := theme.primary, spaceBefore := some 12 }
  | .status text => { text, size := 22, color := theme.dark, spaceBefore := some 8 }
  | .plain text => { text, size := 22, color := theme.dark, spaceBefore := some 6 }

end BodyLine

/-- The paragraphs of a body. White space around the whole of it is left out first, which takes
the indentation of its first line. -/
def Design.bodyParagraphs (design : Design) (content : String) : List Paragraph :=
  (Text.pieces '\n' (Text.trim content.toList)).filterMap fun line =>
    (BodyLine.ofLine design.statusIcons line).map (·.paragraph design.theme)

end SlidePress
