import SlidePress.Text.Blank
import SlidePress.Text.Lines
import SlidePress.Text.Search

/-!
The blocks of a document. Each line outside a fence is a block of its own, told by the line
without the white space around it; a fence is one block with all its lines, which are kept as they
are. What a title line means depends on the slide it falls into and is left open here.
-/

namespace SlidePress

abbrev Line := List Char

/-- One piece of a document. -/
inductive Block where
  /-- The line `---`. -/
  | separator
  /-- A line `# text`, with the whole line and whether it is the first of the document. -/
  | title (text line : Line) (atTop : Bool)
  /-- A line `## text`. -/
  | heading (text : Line)
  /-- A fence with the name of its language and its lines. -/
  | fence (language : Line) (code : List Line)
  /-- Any other line that is not blank. -/
  | body (line : Line)
  /-- A blank line. -/
  | blank
  deriving DecidableEq, Repr

namespace Block

def separatorMark : Line := ['-', '-', '-']
def titleMark : Line := ['#', ' ']
def headingMark : Line := ['#', '#', ' ']
def fenceMark : Line := ['`', '`', '`']

def isFence (line : Line) : Bool :=
  Text.startsWith fenceMark (Text.trim line)

/-- The block of a line that is no fence; `line` has no white space around it. -/
def ofLine (line : Line) (atTop : Bool) : Block :=
  if line = separatorMark then .separator
  else
    match Text.after? titleMark line with
    | some text => .title (Text.trim text) line atTop
    | none =>
      match Text.after? headingMark line with
      | some text => .heading (Text.trim text)
      | none => if line.isEmpty then .blank else .body line

def fenceLanguage (line : Line) : Line :=
  match Text.after? fenceMark (Text.trim line) with
  | some language => Text.trim language
  | none => []

mutual

def ofLines (atTop : Bool) : List Line → List Block
  | [] => []
  | line :: rest =>
    if isFence line then ofFence (fenceLanguage line) [] rest
    else ofLine (Text.trim line) atTop :: ofLines false rest

/-- The blocks of lines that begin inside a fence, of which the lines in `seen` are read, the last
one first. A fence without an end takes all that is left. -/
def ofFence (language : Line) (seen : List Line) : List Line → List Block
  | [] => [.fence language seen.reverse]
  | line :: rest =>
    if isFence line then .fence language seen.reverse :: ofLines false rest
    else ofFence language (line :: seen) rest

end

def ofDocument (document : String) : List Block :=
  ofLines true (Text.pieces '\n' document.toList)

end Block

end SlidePress
