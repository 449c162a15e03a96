import SlidePress.Draft.Block
import SlidePress.Proofs.TextTrimming

/-! What a document says, told without reading it from the top with a slide at hand. Its lines are
the pieces between line feeds; a fence runs from a fence line to the next one; what is left is cut
into slides at separators and headings, and every slide is told by its own passages alone. -/

namespace SlidePress.Manuscript

/-- A fence: the line that opens it and the lines up to the one that closes it. -/
structure Fence where
  opening : Line
  code : List Line
  deriving DecidableEq, Repr

def Fence.language (fence : Fence) : Line := Block.fenceLanguage fence.opening

def Fence.text (fence : Fence) : List Char := List.intercalate ['\n'] fence.code

/-- A line outside all fences, or a fence. -/
inductive Passage where
  | line (raw : Line)
  | fence (fence : Fence)
  deriving DecidableEq, Repr

namespace Passage

/-- The passages of lines of which the first stands outside all fences. A fence without an end
takes all that is left. -/
def ofLines : List Line → List Passage
  | [] => []
  | raw :: rest =>
    if Block.isFence raw then
      .fence ⟨raw, rest.takeWhile (!Block.isFence ·)⟩ ::
        ofLines (rest.dropWhile (!Block.isFence ·)).tail
    else .line raw :: ofLines rest
termination_by lines => lines.length
decreasing_by
  all_goals simp only [List.length_cons, List.length_tail]
  · have := (List.dropWhile_sublist (l := rest) (!Block.isFence ·)).length_le
    omega
  · omega

/-- Whether a passage is the line `---`. -/
def separates : Passage → Bool
  | line raw => Text.trim raw == Block.separatorMark
  | fence _ => false

def marked? (mark : Line) : Passage → Option Line
  | line raw => (Text.after? mark (Text.trim raw)).map Text.trim
  | fence _ => none

def heading? (passage : Passage) : Option Line := passage.marked? Block.headingMark

def title? (passage : Passage) : Option Line := passage.marked? Block.titleMark

def fence? : Passage → Option Fence
  | line _ => none
  | fence block => some block

/-- What a line adds to the text of its slide, unless it is blank or has another meaning. -/
def text? : Passage → Option Line
  | line raw => if Text.allBlank raw then none else some (Text.trim raw)
  | fence _ => none

def bounds (passage : Passage) : Bool := passage.separates || passage.heading?.isSome

@[simp] theorem title?_fence (block : Fence) : (fence block).title? = none := rfl
@[simp] theorem fence?_fence (block : Fence) : (fence block).fence? = some block := rfl
@[simp] theorem fence?_line (raw : Line) : (line raw).fence? = none := rfl

theorem marked?_ne_nil {mark text : Line} {passage : Passage} (found : passage.marked? mark = some text)
    (ending : mark ≠ []) (blank : Text.isBlank (mark.getLast ending) = true) : text ≠ [] := by
  cases passage with
  | fence block => cases found
  | line raw =>
    obtain ⟨rest, front, rfl⟩ := Option.map_eq_some_iff.mp found
    exact Text.trim_after?_ne_nil front ending blank

theorem heading?_ne_nil {passage : Passage} {text : Line} (found : passage.heading? = some text) :
    text ≠ [] := marked?_ne_nil found (by decide) (by decide)

theorem title?_ne_nil {passage : Passage} {text : Line} (found : passage.title? = some text) :
    text ≠ [] := marked?_ne_nil found (by decide) (by decide)

end Passage

/-- A slide of a document: the heading that opens it, if one does, and the passages below. -/
structure Slide where
  isFirst : Bool := false
  heading? : Option Line := none
  body : List Passage := []
  headed : ∀ text ∈ heading?, text ≠ [] := by simp
  deriving DecidableEq, Repr

namespace Slide

/-- The heading of a slide, else the text of its first title line, else nothing. -/
def title (slide : Slide) : Line :=
  (slide.heading?.or (slide.body.findSome? Passage.title?)).getD []

def unnamed (slide : Slide) : List Passage :=
  if slide.heading?.isSome then slide.body else slide.body.eraseP (·.title?.isSome)

def fence? (slide : Slide) : Option Fence := (slide.body.filterMap Passage.fence?).getLast?

/-- The lines of text behind the last fence of a slide, all of them if it has none. -/
def lines (slide : Slide) : List Line :=
  (slide.unnamed.rtakeWhile (·.fence?.isNone)).filterMap Passage.text?

def content (slide : Slide) : List Char :=
  (slide.fence?.elim [] Fence.text) ++ slide.lines.flatMap (· ++ ['\n'])

/-- A slide with neither title nor content is not shown. -/
def isEmpty (slide : Slide) : Bool := slide.title.isEmpty && slide.content.isEmpty

/-- The slide that begins at a passage which ends the one before. -/
def opened (passage : Passage) : Slide where
  heading? := passage.heading?
  headed _ := passage.heading?_ne_nil

/-- The slide with the passages below, up to the first that ends it. -/
def extend (slide : Slide) (passages : List Passage) : Slide :=
  { slide with body := slide.body ++ passages.takeWhile (!·.bounds) }

end Slide

/-- The slides of passages behind the first slide: one for each passage that ends another. -/
def laterSlides : List Passage → List Slide
  | [] => []
  | passage :: rest =>
    if passage.bounds then (Slide.opened passage).extend rest :: laterSlides rest
    else laterSlides rest

/-- The passages of a document, whose lines are the pieces between line feeds. -/
def passages (document : String) : List Passage :=
  Passage.ofLines (document.toList.splitOn '\n')

def fenceLines (document : String) : Nat := (document.toList.splitOn '\n').countP Block.isFence

def fences (document : String) : List Fence := (passages document).filterMap Passage.fence?

/-- The slides of a document, also those that are not shown. -/
def slides (document : String) : List Slide :=
  Slide.extend { isFirst := true } (passages document) :: laterSlides (passages document)

/-- The slides of a document that have something to show. -/
def shownSlides (document : String) : List Slide := (slides document).filter (!·.isEmpty)

end SlidePress.Manuscript
