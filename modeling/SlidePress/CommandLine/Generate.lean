import SlidePress.CommandLine.Reply
import SlidePress.CommandLine.Request
import SlidePress.Deck.Generation
import SlidePress.Preferences

/-!
The command that makes a deck.
-/

namespace SlidePress.CommandLine

def shownTitle : Nat := 50

def progressLines : Progress → List String
  | .parsed slides => [
      s!"{Terminal.checkMark} Found {slides} slides", "", "Generating PowerPoint presentation..."]
  | .slide position total _ title => [
      s!"  Creating slide {position}/{total}: " ++
        String.ofList (title.toList.take shownTitle)]

/-- The lines in front of everything else. -/
def generateHeading (input : Path) : List String := [
  rule, "Deckhand - PowerPoint Generator", rule, "",
  "Reading slides content from: " ++ input.text, "Parsing slides..."]

/-- The lines about a deck that has been made. -/
def generateEnding (summary : Deck.Summary) : List String := [
  "", rule, s!"{Terminal.checkMark} Presentation generated successfully!",
  "  Location: " ++ summary.output.text, s!"  Slides: {summary.slideCount}", "",
  "Next steps:", "  1. Open in PowerPoint, Google Slides, or Keynote",
  "  2. Customize design and animations", "  3. Add speaker notes if needed", rule]

/-- The document that is read unless another one is named. -/
def usualInput : Path := ⟨"slides-content.md"⟩

/-- The deck that is written unless another one is named. -/
def usualOutput : Path := ⟨"presentation.pptx"⟩

/-- Makes a deck; it is written at the time `created`. -/
def generate (preferences : Preferences) (created : String) (session : Session)
    (request : GenerateRequest) : Reply × Session :=
  let input := request.input.getD usualInput
  let output := request.output.getD usualOutput
  let session := session.tellLines (generateHeading input)
  let settings := preferences.deckSettings request.title request.footer
  let made := Deck.generate session.tree settings created input output
  let session := { session with tree := made.tree }.tellLines (made.progress.flatMap progressLines)
  match made.result with
  | .ok summary => ({}, session.tellLines (generateEnding summary))
  | .error (.failure failure) =>
    (.ofFailure (some s!"Could not generate {output.text}") failure, session)
  | .error .crash => (.broken, session)

end SlidePress.CommandLine
