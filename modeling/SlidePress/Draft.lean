/-!
A draft is one slide as its document words it: a title, a body, and what kind of slide the
document asks for. How a slide looks is decided elsewhere.
-/

namespace SlidePress

/-- What a document makes of a slide: the opening slide of a talk, a slide of text, or a slide of
program code. -/
inductive Draft.Kind where
  | title
  | content
  | code
  deriving DecidableEq, Repr, Inhabited

/-- One slide as the document words it. -/
structure Draft where
  title : String := ""
  /-- The body, line by line; the code itself on a code slide. -/
  content : String := ""
  kind : Draft.Kind := .content
  /-- What the document calls the language of the code. -/
  language : Option String := none
  deriving DecidableEq, Repr, Inhabited

namespace Draft

/-- A draft with neither title nor body never becomes a slide. -/
def isEmpty (draft : Draft) : Bool :=
  draft.title.isEmpty && draft.content.isEmpty

/-- The language of the code, the empty text when the document names none. -/
def languageName (draft : Draft) : String :=
  draft.language.getD ""

end Draft

end SlidePress
