import SlidePress.Layout.Shape

/-!
A deck is a presentation in the making. Slides are only ever added at its end, so that the page of
a slide is the number of slides at the time it came in.
-/

namespace SlidePress

/-- What a deck is apart from its slides. -/
structure Deck.Sheet where
  title : String := "Presentation"
  slideWidth : Length := .ofInches 16.0
  slideHeight : Length := .ofInches 9.0
  deriving DecidableEq, Repr

/-- A presentation in the making. -/
structure Deck where
  sheet : Deck.Sheet := {}
  slides : List Layout := []
  deriving DecidableEq, Repr

namespace Deck

def withTitle (deck : Deck) (title : String) : Deck :=
  { deck with sheet := { deck.sheet with title } }

def add (deck : Deck) (slide : Layout) : Deck :=
  { deck with slides := deck.slides ++ [slide] }

def slideCount (deck : Deck) : Nat :=
  deck.slides.length

end Deck

end SlidePress
