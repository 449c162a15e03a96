import SlidePress.Deck
import SlidePress.Slide.Drawing

/-!
Building a deck from drafts: one slide for each draft, in their order, with the position of the
draft for its page.
-/

namespace SlidePress

/-- How a deck is made of drafts. -/
structure Deck.Settings where
  /-- The title of the deck; without one it is that of the first draft. -/
  title : Option String := none
  /-- What makes a divider of a slide when it stands in its title. -/
  dividerKeywords : List String := ["Key Takeaways", "Questions"]
  design : Design := {}
  sheet : Deck.Sheet := {}
  deriving DecidableEq, Repr

/-- What is told while a deck is made. -/
inductive Progress where
  /-- The document has been read into so many drafts. -/
  | parsed (slides : Nat)
  /-- The slide at a position is about to be drawn. -/
  | slide (position total : Nat) (style : Style) (title : String)
  deriving DecidableEq, Repr

namespace Deck

def Settings.style (settings : Settings) (draft : Draft) (position : Nat) : Style :=
  .ofDraft draft position settings.dividerKeywords

/-- The title that a deck of the drafts gets, if it is not to keep the one of its sheet. -/
def Settings.title? (settings : Settings) (drafts : List Draft) : Option String :=
  (settings.title <|> drafts.head?.map (·.title)).filter (!·.isEmpty)

/-- The deck with the drafts drawn behind its slides, `position` being that of the first. -/
def addDrafts (settings : Settings) : (position : Nat) → Deck → List Draft → Deck
  | _, deck, [] => deck
  | position, deck, draft :: drafts =>
    let slide := settings.design.slide draft (settings.style draft position) (deck.slideCount + 1)
    addDrafts settings (position + 1) (deck.add slide) drafts

def ofDrafts (settings : Settings) (drafts : List Draft) : Deck :=
  let empty : Deck := { sheet := settings.sheet }
  let titled := match settings.title? drafts with
    | some title => empty.withTitle title
    | none => empty
  addDrafts settings 1 titled drafts

def drawingProgress (settings : Settings) (total : Nat) : (position : Nat) → List Draft →
    List Progress
  | _, [] => []
  | position, draft :: drafts =>
    .slide position total (settings.style draft position) draft.title ::
      drawingProgress settings total (position + 1) drafts

/-- What is told while a deck of the drafts is made, in order. -/
def progress (settings : Settings) (drafts : List Draft) : List Progress :=
  drawingProgress settings drafts.length 1 drafts

end Deck

end SlidePress
