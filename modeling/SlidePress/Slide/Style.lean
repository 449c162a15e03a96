import SlidePress.Draft
import SlidePress.Text.Search

/-!
The style in which a draft is shown, decided by its kind, its place and its title.
-/

namespace SlidePress

/-- How a slide looks. -/
inductive Style where
  | title
  | divider
  | content
  | code
  deriving DecidableEq, Repr

namespace Style

/-- Slides of text and of code carry the page number at their foot. -/
def hasFooter : Style → Bool
  | .content | .code => true
  | .title | .divider => false

/-- The style of the draft at a place counted from one. Only the first slide can be the title
slide, and a keyword in the title makes a divider of any slide but that one and one of code. -/
def ofDraft (draft : Draft) (position : Nat) (keywords : List String) : Style :=
  if draft.kind = .title ∧ position = 1 then .title
  else if draft.kind = .code then .code
  else if keywords.any fun keyword => Text.contains draft.title keyword then .divider
  else .content

end Style

end SlidePress
