import SlidePress.Layout.Color

/-!
The colors and the font that all slides share.
-/

namespace SlidePress

/-- The palette of a deck and the font of its code. -/
structure Theme where
  primary : Color := ⟨0, 102, 204⟩
  secondary : Color := ⟨255, 87, 34⟩
  dark : Color := ⟨33, 33, 33⟩
  light : Color := ⟨250, 250, 250⟩
  onPrimary : Color := .white
  codeBackground : Color := ⟨40, 44, 52⟩
  codeText : Color := ⟨171, 178, 191⟩
  footerText : Color := ⟨150, 150, 150⟩
  codeFont : String := "Consolas"
  deriving DecidableEq, Repr

/-- How slides are drawn. -/
structure Design where
  theme : Theme := {}
  /-- The texts that mark a line as a status line when they begin it. -/
  statusIcons : List String := ["✅", "❌", "🔹"]
  /-- The text in front of the page number. -/
  footerText : Option String := none
  deriving DecidableEq, Repr

end SlidePress
