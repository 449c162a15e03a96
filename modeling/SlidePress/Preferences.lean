import SlidePress.Conversion.Settings
import SlidePress.Deck.Building
import SlidePress.Decimal.Binary
import SlidePress.Text.Blank

/-!
What the user prefers in general, read from environment variables. A variable that does not hold
what it should counts for nothing, so that the preferences can always be used; what a command is
told goes before them.
-/

namespace SlidePress

/-- What the user prefers in general. -/
structure Preferences where
  footerText : Option String := none
  dividerKeywords : List String := ({} : Deck.Settings).dividerKeywords
  timeoutSeconds : Nat := 30
  scale : Float32 := 2.0
  deriving Repr

namespace Preferences

/-- The keywords in a list with commas between them; blank ones are none. -/
def readKeywords (text : String) : List String :=
  (((Text.pieces ',' text.toList).map Text.trim).filter (!·.isEmpty)).map String.ofList

/-- The longest timeout that can be written, in seconds. -/
def longestTimeout : Nat := Nat.pow 2 64 - 1

def readTimeout? (text : String) : Option Nat :=
  (Decimal.readNat? longestTimeout text).filter (0 < ·)

def readScale? (text : String) : Option Float32 :=
  (Decimal.readFloat32? text).filter Conversion.isUsableScale

def footerVariable : String := "DECKHAND_FOOTER"
def keywordsVariable : String := "DECKHAND_DIVIDER_KEYWORDS"
def timeoutVariable : String := "DECKHAND_CONVERT_TIMEOUT_SECS"
def scaleVariable : String := "DECKHAND_SCALE"

def variableNames : List String :=
  [footerVariable, keywordsVariable, timeoutVariable, scaleVariable]

def ofVariables (lookup : String → Option String) : Preferences :=
  let usual : Preferences := {}
  { footerText := (lookup footerVariable).filter (!Text.isBlankString ·)
    dividerKeywords :=
      ((lookup keywordsVariable).map readKeywords).getD usual.dividerKeywords
    timeoutSeconds :=
      ((lookup timeoutVariable).bind readTimeout?).getD usual.timeoutSeconds
    scale := ((lookup scaleVariable).bind readScale?).getD usual.scale }

/-- How a deck is made when the command gives a title and a footer or leaves them to the
preferences. -/
def deckSettings (preferences : Preferences) (title footer : Option String) : Deck.Settings :=
  { title
    dividerKeywords := preferences.dividerKeywords
    design := { footerText := footer <|> preferences.footerText } }

/-- How drawings are converted for a command; a scale chooses the program itself. The dimensions
are looked at before the scale, and also if the scale makes them idle. -/
def conversionSettings (preferences : Preferences) (width height : Nat) (pattern : String)
    (folder : Option Path) (scale : Option Float32) : Except Failure Conversion.Settings :=
  if width = 0 ∨ height = 0 then .error (.noDimensions width height)
  else
    match Conversion.Backend.ofScale scale with
    | .error failure => .error failure
    | .ok backend => .ok {
        width, height, pattern
        folder := folder.getD ⟨"."⟩
        timeoutSeconds := preferences.timeoutSeconds
        backend }

end Preferences

end SlidePress
