/-!
Lengths on a slide are counted in a unit of which 914400 make an inch, and fit into 64 bits.
-/

namespace SlidePress

abbrev Length := Int

namespace Length

def unitsPerInch : Nat := 914400

/-- The nearest length, away from zero for a tie. What is too long for 64 bits becomes the
longest length, and what is no number becomes zero. -/
def ofInches (inches : Float) : Length :=
  (inches * Float.ofNat unitsPerInch).round.toInt64.toInt

end Length

/-- Where a shape stands and how large it is. -/
structure Frame where
  left : Length
  top : Length
  width : Length
  height : Length
  deriving DecidableEq, Repr

def Frame.ofInches (left top width height : Float) : Frame :=
  ⟨.ofInches left, .ofInches top, .ofInches width, .ofInches height⟩

end SlidePress
