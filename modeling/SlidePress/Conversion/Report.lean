import SlidePress.File.Path

/-!
What became of the drawings of a conversion. The exit code of the program counts the failures, as
far as an exit code can.
-/

namespace SlidePress.Conversion

/-- What became of one drawing. -/
inductive Outcome where
  | converted (drawing picture : Path) (bytes : Nat) (dimensions : Option (Nat × Nat))
  | failed (drawing : Path) (reason : String)
  deriving DecidableEq, Repr

def Outcome.drawing : Outcome → Path
  | .converted drawing .. => drawing
  | .failed drawing _ => drawing

def Outcome.succeeded : Outcome → Bool
  | .converted .. => true
  | .failed .. => false

/-- What became of the drawings, in the order in which they were worked on. -/
structure Report where
  outcomes : List Outcome := []
  deriving DecidableEq, Repr

namespace Report

def push (report : Report) (outcome : Outcome) : Report :=
  ⟨report.outcomes ++ [outcome]⟩

def successCount (report : Report) : Nat :=
  report.outcomes.countP (·.succeeded)

def failureCount (report : Report) : Nat :=
  report.outcomes.length - report.successCount

def failedDrawings (report : Report) : List Path :=
  (report.outcomes.filter (!·.succeeded)).map (·.drawing)

def largestCode : Nat := 255

/-- The number of failures, or the largest exit code if there are more. -/
def exitCode (report : Report) : Nat :=
  min report.failureCount largestCode

end Report

end SlidePress.Conversion
