import SlidePress.Failure

/-!
How drawings are converted: with the tool, which makes pictures of one given size, or by the
program itself, which makes each picture at a multiple of the size of its drawing.
-/

namespace SlidePress.Conversion

/-- Who makes the pictures. -/
inductive Backend where
  | tool
  | builtIn (scale : Float32)
  deriving Repr

structure Settings where
  /-- The width of the pictures that the tool makes, in pixels. -/
  width : Nat := 1200
  height : Nat := 630
  pattern : String := "*featured*.svg"
  folder : Path := ⟨"."⟩
  /-- How long the tool may take for one drawing. -/
  timeoutSeconds : Nat := 30
  backend : Backend := .tool
  deriving Repr

def isUsableScale (scale : Float32) : Bool :=
  scale.isFinite && 0 < scale

/-- The backend for a scale, which is that of the program itself. -/
def Backend.ofScale : Option Float32 → Except Failure Backend
  | none => .ok .tool
  | some scale => if isUsableScale scale then .ok (.builtIn scale) else .error (.badScale scale)

end SlidePress.Conversion
