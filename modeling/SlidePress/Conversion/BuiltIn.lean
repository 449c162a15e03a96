import SlidePress.File.Lookup
import SlidePress.Program.Machine

/-!
Making the picture of a drawing within the program. Sizes are numbers of 32 bits and are rounded up to
whole pixels, for which there has to be a canvas.
-/

namespace SlidePress.Conversion

/-- The whole pixels of a side at a scale; no number has more than 32 bits. -/
def pixelsAt (side scale : Float32) : Nat :=
  (side * scale).ceil.toUInt32.toNat

/-- Makes the picture of a drawing at a scale and gives its pixels. -/
def renderPicture (renderer : Renderer) (session : Session) (drawing picture : Path)
    (scale : Float32) : Except Failure (Nat × Nat) × Session :=
  match session.tree.read drawing with
  | .error fault => (.error (.system fault), session)
  | .ok content =>
    match renderer.measure session drawing content.data with
    | .error trouble => (.error (.drawing drawing trouble), session)
    | .ok sides =>
      let width := pixelsAt sides.1 scale
      let height := pixelsAt sides.2 scale
      if !renderer.hasRoom session width height then
        (.error (.drawing drawing s!"cannot allocate a {width}x{height} canvas"), session)
      else
        match renderer.store session drawing picture content.data scale width height with
        | (tree, none) => (.ok (width, height), { session with tree })
        | (tree, some trouble) => (.error (.drawing picture trouble), { session with tree })

end SlidePress.Conversion
