import SlidePress.Program.Waiting
import SlidePress.Session

/-!
What a run is up against: the processes that it starts, the renderer within it, and the other end of
its standard output. What any of them does may depend on all that has happened.

A process is known by what it will have done at every moment if nothing stops it, and by when and how
it ends on its own, if it does. Its output ends with it: nothing that it has started and left behind
holds the output open, so that all of it can be read as soon as the process is over. The renderer
returns, with a picture or without. What is told can be written, although the other end may not take
it when it is sent off.
-/

namespace SlidePress

/-- What a process has done. -/
structure Snapshot where
  tree : FileTree
  output : ByteArray := .empty
  errors : ByteArray := .empty

/-- A process that has been started. Moments are milliseconds after its start. -/
structure Process where
  /-- When and how it ends on its own. -/
  ending? : Option (Nat × Ending)
  /-- What it has done at a moment if it has not been stopped before. -/
  after : Nat → Snapshot

/-- What draws the pictures of drawings within the program. -/
structure Renderer where
  /-- The width and the height of the drawing in bytes that have been read from a file, or what is
  wrong with it. -/
  measure : Session → (drawing : Path) → (data : ByteArray) → Except String (Float32 × Float32)
  /-- Whether there can be a canvas of so many pixels. -/
  hasRoom : Session → (width height : Nat) → Bool
  /-- Draws on a canvas and writes that to the file of the picture: the files after it, and what has
  gone wrong, if anything has. -/
  store : Session → (drawing picture : Path) → (data : ByteArray) → (scale : Float32) →
    (width height : Nat) → FileTree × Option String

structure Machine where
  start : Session → Command → Except Fault Process
  renderer : Renderer
  /-- Sends off what has been told, or says why it is not taken. -/
  flush : Session → Except String Unit := fun _ => .ok ()

/-- The pause between two polls, in milliseconds. -/
def pollInterval : Nat := 20

namespace Process

/-- What is seen of a process that was started when the clock showed `start` and is polled without
delay after each pause. -/
def watch (process : Process) (start : Nat) : Watch where
  poll count :=
    match process.ending? with
    | some (moment, ending) => if moment ≤ pollInterval * count then some ending else none
    | none => none
  clock count := start + pollInterval * count

/-- What a process has done in the end if nobody stops it. One without an end is looked at when it
should have been over. -/
def undisturbed (process : Process) (timeout : Nat) : Snapshot :=
  match process.ending? with
  | some (moment, _) => process.after moment
  | none => process.after timeout

end Process

end SlidePress
