import SlidePress.Deck.Building
import SlidePress.Deck.Parts
import SlidePress.Draft.Reading
import SlidePress.File.Check

/-!
From the file of a document to the file of its deck. Nothing is written before the document has
been read, and the folders for the deck are made only after all slides have been drawn.
-/

namespace SlidePress

/-- What is told about a deck that has been made. -/
structure Deck.Summary where
  slideCount : Nat
  output : Path
  deriving DecidableEq, Repr

/-- What comes of making a deck: the files after it, what was told on the way, in order, and
whether it went well. -/
structure Deck.Generation where
  tree : FileTree
  progress : List Progress
  result : Except Stop Deck.Summary

namespace Deck

/-- What is in the file of a deck until all of the deck is. -/
def unfinished : Content :=
  .bytes .empty

/-- Writes a deck to a file, for which folders are made. The file is there before the slides are
written, and is left unfinished if the program breaks down over them. -/
def save (deck : Deck) (created : String) (tree : FileTree) (output : Path) :
    FileTree × Option Stop :=
  match tree.ensureParent output with
  | (tree, some failure) => (tree, some (.failure failure))
  | (tree, none) =>
    let package? := deck.package? created
    match tree.write output (package?.elim unfinished .package) with
    | .ok tree => (tree, if package?.isSome then none else some .crash)
    | .error fault => (tree, some (.failure (.system fault)))

def readDocument (tree : FileTree) (input : Path) : Except Failure String :=
  match tree.requireFile input with
  | .error failure => .error failure
  | .ok () => (tree.readText input).mapError .system

def generate (tree : FileTree) (settings : Settings) (created : String) (input output : Path) :
    Generation :=
  match readDocument tree input with
  | .error failure => { tree, progress := [], result := .error (.failure failure) }
  | .ok document =>
    let drafts := Draft.ofDocument document
    let progress := .parsed drafts.length :: progress settings drafts
    let deck := ofDrafts settings drafts
    match deck.save created tree output with
    | (tree, some stop) => { tree, progress, result := .error stop }
    | (tree, none) => { tree, progress, result := .ok ⟨deck.slideCount, output⟩ }

end Deck

end SlidePress
