import SlidePress.Draft
import SlidePress.Draft.Block

/-!
Reading the drafts of a document. Blocks are gathered into the draft at hand, and separators and
headings close it. A draft with neither title nor body is dropped when it is closed.
-/

namespace SlidePress.Draft

/-- The draft as a slide, or nothing when it is empty. -/
def closed (draft : Draft) : List Draft :=
  if draft.isEmpty then [] else [draft]

def withLine (draft : Draft) (line : Line) : Draft :=
  { draft with content := draft.content ++ String.ofList (line ++ ['\n']) }

/-- The drafts of the blocks, `pending` being the one at hand. A second title line of a slide is
text. A heading closes a draft only if there is something in it, so that what a fence without
lines has set stays. -/
def ofBlocks (pending : Draft) : List Block → List Draft
  | [] => pending.closed
  | .separator :: rest => pending.closed ++ ofBlocks {} rest
  | .title text line atTop :: rest =>
    if pending.title.isEmpty then
      let kind := if atTop then Kind.title else Kind.content
      ofBlocks { pending with title := String.ofList text, kind } rest
    else ofBlocks (pending.withLine line) rest
  | .heading text :: rest =>
    if pending.isEmpty then ofBlocks { pending with title := String.ofList text } rest
    else pending :: ofBlocks { title := String.ofList text } rest
  | .fence language code :: rest =>
    let content := String.ofList (Text.joined '\n' code)
    ofBlocks { pending with content, kind := .code, language := some (String.ofList language) } rest
  | .body line :: rest => ofBlocks (pending.withLine line) rest
  | .blank :: rest => ofBlocks pending rest

/-- The drafts of a document, in its order. Every text is a document. -/
def ofDocument (document : String) : List Draft :=
  ofBlocks {} (Block.ofDocument document)

end SlidePress.Draft
