import SlidePress.Deck
import SlidePress.Layout.Markup
import SlidePress.Package
import SlidePress.Package.ContentType
import SlidePress.Package.Master
import SlidePress.Package.Properties
import SlidePress.Package.Relationship

/-!
The package of a deck. The slides are numbered from one, and their numbers occur in five places:
the list of content types, the relationships of the presentation, its list of slides, and the
names of the two parts of each slide.
-/

namespace SlidePress

open Xml (Node tag)

namespace Deck

def packageRelationships : List Relationship := [
  ⟨1, .document, "ppt/presentation.xml"⟩,
  ⟨2, .coreProperties, "docProps/core.xml"⟩,
  ⟨3, .extendedProperties, "docProps/app.xml"⟩]

/-- The identifier of a slide among the relationships of the presentation: the first two belong to
the master and the theme. -/
def slideRelationship (number : Nat) : Nat :=
  number + 2

def presentationRelationships (count : Nat) : List Relationship :=
  [⟨1, .slideMaster, "slideMasters/slideMaster1.xml"⟩, ⟨2, .theme, "theme/theme1.xml"⟩] ++
    (List.range' 1 count).map fun number =>
      ⟨slideRelationship number, .slide, s!"slides/slide{number}.xml"⟩

def masterRelationships : List Relationship := [
  ⟨1, .slideLayout, "../slideLayouts/slideLayout1.xml"⟩,
  ⟨2, .theme, "../theme/theme1.xml"⟩]

def layoutRelationships : List Relationship := [
  ⟨1, .slideMaster, "../slideMasters/slideMaster1.xml"⟩]

/-- Every slide has the one empty layout. -/
def slideRelationships : List Relationship := [
  ⟨1, .slideLayout, "../slideLayouts/slideLayout1.xml"⟩]

/-- The number of a slide in the list of slides; the numbers below 256 are taken. -/
def slideId (number : Nat) : Nat :=
  255 + number

/-- The list of slides; a presentation without slides has none. -/
def slideList (count : Nat) : List Node :=
  if count = 0 then []
  else [tag "p:sldIdLst" [] ((List.range' 1 count).map fun number =>
    tag "p:sldId" [("id", toString (slideId number)),
      ("r:id", relationshipId (slideRelationship number))])]

/-- The presentation: its master, its slides and their size. -/
def presentationMarkup (count : Nat) (width height : Length) : Node :=
  tag "p:presentation" (slideNamespaces ++ [("saveSubsetFonts", "1")])
    ([tag "p:sldMasterIdLst" [] [tag "p:sldMasterId" [("id", "2147483648"), ("r:id", "rId1")]]] ++
      slideList count ++
      [tag "p:sldSz" [("cx", toString width), ("cy", toString height)],
        tag "p:notesSz" [("cx", "6858000"), ("cy", "9144000")]])

/-- The parts that do not depend on what is on the slides. -/
def frameParts (sheet : Sheet) (count : Nat) (created : String) : List Part := [
  ⟨"[Content_Types].xml", ContentType.part count⟩,
  ⟨"_rels/.rels", Relationship.part packageRelationships⟩,
  ⟨"docProps/app.xml", Properties.extendedPart count⟩,
  ⟨"docProps/core.xml", Properties.corePart sheet.title created⟩,
  ⟨"ppt/presentation.xml",
    Xml.document (presentationMarkup count sheet.slideWidth sheet.slideHeight)⟩,
  ⟨"ppt/_rels/presentation.xml.rels", Relationship.part (presentationRelationships count)⟩,
  ⟨"ppt/slideMasters/slideMaster1.xml", Xml.document Master.slideMaster⟩,
  ⟨"ppt/slideMasters/_rels/slideMaster1.xml.rels", Relationship.part masterRelationships⟩,
  ⟨"ppt/slideLayouts/slideLayout1.xml", Xml.document Master.slideLayout⟩,
  ⟨"ppt/slideLayouts/_rels/slideLayout1.xml.rels", Relationship.part layoutRelationships⟩,
  ⟨"ppt/theme/theme1.xml", Xml.document Master.theme⟩]

def slideParts (number : Nat) (slide : String) : List Part := [
  ⟨s!"ppt/slides/_rels/slide{number}.xml.rels", Relationship.part slideRelationships⟩,
  ⟨s!"ppt/slides/slide{number}.xml", slide⟩]

def slidesParts : (first : Nat) → List String → List Part
  | _, [] => []
  | first, slide :: slides => slideParts first slide ++ slidesParts (first + 1) slides

/-- A deck with the texts of its slides. -/
structure Written where
  sheet : Sheet
  slides : List String
  deriving DecidableEq, Repr

namespace Written

def slideCount (deck : Written) : Nat :=
  deck.slides.length

def package (deck : Written) (created : String) : Package :=
  ⟨frameParts deck.sheet deck.slideCount created ++ slidesParts 1 deck.slides⟩

end Written

def written? (deck : Deck) : Option Written :=
  (deck.slides.mapM Layout.toXml?).map fun slides => { sheet := deck.sheet, slides }

/-- The package of a deck, written at the time `created`. There is none if the program breaks down over
one of the slides. -/
def package? (deck : Deck) (created : String) : Option Package :=
  deck.written?.map (·.package created)

end Deck

end SlidePress
