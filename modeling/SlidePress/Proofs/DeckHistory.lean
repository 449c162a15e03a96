import SlidePress.Proofs.DeckPackage
import SlidePress.Proofs.MarkupTree

/-! What is done to a deck in the making and what comes back from it. A package that is written on the
way tells of what was done before it and of nothing else. All of it is read from the texts of the
package alone: the slides are those to which the list of the presentation leads, entry by entry. -/

namespace SlidePress

open Xml (Node StartTag WrittenNode tag)

namespace Package

def propertiesName : String := "docProps/app.xml"
def coreName : String := "docProps/core.xml"

def elements (package : Package) (part name : String) : List WrittenNode :=
  ((package.text? part).bind WrittenNode.ofDocument?).elim [] (·.find name)

/-- The text of the part to which a relationship of another part leads. -/
def follow (package : Package) (source id : String) : Option String :=
  ((package.relationshipsOf source).find? (·.id == id)).bind fun item =>
    package.text? (Part.targetName (Part.relationshipsName source) item.target)

/-- The texts to which the entries of the list of slides lead, in the order of the list. -/
def listedSlides (package : Package) : List (Option String) :=
  ((package.elements presentationName "p:sldIdLst").flatMap (·.find "p:sldId")).map fun entry =>
    package.follow presentationName (entry.value "r:id")

end Package

namespace Deck

inductive Action where
  | setTitle (title : String)
  | addSlide (slide : Layout)
  | write (created : String)
  deriving DecidableEq

inductive Answer where
  | done
  | page (number : Nat)
  | package (package : Package)
  /-- The program has broken down over the writing of a package. -/
  | broken
  deriving DecidableEq

namespace Action

def title? : Action → Option String
  | setTitle title => some title
  | _ => none

def slide? : Action → Option Layout
  | addSlide slide => some slide
  | _ => none

def edits : Action → Bool
  | write _ => false
  | _ => true

end Action

def perform (deck : Deck) : Action → Deck
  | .setTitle title => deck.withTitle title
  | .addSlide slide => deck.add slide
  | .write _ => deck

def answer (deck : Deck) : Action → Answer
  | .setTitle _ => .done
  | .addSlide slide => .page (deck.add slide).slideCount
  | .write created => (deck.package? created).elim .broken .package

def answers : Deck → List Action → List Answer
  | _, [] => []
  | deck, action :: later => deck.answer action :: answers (deck.perform action) later

/-- What comes back from an action in the middle of others, on a deck that begins without slides. -/
def answerTo (sheet : Sheet) (before : List Action) (action : Action) (after : List Action) :
    Option Answer :=
  (answers { sheet } (before ++ action :: after))[before.length]?

def addedSlides (history : List Action) : List Layout := history.filterMap Action.slide?

def lastTitle (sheet : Sheet) (history : List Action) : String :=
  (history.filterMap Action.title?).getLastD sheet.title

end Deck

structure Package.Tells (package : Package) (sheet : Deck.Sheet) (history : List Deck.Action)
    (created : String) : Prop where
  slides : package.listedSlides = (Deck.addedSlides history).map Layout.toXml?
  written : ∀ slide ∈ Deck.addedSlides history, slide.toXml?.isSome = true
  count : (package.elements propertiesName "Slides").map (·.content) =
    [toString (Deck.addedSlides history).length]
  title : (package.elements coreName "dc:title").map (·.content) = [Deck.lastTitle sheet history]
  created : (package.elements coreName "dcterms:created").map (·.content) = [created]
  size : (package.elements presentationName "p:sldSz").map (fun size => (size.value "cx", size.value "cy")) =
    [(toString sheet.slideWidth, toString sheet.slideHeight)]

namespace Deck

/-! The deck after actions. -/

theorem answers_append (deck : Deck) (before after : List Action) :
    answers deck (before ++ after) = answers deck before ++ answers (before.foldl perform deck) after := by
  induction before generalizing deck with
  | nil => rfl
  | cons action before ih => rw [List.cons_append, answers, ih, answers, List.cons_append, List.foldl_cons]

private theorem length_answers (deck : Deck) (history : List Action) :
    (answers deck history).length = history.length := by
  induction history generalizing deck with
  | nil => rfl
  | cons action history ih => rw [answers, List.length_cons, ih, List.length_cons]

/-- The answer to an action does not depend on what is done later. -/
theorem answerTo_eq (sheet : Sheet) (before : List Action) (action : Action) (after : List Action) :
    answerTo sheet before action after = some ((before.foldl perform { sheet }).answer action) := by
  have place : (answers { sheet } before).length ≤ before.length := (length_answers _ _).le
  rw [answerTo, answers_append, List.getElem?_append_right place, length_answers, Nat.sub_self]
  rfl

private theorem foldl_perform (deck : Deck) (history : List Action) :
    history.foldl perform deck =
      { sheet := { deck.sheet with title := lastTitle deck.sheet history }
        slides := deck.slides ++ addedSlides history } := by
  induction history generalizing deck with
  | nil => simp [lastTitle, addedSlides]
  | cons action history ih =>
    rw [List.foldl_cons, ih]
    cases action with
    | setTitle title =>
      have latest : lastTitle deck.sheet (.setTitle title :: history) =
          lastTitle { deck.sheet with title } history := List.getLastD_cons
      rw [latest]
      rfl
    | addSlide slide =>
      have grown : deck.slides ++ addedSlides (.addSlide slide :: history) =
          deck.slides ++ [slide] ++ addedSlides history := List.append_cons ..
      rw [grown]
      rfl
    | write created => rfl

/-- Writing leaves the deck as it is. -/
theorem foldl_perform_edits (deck : Deck) (history : List Action) :
    (history.filter Action.edits).foldl perform deck = history.foldl perform deck := by
  induction history generalizing deck with
  | nil => rfl
  | cons action history ih =>
    cases action with
    | setTitle title => exact ih (deck.withTitle title)
    | addSlide slide => exact ih (deck.add slide)
    | write created => exact ih deck

/-! The trees of parts that tell of the deck. -/

variable (deck : Written) (created : String)

private theorem text?_properties : (deck.package created).text? Package.propertiesName =
    some (Properties.extendedPart deck.slideCount) := by
  have member : ⟨Package.propertiesName, Properties.extendedPart deck.slideCount⟩ ∈
      frameParts deck.sheet deck.slideCount created := by
    simp [frameParts, Package.propertiesName]
  exact text?_frame deck created member

theorem text?_core : (deck.package created).text? Package.coreName =
    some (Properties.corePart deck.sheet.title created) := by
  have member : ⟨Package.coreName, Properties.corePart deck.sheet.title created⟩ ∈
      frameParts deck.sheet deck.slideCount created := by
    simp [frameParts, Package.coreName]
  exact text?_frame deck created member

/-- The elements of a part that holds a document. -/
theorem elements_document {package : Package} {part : String} {root : Node}
    (text : package.text? part = some (Xml.document root)) (plain : root.isPlain = true)
    {tag : StartTag} {children : List WrittenNode} (written : root.written = [.element tag children])
    (name : String) : package.elements part name = root.found name := by
  rw [Package.elements, text, Option.bind_some, WrittenNode.ofDocument?_document plain written,
    Node.found_eq_find written]
  rfl

private theorem indented_found (name : String) (node : Node) :
    (indented node).flatMap (Node.found name) = node.found name := by
  simp [indented, Node.found_text]

theorem elements_properties : ((deck.package created).elements Package.propertiesName "Slides").map
    (·.content) = [toString deck.slideCount] := by
  have plain : (Properties.extendedMarkup deck.slideCount).isPlain = true := rfl
  rw [elements_document (text?_properties deck created) plain (Node.written_tag ..)]
  simp [Properties.extendedMarkup, Node.found_tag, indented_found, Node.found_text,
    WrittenNode.content_text]

private theorem elements_core (element : String) :
    (deck.package created).elements Package.coreName element =
      (Properties.coreMarkup deck.sheet.title created).found element := by
  have plain : (Properties.coreMarkup deck.sheet.title created).isPlain = true := rfl
  exact elements_document (text?_core deck created) plain (Node.written_tag ..) element

private theorem elements_title : ((deck.package created).elements Package.coreName "dc:title").map
    (·.content) = [deck.sheet.title] := by
  rw [elements_core]
  simp [Properties.coreMarkup, Node.found_tag, indented_found, Node.found_text,
    WrittenNode.content_text]

private theorem elements_created : ((deck.package created).elements Package.coreName "dcterms:created").map
    (·.content) = [created] := by
  rw [elements_core]
  simp [Properties.coreMarkup, Node.found_tag, indented_found, Node.found_text,
    WrittenNode.content_text]

private theorem elements_presentation (element : String) :
    (deck.package created).elements Package.presentationName element =
      (presentationMarkup deck.slideCount deck.sheet.slideWidth deck.sheet.slideHeight).found element :=
  elements_document (text?_presentation deck created) (isPlain_presentationMarkup ..)
    (Node.written_tag ..) element

private theorem found_slideList (count : Nat) {element : String} (other : element ∉ ["p:sldIdLst", "p:sldId"]) :
    (slideList count).flatMap (Node.found element) = [] := by
  simp only [List.mem_cons, List.not_mem_nil, or_false, not_or] at other
  rw [slideList]
  split
  · rfl
  · have entry (number : Nat) : (tag "p:sldId" [("id", toString (slideId number)),
        ("r:id", relationshipId (slideRelationship number))]).found element = [] := by
      simp [Node.found_tag, Ne.symm other.2]
    rw [List.flatMap_singleton, Node.found_tag, if_neg (by simpa using Ne.symm other.1),
      List.flatMap_map]
    exact List.flatMap_eq_nil_iff.mpr fun number _ => entry number

private theorem elements_size : ((deck.package created).elements Package.presentationName "p:sldSz").map
    (fun size => (size.value "cx", size.value "cy")) =
      [(toString deck.sheet.slideWidth, toString deck.sheet.slideHeight)] := by
  rw [elements_presentation]
  simp [presentationMarkup, Node.found_tag, found_slideList, WrittenNode.value_element, List.lookup]

private theorem found_slideIds (count : Nat) :
    ((slideList count).flatMap (Node.found "p:sldIdLst")).flatMap (·.find "p:sldId") =
      (List.range' 1 count).map fun number => .element (slideTag number) [] := by
  rw [slideList]
  split
  next none => rw [none]; rfl
  next =>
    simp [Node.found_tag, WrittenNode.find_element, Node.written_tag, slideTag, List.map_eq_flatMap,
      List.flatMap_assoc]

private theorem elements_slideIds :
    ((deck.package created).elements Package.presentationName "p:sldIdLst").flatMap (·.find "p:sldId") =
      (List.range' 1 deck.slideCount).map fun number => .element (slideTag number) [] := by
  rw [elements_presentation, ← found_slideIds]
  simp [presentationMarkup, Node.found_tag]

/-! Where the list of slides leads to. -/

private theorem mem_slidesParts_of_getElem? {first index : Nat} {slides : List String} {slide : String}
    (known : slides[index]? = some slide) :
    ⟨slideName (first + index), slide⟩ ∈ slidesParts first slides := by
  induction slides generalizing first index with
  | nil => cases known
  | cons head slides ih =>
    rw [slidesParts, List.mem_append]
    cases index with
    | zero =>
      obtain rfl : head = slide := Option.some.inj known
      left
      rw [slideParts, slideName_eq, Nat.add_zero]
      exact List.mem_cons_of_mem _ List.mem_cons_self
    | succ index =>
      right
      have place : first + (index + 1) = first + 1 + index := by omega
      rw [place]
      exact ih (List.getElem?_cons_succ ▸ known)

theorem text?_slide {index : Nat} {slide : String} (known : deck.slides[index]? = some slide) :
    (deck.package created).text? (slideName (1 + index)) = some slide := by
  have member : ⟨slideName (1 + index), slide⟩ ∈ (deck.package created).parts :=
    List.mem_append_right _ (mem_slidesParts_of_getElem? known)
  exact Package.text?_of_mem (nodup_names deck created) member

private theorem follow_slide {number : Nat} (inside : number ∈ List.range' 1 deck.slideCount) :
    (deck.package created).follow Package.presentationName (relationshipId (slideRelationship number)) =
      (deck.package created).text? (slideName number) := by
  have listed : ("ppt/_rels/presentation.xml.rels", presentationRelationships deck.slideCount) ∈
      relationshipLists deck.slideCount := by simp [relationshipLists]
  have distinct := nodup_relationshipIds listed
  have item : ⟨slideRelationship number, .slide, s!"slides/slide{number}.xml"⟩ ∈
      presentationRelationships deck.slideCount := List.mem_append_right _ (List.mem_map_of_mem inside)
  have name : Part.relationshipsName Package.presentationName = "ppt/_rels/presentation.xml.rels" := by
    decide
  rw [Package.follow, relationshipsOf_presentation, List.find?_map]
  have found := find?_key distinct item
  rw [Function.comp_def]
  dsimp only
  rw [found, Option.map_some, Option.bind_some, name, targetName_slide]

private theorem listedSlides_package :
    (deck.package created).listedSlides = deck.slides.map some := by
  rw [Package.listedSlides, elements_slideIds, List.map_map]
  refine List.ext_getElem (by simp [Written.slideCount]) fun index listed known => ?_
  rw [List.length_map] at known
  have inside : 1 + index ∈ List.range' 1 deck.slideCount :=
    List.mem_range'_1.mpr ⟨by omega, Nat.add_lt_add_left known 1⟩
  rw [List.getElem_map, List.getElem_map, List.getElem_range', Nat.one_mul, Function.comp_apply, slideTag,
    WrittenNode.value_element]
  exact (follow_slide deck created inside).trans (text?_slide deck created (List.getElem?_eq_getElem known))

/-- The time of writing is found in one place of a package. -/
theorem package_around : ∃ above below front back, ∀ created : String,
    deck.package created =
      ⟨above ++ ⟨Package.coreName, front ++ String.ofList (Xml.escape created.toList) ++ back⟩ :: below⟩ := by
  obtain ⟨front, back, core⟩ := Properties.corePart_eq deck.sheet.title
  let frame := frameParts deck.sheet deck.slideCount ""
  refine ⟨frame.take 3, frame.drop 4 ++ slidesParts 1 deck.slides, front, back, fun created => ?_⟩
  rw [← core]
  rfl

variable {sheet : Sheet} {history : List Action}

private theorem tells_package {written : Written}
    (made : (history.foldl perform { sheet }).written? = some written)
    (created : String) : (written.package created).Tells sheet history created := by
  rw [foldl_perform, List.nil_append] at made
  have texts : written.slides.map some = (addedSlides history).map Layout.toXml? := map_some_slides made
  have count : written.slideCount = (addedSlides history).length := slideCount_of_written? made
  have same := (written?_eq_some_iff.mp made).1
  constructor
  · rw [listedSlides_package, texts]
  · intro slide member
    have known := List.mem_map_of_mem (f := Layout.toXml?) member
    rw [← texts] at known
    obtain ⟨text, -, own⟩ := List.mem_map.mp known
    rw [← own, Option.isSome_some]
  · rw [elements_properties, count]
  · rw [elements_title, same]
  · exact elements_created written created
  · rw [elements_size, same]

private theorem foldl_perform_slides : (history.foldl perform { sheet }).slides = addedSlides history := by
  rw [foldl_perform, List.nil_append]

private theorem answer_write_of_some {deck : Deck} {written : Written} (made : deck.written? = some written)
    (created : String) : deck.answer (.write created) = .package (written.package created) := by
  rw [answer, package?, made]
  rfl

private theorem answer_write_of_none {deck : Deck} (unmade : deck.written? = none) (created : String) :
    deck.answer (.write created) = .broken := by
  rw [answer, package?, unmade]
  rfl

/-- The slides that are added to a deck get the numbers from one on, and each package that is written
tells of the actions before it: the slides in their order, their number, the title, the size. There is a
package exactly if the measures of the slides fit; otherwise the program breaks down over it. What comes
of writing is the same whether or not other packages were written before, and whatever is done later. The
time stands in one place of a package and leaves all else as it is. -/
theorem answers_tell_history (sheet : Sheet) (before after : List Action) :
    (∀ slide, answerTo sheet before (.addSlide slide) after =
      some (.page ((addedSlides before).length + 1))) ∧
    (∀ created, (∃ package, answerTo sheet before (.write created) after = some (.package package) ∧
      package.Tells sheet before created) ↔ ∀ slide ∈ addedSlides before, slide.Fits) ∧
    (∀ created, answerTo sheet before (.write created) after = some .broken ↔
      ∃ slide ∈ addedSlides before, ¬ slide.Fits) ∧
    ∃ answer : String → Answer,
      (∀ created later, answerTo sheet before (.write created) later = some (answer created) ∧
        answerTo sheet (before.filter Action.edits) (.write created) later = some (answer created)) ∧
      ((∀ created, answer created = .broken) ∨ ∃ above below front back, ∀ created, answer created =
        .package ⟨above ++
          ⟨Package.coreName, front ++ String.ofList (Xml.escape created.toList) ++ back⟩ :: below⟩) := by
  let deck := before.foldl perform { sheet }
  have fits : deck.written?.isSome = true ↔ ∀ slide ∈ addedSlides before, slide.Fits := by
    rw [isSome_written?_iff, foldl_perform_slides]
  have misfits : deck.written? = none ↔ ∃ slide ∈ addedSlides before, ¬ slide.Fits := by
    rw [← Option.not_isSome_iff_eq_none, fits]
    simp
  refine ⟨fun slide => ?_, fun created => ?_, fun created => ?_,
    fun created => deck.answer (.write created), fun created later => ⟨?_, ?_⟩, ?_⟩
  · rw [answerTo_eq, foldl_perform, List.nil_append, answer, add, slideCount, List.length_append]
    rfl
  · rw [← fits, answerTo_eq]
    cases made : deck.written? with
    | none => simp [deck, answer_write_of_none made]
    | some written =>
      rw [Option.isSome_some, eq_self, iff_true]
      exact ⟨written.package created, congrArg some (answer_write_of_some made created),
        tells_package made created⟩
  · rw [← misfits, answerTo_eq]
    cases made : deck.written? with
    | none => simp [deck, answer_write_of_none made]
    | some written => simp [deck, answer_write_of_some made]
  · exact answerTo_eq ..
  · rw [answerTo_eq, foldl_perform_edits]
  · cases made : deck.written? with
    | none => exact .inl (answer_write_of_none made)
    | some written =>
      obtain ⟨above, below, front, back, around⟩ := package_around written
      exact .inr ⟨above, below, front, back, fun created =>
        (answer_write_of_some made created).trans (congrArg Answer.package (around created))⟩

/-- A slide of which the measures do not fit is added like any other, and no package can be written then. -/
theorem oversized_slide_breaks_writing : ¬ ∀ (sheet : Sheet) (before after : List Action) (created : String),
    ∃ package, answerTo sheet before (.write created) after = some (.package package) ∧
      package.Tells sheet before created := by
  intro always
  obtain ⟨package, told, -⟩ := always {} [.addSlide Layout.oversized] [] ""
  have unmade : ([Action.addSlide Layout.oversized].foldl perform { sheet := {} }).written? = none := by
    rw [written?, foldl_perform_slides]
    change ([Layout.oversized].mapM Layout.toXml?).map _ = none
    rw [List.mapM_cons, Layout.toXml?_oversized]
    rfl
  rw [answerTo_eq, answer_write_of_none unmade] at told
  cases told

end Deck

end SlidePress
