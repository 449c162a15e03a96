import SlidePress.Proofs.DeckFiles
import SlidePress.Proofs.DeckHistory
import SlidePress.Proofs.DeckSlides

/-! What is told while a deck is made, and what the deck is in the end. Every number that is told of or
written down is that of the drafts, and the style that is told for a slide is the one it is drawn in. Who
listens makes no difference to the deck. -/

namespace SlidePress

/-- Whether a part is a slide: one that is in the folder of the slides itself. -/
def Part.isSlide (name : String) : Bool := (Part.steps name).dropLast == Part.steps "ppt/slides"

namespace FileTree

variable {tree newer : FileTree} {path : Path}

/-- Whether a path leads to a file with a package. A device takes a package as well, and keeps nothing. -/
def HasPackage (tree : FileTree) (path : Path) (package : Package) : Prop :=
  (∃ runnable, tree.entry? path = some (.file (.package package) runnable)) ∨
    ∃ device, tree.entry? path = some (.device device)

private theorem hasPackage_of_write {package : Package}
    (written : tree.write path (.package package) = .ok newer) :
    newer.HasPackage path package := by
  obtain ⟨place, named⟩ := newPlace_of_write written
  rw [HasPackage, FileTree.entry?, locate_of_write written named]
  exact find?_of_write written named

/-- Whether a file can be written does not depend on what is written to it. -/
theorem write_of_write {content : Content} (written : tree.write path content = .ok newer) (other : Content) :
    ∃ newer, tree.write path other = .ok newer := by
  rw [write] at written ⊢
  split at written
  · cases written
  · cases written
  · cases written
  next place named =>
    split at written
    · cases written
    all_goals exact ⟨_, rfl⟩

end FileTree

namespace Deck

section Telling

variable {Listener : Type} (tell : Listener → Progress → Listener) (settings : Settings)

/-- Draws the drafts behind the slides of a deck like `addDrafts`, and tells of each just before that. -/
def addDraftsTelling (total : Nat) : (position : Nat) → Deck → Listener → List Draft → Deck × Listener
  | _, deck, listener, [] => (deck, listener)
  | position, deck, listener, draft :: drafts =>
    let style := settings.style draft position
    let listener := tell listener (.slide position total style draft.title)
    let slide := settings.design.slide draft style (deck.slideCount + 1)
    addDraftsTelling total (position + 1) (deck.add slide) listener drafts

/-- The deck of the drafts, and the listener who has been told of them meanwhile. -/
def ofDraftsTelling (listener : Listener) (drafts : List Draft) : Deck × Listener :=
  let empty : Deck := { sheet := settings.sheet }
  let titled := match settings.title? drafts with
    | some title => empty.withTitle title
    | none => empty
  addDraftsTelling tell settings drafts.length 1 titled listener drafts

/-- Makes the deck of the document in a file, and tells a listener of every step when it is taken. -/
def generateTelling (listener : Listener) (tree : FileTree) (created : String) (input output : Path) :
    FileTree × Listener × Except Stop Summary :=
  match readDocument tree input with
  | .error failure => (tree, listener, .error (.failure failure))
  | .ok document =>
    let drafts := Draft.ofDocument document
    let (deck, listener) := ofDraftsTelling tell settings (tell listener (.parsed drafts.length)) drafts
    match deck.save created tree output with
    | (tree, some stop) => (tree, listener, .error stop)
    | (tree, none) => (tree, listener, .ok ⟨deck.slideCount, output⟩)

private theorem addDraftsTelling_eq (total position : Nat) (deck : Deck) (listener : Listener)
    (drafts : List Draft) :
    addDraftsTelling tell settings total position deck listener drafts =
      (addDrafts settings position deck drafts,
        (drawingProgress settings total position drafts).foldl tell listener) := by
  induction drafts generalizing position deck listener with
  | nil => rfl
  | cons draft drafts ih =>
    rw [addDraftsTelling, ih, addDrafts, drawingProgress, List.foldl_cons]

private theorem ofDraftsTelling_eq (listener : Listener) (drafts : List Draft) :
    ofDraftsTelling tell settings listener drafts =
      (ofDrafts settings drafts, (progress settings drafts).foldl tell listener) :=
  addDraftsTelling_eq tell settings drafts.length 1 _ listener drafts

/-- A listener hears what is told and has no part in what is made. -/
theorem generateTelling_eq (listener : Listener) (tree : FileTree) (created : String) (input output : Path) :
    generateTelling tell settings listener tree created input output =
      let made := generate tree settings created input output
      (made.tree, made.progress.foldl tell listener, made.result) := by
  rw [generateTelling, generate]
  cases readDocument tree input with
  | error failure => rfl
  | ok document =>
    simp only [ofDraftsTelling_eq]
    rcases (ofDrafts settings (Draft.ofDocument document)).save created tree output with ⟨newer, _ | stop⟩
    · rfl
    · rfl

end Telling

private theorem drawingProgress_eq (settings : Settings) (total position : Nat) (drafts : List Draft) :
    drawingProgress settings total position drafts = drafts.mapIdx fun index draft =>
      .slide (position + index) total (settings.style draft (position + index)) draft.title := by
  induction drafts generalizing position with
  | nil => rfl
  | cons draft drafts ih =>
    rw [drawingProgress, ih, List.mapIdx_cons]
    simp only [Nat.add_zero, Nat.add_assoc, Nat.add_comm 1]

private theorem length_slides (settings : Settings) (drafts : List Draft) :
    (ofDrafts settings drafts).slides.length = drafts.length := by
  rw [slides_ofDrafts, List.length_mapIdx]

/-! The parts that are slides. -/

private theorem isSlide_slideName (number : Nat) : Part.isSlide (slideName number) = true := by
  have folder : Part.steps "ppt/slides" = ["ppt".toList, "slides".toList] := by decide
  rw [Part.isSlide, steps_slideName, folder]
  rfl

private theorem isSlide_slideRelationshipsName (number : Nat) :
    Part.isSlide (slideRelationshipsName number) = false := by
  have folder : Part.steps "ppt/slides" = ["ppt".toList, "slides".toList] := by decide
  rw [Part.isSlide, steps_slideRelationshipsName, folder]
  rfl

private theorem filter_isSlide (count : Nat) :
    (partNames count).filter Part.isSlide = (List.range' 1 count).map slideName := by
  have frame : frameNames.filter Part.isSlide = [] := by decide
  have pair (number : Nat) : (slidePartNames number).filter Part.isSlide = [slideName number] := by
    rw [slidePartNames, List.filter_cons_of_neg (Bool.eq_false_iff.mp (isSlide_slideRelationshipsName number)),
      List.filter_cons_of_pos (isSlide_slideName number), List.filter_nil]
  rw [partNames, List.filter_append, frame, List.nil_append, List.filter_flatMap, List.map_eq_flatMap]
  simp only [pair]

/-! The deck in its file. -/

/-- A deck that can be saved can be saved at any time. -/
theorem save_of_save {deck : Deck} {written : Written} (drawn : deck.written? = some written)
    {created : String} {tree newer : FileTree} {output : Path}
    (saved : deck.save created tree output = (newer, none)) (time : String) :
    ∃ newer, deck.save time tree output = (newer, none) ∧ newer.HasPackage output (written.package time) := by
  rw [save] at saved ⊢
  split at saved
  · cases saved
  next folders reached =>
    simp only [package?, drawn, Option.map_some] at saved ⊢
    split at saved
    next wrote =>
      obtain ⟨later, rewritten⟩ := FileTree.write_of_write wrote (.package (written.package time))
      simp only [Option.elim_some, rewritten]
      exact ⟨later, rfl, FileTree.hasPackage_of_write rewritten⟩
    · cases saved

/-- What is told of a deck that has been made of drafts, and what the deck holds. -/
structure Generation.Accounts (made : Generation) (settings : Settings) (drafts : List Draft)
    (package : Package) (output : Path) : Prop where
  progress : made.progress = .parsed drafts.length :: drafts.mapIdx fun index draft =>
    .slide (index + 1) drafts.length (settings.style draft (index + 1)) draft.title
  summary : made.result = .ok ⟨drafts.length, output⟩
  written : made.tree.HasPackage output package
  drawn : ∀ index draft, drafts[index]? = some draft → ∃ text,
    (settings.design.slide draft (settings.style draft (index + 1)) (index + 1)).toXml? = some text ∧
      package.text? (slideName (index + 1)) = some text
  slides : (package.names.filter Part.isSlide).length = drafts.length
  property : (package.elements Package.propertiesName "Slides").map (·.content) =
    [toString drafts.length]

private theorem length_filter_isSlide (deck : Written) (created : String) :
    ((deck.package created).names.filter Part.isSlide).length = deck.slideCount := by
  rw [names_package, filter_isSlide, List.length_map, List.length_range']

variable {tree : FileTree} {settings : Settings} {created : String} {input output : Path} {document : String}
  {drafts : List Draft} {written : Written}

private theorem text?_drawn (drawn : (ofDrafts settings drafts).written? = some written)
    (created : String) {index : Nat}
    {draft : Draft} (known : drafts[index]? = some draft) : ∃ text,
      (settings.design.slide draft (settings.style draft (index + 1)) (index + 1)).toXml? = some text ∧
        (written.package created).text? (slideName (index + 1)) = some text := by
  obtain ⟨text, own, found⟩ := getElem?_written drawn (getElem?_slides_ofDrafts settings known)
  rw [Nat.add_comm index] at own ⊢
  exact ⟨text, own, text?_slide written created found⟩

private theorem save_of_generate {summary : Summary} (reads : readDocument tree input = .ok document)
    (made : (generate tree settings created input output).result = .ok summary) :
    ∃ newer, (ofDrafts settings (Draft.ofDocument document)).save created tree output = (newer, none) := by
  rw [generate, reads] at made
  dsimp only at made
  split at made
  · cases made
  next newer saved => exact ⟨newer, saved⟩

private theorem accounts_of_save {newer : FileTree} (reads : readDocument tree input = .ok document)
    (drawn : (ofDrafts settings (Draft.ofDocument document)).written? = some written)
    (saved : (ofDrafts settings (Draft.ofDocument document)).save created tree output = (newer, none)) :
    (generate tree settings created input output).Accounts settings (Draft.ofDocument document)
      (written.package created) output := by
  have count : (ofDrafts settings (Draft.ofDocument document)).slideCount = (Draft.ofDocument document).length :=
    length_slides settings _
  have slides : written.slideCount = (Draft.ofDocument document).length :=
    (slideCount_of_written? drawn).trans count
  obtain ⟨newer, saved, has⟩ := save_of_save drawn saved created
  have made : generate tree settings created input output =
      ⟨newer, .parsed (Draft.ofDocument document).length :: progress settings (Draft.ofDocument document),
        .ok ⟨(Draft.ofDocument document).length, output⟩⟩ := by
    rw [generate, reads]
    simp only [saved, count]
  rw [made]
  constructor
  · dsimp only
    rw [progress, drawingProgress_eq]
    simp only [Nat.add_comm 1]
  · rfl
  · exact has
  · intro index draft known
    exact text?_drawn drawn created known
  · rw [length_filter_isSlide, slides]
  · rw [elements_properties, slides]

/-- A deck that has been made has told of every draft in order, by the title and the style that its slide
really has, and of one number throughout: that of the drafts, of the slides in the package and of the
slides that the package says to have. Whoever listens, and whenever the deck is made, the package is the
same but for the time in it. -/
theorem generation_accounts_for_slides {summary : Summary}
    (done : (generate tree settings created input output).result = .ok summary) :
    ∃ document, tree.HoldsText input document ∧
      let drafts := Draft.ofDocument document
      let made := generate tree settings created input output
      ∃ written, (ofDrafts settings drafts).written? = some written ∧
      let package := written.package
      made.Accounts settings drafts (package created) output ∧
      (∀ {Listener : Type} (tell : Listener → Progress → Listener) (listener : Listener) (time : String),
        let later := (generate tree settings time input output).tree
        later.HasPackage output (package time) ∧
          generateTelling tell settings listener tree time input output =
            (later, made.progress.foldl tell listener, .ok summary)) ∧
      ∃ above below front back, ∀ time : String, package time =
        ⟨above ++ ⟨Package.coreName, front ++ String.ofList (Xml.escape time.toList) ++ back⟩ :: below⟩ := by
  cases reads : readDocument tree input with
  | error failure =>
    rw [generate, reads] at done
    cases done
  | ok document =>
    obtain ⟨newer, saved⟩ := save_of_generate reads done
    obtain ⟨written, drawn⟩ := written?_ofDrafts settings (Draft.ofDocument document)
    have accounts (time : String) : (generate tree settings time input output).Accounts settings
        (Draft.ofDocument document) (written.package time) output := by
      obtain ⟨later, resaved, -⟩ := save_of_save drawn saved time
      exact accounts_of_save reads drawn resaved
    refine ⟨document, readDocument_eq_ok_iff.mp reads, written, drawn, accounts created, ?_, package_around _⟩
    intro Listener tell listener time
    refine ⟨(accounts time).written, ?_⟩
    rw [generateTelling_eq]
    dsimp only
    rw [(accounts time).progress, (accounts time).summary, (accounts created).progress, ← done,
      (accounts created).summary]

def talkFile : FileTree where
  entries := [(["a.md"], .file (.ofString "# Talk\n## Why\n") false)]

private theorem holdsText_talkFile : talkFile.HoldsText ⟨"a.md"⟩ "# Talk\n## Why\n" := by
  have there : talkFile.find? ["a.md"] = some (.file (.ofString "# Talk\n## Why\n") false) := rfl
  refine ⟨.ofString "# Talk\n## Why\n", false, ?_, by decide +kernel⟩
  rw [FileTree.entry?, FileTree.locate_name (by decide +kernel) rfl there]
  exact there

private theorem generate_talkFile :
    (generate talkFile {} "" ⟨"a.md"⟩ ⟨"a.pptx"⟩).result = .ok ⟨2, ⟨"a.pptx"⟩⟩ := by
  have parent : (⟨"a.pptx"⟩ : Path).parent? = some ⟨""⟩ := by decide +kernel
  have ensured : talkFile.ensureParent ⟨"a.pptx"⟩ = (talkFile, none) := by
    rw [FileTree.ensureParent, parent]
    rfl
  have count : (ofDrafts {} (Draft.ofDocument "# Talk\n## Why\n")).slideCount = 2 := by decide +kernel
  have free : talkFile.find? ["a.pptx"] = none := rfl
  have valid : FileTree.IsFileName "a.pptx" := by decide +kernel
  have written := FileTree.write_name valid rfl (.inl free)
  obtain ⟨package, drawn⟩ := package?_ofDrafts {} (Draft.ofDocument "# Talk\n## Why\n") ""
  rw [generate, readDocument_eq_ok_iff.mpr holdsText_talkFile]
  simp only [save, ensured, drawn, written, count]
  rfl

/-- If nobody listens, the deck is made all the same. -/
theorem generation_accounts_for_slides_talk :
    (generate talkFile {} "" ⟨"a.md"⟩ ⟨"a.pptx"⟩).result = .ok ⟨2, ⟨"a.pptx"⟩⟩ ∧
      (generate talkFile {} "" ⟨"a.md"⟩ ⟨"a.pptx"⟩).progress.length = 3 ∧
      ∃ newer, generateTelling (fun _ _ => ()) {} () talkFile "later" ⟨"a.md"⟩ ⟨"a.pptx"⟩ =
        (newer, (), .ok ⟨2, ⟨"a.pptx"⟩⟩) := by
  obtain ⟨document, -, deck, -, accounts, told, -⟩ := generation_accounts_for_slides generate_talkFile
  have number : (Draft.ofDocument document).length = 2 :=
    congrArg Summary.slideCount (Except.ok.inj (accounts.summary.symm.trans generate_talkFile))
  refine ⟨generate_talkFile, ?_, _, (told (fun _ _ => ()) () "later").2⟩
  rw [accounts.progress, List.length_cons, List.length_mapIdx, number]

end Deck

end SlidePress
