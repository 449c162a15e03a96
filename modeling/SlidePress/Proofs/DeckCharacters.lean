import SlidePress.Deck.Generation
import SlidePress.Moment
import SlidePress.Proofs.DeckHistory
import SlidePress.Proofs.DeckSlides
import SlidePress.Proofs.DraftCharacters
import SlidePress.Proofs.SlideCharacters

/-! The parts of a deck as documents. Whatever is in the document and in the settings, a slide and the
part with the title follow the grammar. All their characters are allowed if those of the document and of
the settings are; no other is left out on the way, and one is enough to spoil the part it gets into. -/

namespace SlidePress

open Xml (isAllowed isAllowedText)

private theorem isAllowedText_of_subset {text : List Char} {source : String} (inside : text ⊆ source.toList)
    (allowed : isAllowedText source = true) : isAllowedText (String.ofList text) = true := by
  rw [isAllowedText, String.toList_ofList]
  exact List.all_eq_true.mpr fun c member => List.all_eq_true.mp allowed c (inside member)

def Draft.isAllowed (draft : Draft) : Bool :=
  isAllowedText draft.title && isAllowedText draft.content && isAllowedText draft.languageName

private theorem Draft.isAllowed_ofDocument {document : String} (allowed : isAllowedText document = true) :
    ∀ draft ∈ ofDocument document, draft.isAllowed = true := by
  intro draft member
  have made := within_ofDocument document draft member
  have fed : isAllowedText ("\n" ++ document) = true := by
    rw [isAllowedText_append, allowed]
    rfl
  have part {text : String} (inside : text.toList ⊆ '\n' :: document.toList) : isAllowedText text = true := by
    rw [← String.ofList_toList (s := text)]
    refine isAllowedText_of_subset ?_ fed
    rwa [String.toList_append]
  rw [Draft.isAllowed, part made.title, part made.content, part made.language]
  rfl

/-! Shapes whose paragraphs are allowed. -/

private theorem Paragraph.isAllowed_of_text {paragraph : Paragraph} (text : isAllowedText paragraph.text = true)
    (plain : paragraph.font = none) : paragraph.isAllowed = true := by
  rw [isAllowed, text, plain]
  rfl

private theorem Shape.isAllowed_of_single {shape : Shape} {paragraph : Paragraph}
    (only : shape.paragraphs = [paragraph]) (allowed : paragraph.isAllowed = true) :
    shape.isAllowed = true := by
  rw [isAllowed, only, List.all_cons, allowed]
  rfl

private theorem Layout.isAllowed_push {layout : Layout} {shape : Shape} (below : layout.isAllowed = true)
    (top : shape.isAllowed = true) : (layout.push shape).isAllowed = true := by
  rw [isAllowed] at below
  rw [isAllowed, push, List.all_append, below, List.all_cons, top]
  rfl

namespace Design

def isAllowed (design : Design) : Bool :=
  isAllowedText design.theme.codeFont && design.footerText.all isAllowedText

variable {design : Design} {draft : Draft}

private theorem isAllowed_footer (own : design.isAllowed = true) (page : Nat) :
    (design.footer page).isAllowed = true := by
  have number : isAllowedText s!"Slide {page}" = true := by
    simp +decide [isAllowedText_append, isAllowedText_nat]
  have label : isAllowedText (design.footerLabel page) = true := by
    rw [isAllowed, Bool.and_eq_true] at own
    rw [footerLabel]
    cases given : design.footerText with
    | none => exact number
    | some text =>
      rw [given] at own
      dsimp only
      split
      · exact number
      · have front : isAllowedText s!"{text}" = true := own.2
        simp +decide [isAllowedText_append, isAllowedText_nat, front]
  exact Shape.isAllowed_of_single rfl (Paragraph.isAllowed_of_text label rfl)

private theorem isAllowed_titleSlide (allowed : draft.isAllowed = true) :
    (design.titleSlide draft).isAllowed = true := by
  simp only [Draft.isAllowed, Bool.and_eq_true] at allowed
  rw [Layout.isAllowed, titleSlide]
  generalize found : (Text.lines draft.content.toList).filter (!Text.allBlank ·) = lines
  have line {line : List Char} (member : line ∈ lines) : line ⊆ draft.content.toList := by
    rw [← found] at member
    exact Text.lines_subset (List.mem_of_mem_filter member)
  have subtitle : isAllowedText (String.ofList (lines.headD [])) = true := by
    cases lines with
    | nil => rfl
    | cons first others => exact isAllowedText_of_subset (line List.mem_cons_self) allowed.1.2
  rw [List.all_append, List.all_cons, List.all_cons, List.all_nil, Bool.and_true, Bool.and_eq_true,
    Bool.and_eq_true]
  refine ⟨⟨Shape.isAllowed_of_single rfl ?_, Shape.isAllowed_of_single rfl ?_⟩, ?_⟩
  · exact Paragraph.isAllowed_of_text allowed.1.1 rfl
  · exact Paragraph.isAllowed_of_text subtitle rfl
  split
  · rfl
  · rw [List.all_cons, List.all_nil, Bool.and_true, Shape.isAllowed, Shape.textBox, List.all_map]
    refine List.all_eq_true.mpr fun other member => Paragraph.isAllowed_of_text ?_ rfl
    exact isAllowedText_of_subset
      (List.Subset.trans (Text.trim_subset other) (line (List.mem_of_mem_tail member))) allowed.1.2

private theorem isAllowed_dividerSlide (allowed : draft.isAllowed = true) :
    (design.dividerSlide draft).isAllowed = true := by
  simp only [Draft.isAllowed, Bool.and_eq_true] at allowed
  rw [Layout.isAllowed, dividerSlide, List.all_cons, List.all_nil, Bool.and_true]
  exact Shape.isAllowed_of_single rfl (Paragraph.isAllowed_of_text allowed.1.1 rfl)

/-- What is shown of a line is made of the line. -/
theorem isAllowed_ofLine {icons : List String} {line : List Char} {source : String} (theme : Theme)
    (inside : line ⊆ source.toList) (allowed : isAllowedText source = true) {body : BodyLine}
    (read : BodyLine.ofLine icons line = some body) : (body.paragraph theme).isAllowed = true := by
  have whole : isAllowedText (String.ofList line) = true := isAllowedText_of_subset inside allowed
  have marked {mark rest : List Char} (found : Text.after? mark line = some rest) :
      isAllowedText (String.ofList (Text.trim rest)) = true :=
    isAllowedText_of_subset (List.Subset.trans (Text.trim_subset rest)
      (List.Subset.trans (Text.after?_subset found) inside)) allowed
  rw [BodyLine.ofLine] at read
  split at read
  next rest found =>
    obtain rfl := Option.some.inj read
    rw [BodyLine.bulletText?] at found
    cases dash : Text.after? BodyLine.dash line with
    | none =>
      rw [dash] at found
      exact Paragraph.isAllowed_of_text (marked found) rfl
    | some other =>
      rw [dash] at found
      obtain rfl := Option.some.inj found
      exact Paragraph.isAllowed_of_text (marked dash) rfl
  next =>
    split at read
    next rest found =>
      obtain rfl := Option.some.inj read
      exact Paragraph.isAllowed_of_text (marked found) rfl
    next =>
      split at read
      next =>
        obtain rfl := Option.some.inj read
        have bare := List.Subset.trans (Text.trimMatching_subset '*' line) inside
        exact Paragraph.isAllowed_of_text (isAllowedText_of_subset bare allowed) rfl
      next =>
        split at read
        next =>
          obtain rfl := Option.some.inj read
          exact Paragraph.isAllowed_of_text whole rfl
        next =>
          split at read
          next => cases read
          next =>
            obtain rfl := Option.some.inj read
            exact Paragraph.isAllowed_of_text whole rfl

private theorem isAllowed_bodyParagraphs {content : String} (allowed : isAllowedText content = true) :
    (design.bodyParagraphs content).all Paragraph.isAllowed = true := by
  refine List.all_eq_true.mpr fun paragraph member => ?_
  obtain ⟨line, piece, read⟩ := List.mem_filterMap.mp member
  obtain ⟨body, known, rfl⟩ := Option.map_eq_some_iff.mp read
  exact isAllowed_ofLine design.theme
    (List.Subset.trans (Text.pieces_subset piece) (Text.trim_subset _)) allowed known

private theorem isAllowed_contentSlide (allowed : draft.isAllowed = true) :
    (design.contentSlide draft).isAllowed = true := by
  simp only [Draft.isAllowed, Bool.and_eq_true] at allowed
  have body : (design.bodyParagraphs draft.content).all Paragraph.isAllowed = true :=
    isAllowed_bodyParagraphs allowed.1.2
  rw [Layout.isAllowed, contentSlide, List.all_cons, Bool.and_eq_true]
  refine ⟨Shape.isAllowed_of_single rfl (Paragraph.isAllowed_of_text allowed.1.1 rfl), ?_⟩
  split
  · rfl
  · rw [List.all_cons, List.all_nil, Bool.and_true]
    exact body

private theorem isAllowed_codeSlide (own : design.isAllowed = true) (allowed : draft.isAllowed = true) :
    (design.codeSlide draft).isAllowed = true := by
  simp only [Draft.isAllowed, Bool.and_eq_true] at allowed
  rw [isAllowed, Bool.and_eq_true] at own
  have code : ∀ line ∈ Text.pieces '\n' draft.content.toList,
      ({ text := String.ofList line, font := some design.theme.codeFont, size := 16,
         color := design.theme.codeText } : Paragraph).isAllowed = true := by
    intro line piece
    have shown := isAllowedText_of_subset (Text.pieces_subset piece) allowed.1.2
    rw [Paragraph.isAllowed, shown, Option.all_some, own.1]
    rfl
  have capitals : isAllowedText (Text.uppercase draft.languageName) = true := by
    rw [isAllowedText, Text.uppercase, String.toList_ofList, List.all_flatMap]
    exact List.all_eq_true.mpr fun c member =>
      Text.isAllowed_capital (List.all_eq_true.mp allowed.2 c member)
  rw [Layout.isAllowed, codeSlide, List.all_cons, List.all_cons, Bool.and_eq_true, Bool.and_eq_true]
  refine ⟨Shape.isAllowed_of_single rfl (Paragraph.isAllowed_of_text allowed.1.1 rfl), ?_, ?_⟩
  · rw [Shape.isAllowed, Shape.rectangle, List.all_map]
    exact List.all_eq_true.mpr code
  · split
    · rfl
    · rw [List.all_cons, List.all_nil, Bool.and_true]
      refine Shape.isAllowed_of_single rfl (Paragraph.isAllowed_of_text ?_ rfl)
      exact capitals

private theorem isAllowed_slide (own : design.isAllowed = true) (allowed : draft.isAllowed = true)
    (style : Style)
    (page : Nat) : (design.slide draft style page).isAllowed = true := by
  have foot := isAllowed_footer own page
  cases style with
  | title =>
    rw [slide]
    exact isAllowed_titleSlide allowed
  | divider =>
    rw [slide]
    exact isAllowed_dividerSlide allowed
  | content =>
    rw [slide]
    exact Layout.isAllowed_push (isAllowed_contentSlide allowed) foot
  | code =>
    rw [slide]
    exact Layout.isAllowed_push (isAllowed_codeSlide own allowed) foot

end Design

private theorem isAllowedText_padded (width n : Nat) : isAllowedText (padded width n) = true := by
  have zeros : isAllowedText (String.ofList (List.replicate (width - (toString n).length) '0')) = true := by
    rw [isAllowedText, String.toList_ofList]
    refine List.all_eq_true.mpr fun c member => ?_
    rw [List.eq_of_mem_replicate member]
    rfl
  rw [padded, isAllowedText_append, zeros, Bool.true_and]
  exact isAllowedText_nat n

private theorem isAllowedText_momentText (seconds : Nat) : isAllowedText (momentText seconds) = true := by
  simp +decide [momentText, isAllowedText_append, isAllowedText_padded]

namespace Deck

def Settings.isAllowed (settings : Settings) : Bool :=
  settings.title.all isAllowedText && isAllowedText settings.sheet.title && settings.design.isAllowed

private theorem sheet_addDrafts (settings : Settings) (position : Nat) (deck : Deck) (drafts : List Draft) :
    (addDrafts settings position deck drafts).sheet = deck.sheet := by
  induction drafts generalizing position deck with
  | nil => rfl
  | cons draft drafts ih =>
    rw [addDrafts, ih]
    rfl

private theorem title_ofDrafts (settings : Settings) (drafts : List Draft) :
    (ofDrafts settings drafts).sheet.title = (settings.title? drafts).getD settings.sheet.title := by
  rw [ofDrafts, sheet_addDrafts]
  cases settings.title? drafts <;> rfl

variable {settings : Settings} {document : String}

private theorem isAllowed_title (own : settings.isAllowed = true) (allowed : isAllowedText document = true) :
    isAllowedText (ofDrafts settings (Draft.ofDocument document)).sheet.title = true := by
  simp only [Settings.isAllowed, Bool.and_eq_true] at own
  rw [title_ofDrafts]
  cases given : settings.title? (Draft.ofDocument document) with
  | none => exact own.1.2
  | some title =>
    rw [Option.getD_some]
    obtain ⟨found, -⟩ := Option.filter_eq_some_iff.mp given
    cases set : settings.title with
    | some text =>
      rw [set] at found own
      obtain rfl := Option.some.inj found
      exact own.1.1
    | none =>
      rw [set] at found
      obtain ⟨draft, first, rfl⟩ := Option.map_eq_some_iff.mp found
      have known := Draft.isAllowed_ofDocument allowed draft (List.mem_of_head? first)
      simp only [Draft.isAllowed, Bool.and_eq_true] at known
      exact known.1.1

private theorem isAllowed_slides (own : settings.isAllowed = true) (allowed : isAllowedText document = true) :
    ∀ slide ∈ (ofDrafts settings (Draft.ofDocument document)).slides, slide.isAllowed = true := by
  rw [Settings.isAllowed, Bool.and_eq_true] at own
  intro slide member
  rw [slides_ofDrafts] at member
  obtain ⟨index, inside, rfl⟩ := List.mem_mapIdx.mp member
  exact Design.isAllowed_slide own.2
    (Draft.isAllowed_ofDocument allowed _ (List.getElem_mem inside)) _ _

/-- There is a part that follows the grammar, and it is well formed exactly in one case. -/
def HoldsDocument (package : Package) (name : String) (case : Prop) : Prop :=
  ∃ text, package.text? name = some text ∧ Xml.IsDocument text.toList ∧ (Xml.IsWellFormed text ↔ case)

private theorem holdsDocument_core (deck : Written) (seconds : Nat) :
    HoldsDocument (deck.package (momentText seconds)) Package.coreName
      (isAllowedText deck.sheet.title = true) := by
  refine ⟨_, text?_core deck _, Properties.corePart_grammar _ _, ?_⟩
  rw [Properties.isWellFormed_corePart, isAllowedText_momentText, eq_self, and_true]

private theorem holdsDocument_slide {deck : Deck} {written : Written} (made : deck.written? = some written)
    (created : String) {index : Nat} (inside : index < deck.slides.length) :
    HoldsDocument (written.package created) (slideName (1 + index)) (deck.slides[index].isAllowed = true) := by
  obtain ⟨text, own, found⟩ := getElem?_written made (List.getElem?_eq_getElem inside)
  exact ⟨text, text?_slide written _ found, Layout.isDocument_toXml? own, Layout.isWellFormed_toXml? own⟩

/-- There is a package for every document and all settings. The slides and the part with the title follow
the grammar. They are well formed exactly if the texts on the slide, the names of its fonts and the title
have none but allowed characters, which is so for a document and settings that have no others. -/
theorem parts_wellFormed_iff (settings : Settings) (document : String) (seconds : Nat) :
    let deck := ofDrafts settings (Draft.ofDocument document)
    ∃ package, deck.package? (momentText seconds) = some package ∧
    HoldsDocument package Package.coreName (isAllowedText deck.sheet.title = true) ∧
    (∀ index (inside : index < deck.slides.length),
      HoldsDocument package (slideName (1 + index)) (deck.slides[index].isAllowed = true)) ∧
    (settings.isAllowed = true → isAllowedText document = true →
      isAllowedText deck.sheet.title = true ∧ ∀ slide ∈ deck.slides, slide.isAllowed = true) := by
  intro deck
  obtain ⟨written, made⟩ := written?_ofDrafts settings (Draft.ofDocument document)
  have core := holdsDocument_core written seconds
  rw [(written?_eq_some_iff.mp made).1] at core
  exact ⟨written.package _, package?_eq_some_iff.mpr ⟨written, made, rfl⟩, core,
    fun _ => holdsDocument_slide made _,
    fun own allowed => ⟨isAllowed_title own allowed, isAllowed_slides own allowed⟩⟩

theorem parts_wellFormed_plain_document :
    ({} : Settings).isAllowed = true ∧ isAllowedText "## <a> & b" = true ∧
    ∃ package text, (ofDrafts {} (Draft.ofDocument "## <a> & b")).package? (momentText 0) = some package ∧
      package.text? (slideName 1) = some text ∧ Xml.IsWellFormed text := by
  have own : ({} : Settings).isAllowed = true := by decide
  have allowed : isAllowedText "## <a> & b" = true := by decide
  have one : (ofDrafts {} (Draft.ofDocument "## <a> & b")).slides.length = 1 := by
    rw [slides_ofDrafts, List.length_mapIdx]
    decide
  have inside : 0 < (ofDrafts {} (Draft.ofDocument "## <a> & b")).slides.length := by
    rw [one]
    exact Nat.one_pos
  obtain ⟨package, made, -, parts, harmless⟩ := parts_wellFormed_iff {} "## <a> & b" 0
  obtain ⟨text, found, -, formed⟩ := parts 0 inside
  exact ⟨own, allowed, package, text, made, found,
    formed.mpr ((harmless own allowed).2 _ (List.getElem_mem inside))⟩

/-- A control character of a heading gets into its slide, and into the title of the deck. -/
theorem control_character_spoils_parts :
    ∃ package, (ofDrafts {} (Draft.ofDocument "## a\x01b")).package? (momentText 0) = some package ∧
    ∀ name ∈ [slideName 1, Package.coreName],
      ∃ text, package.text? name = some text ∧ ¬Xml.IsWellFormed text := by
  have drafts : Draft.ofDocument "## a\x01b" = [{ title := "a\x01b" }] := by decide
  have slides : (ofDrafts {} (Draft.ofDocument "## a\x01b")).slides =
      [Design.slide {} { title := "a\x01b" } .content 1] := by
    rw [slides_ofDrafts, drafts]
    rfl
  have inside : 0 < (ofDrafts {} (Draft.ofDocument "## a\x01b")).slides.length := by
    rw [slides]
    exact Nat.one_pos
  obtain ⟨written, made⟩ := written?_ofDrafts {} (Draft.ofDocument "## a\x01b")
  refine ⟨written.package (momentText 0), package?_eq_some_iff.mpr ⟨written, made, rfl⟩, ?_⟩
  intro name known
  simp only [List.mem_cons, List.not_mem_nil, or_false] at known
  obtain rfl | rfl := known
  · obtain ⟨text, found, -, formed⟩ := holdsDocument_slide made (momentText 0) inside
    refine ⟨text, found, fun well => ?_⟩
    have allowed := formed.mp well
    simp only [slides, List.getElem_cons_zero] at allowed
    exact absurd allowed (by decide)
  · obtain ⟨text, found, -, formed⟩ := holdsDocument_core written 0
    refine ⟨text, found, fun well => ?_⟩
    have allowed := formed.mp well
    rw [(written?_eq_some_iff.mp made).1, title_ofDrafts, drafts] at allowed
    exact absurd allowed (by decide)

end Deck

end SlidePress
