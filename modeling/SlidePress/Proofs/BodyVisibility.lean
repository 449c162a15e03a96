import SlidePress.Proofs.BodyLines
import SlidePress.Proofs.DeckSlides
import SlidePress.Proofs.DraftCode

/-! What can be seen of the lines on a slide of text. A line of stars around nothing becomes a paragraph in
which nothing can be seen, and so does the mark of an item with nothing behind it; no other line does. The
second kind of line does not come from the text of a document, whose lines are trimmed, but only from a
fence that a title line has made text of. -/

namespace SlidePress

namespace Text

/-- Nothing but what stands between the runs of a mark is left without them. -/
theorem allBlank_trimMatching {mark : Char} (visible : isBlank mark = false) {gap : List Char}
    (blank : allBlank gap = true) (left right : Nat) :
    allBlank (trimMatching mark (List.replicate left mark ++ gap ++ List.replicate right mark)) = true := by
  have run (count : Nat) : ∀ c ∈ List.replicate count mark, (c == mark) = true :=
    fun c member => beq_iff_eq.mpr (List.eq_of_mem_replicate member)
  rw [trimMatching, List.append_assoc, List.dropWhile_append_of_pos (run left)]
  cases gap with
  | nil =>
    rw [List.nil_append, List.dropWhile_eq_nil_iff.mpr (run right)]
    rfl
  | cons first gap =>
    have other : ¬ (first == mark) = true := by
      intro same
      obtain rfl := beq_iff_eq.mp same
      have hidden : isBlank first = true := List.all_eq_true.mp blank first List.mem_cons_self
      rw [visible] at hidden
      cases hidden
    rw [List.cons_append, List.dropWhile_cons_of_neg (p := (· == mark)) other, ← List.cons_append, List.reverse_append,
      List.reverse_replicate, List.dropWhile_append_of_pos (run right)]
    refine List.all_eq_true.mpr fun c member => List.all_eq_true.mp blank c ?_
    exact List.mem_reverse.mp ((List.dropWhile_sublist _).subset (List.mem_reverse.mp member))

end Text

namespace BodyLine

def IsBareItem (line : List Char) : Prop :=
  ∃ mark ∈ itemMarks, ∃ gap, Text.allBlank gap = true ∧ line = mark ++ gap

/-- Stars at both ends of a line with nothing to see between them. -/
def IsBareStars (line : List Char) : Prop :=
  IsStarred line ∧ ∃ left gap right, Text.allBlank gap = true ∧
    line = List.replicate left '*' ++ gap ++ List.replicate right '*'

variable {icons : List String} {line rest mark : List Char}

def visibleCount (text : List Char) : Nat := text.countP (!Text.isBlank ·)

private theorem visibleCount_eq_zero_iff {text : List Char} :
    visibleCount text = 0 ↔ Text.allBlank text = true := by
  simp [visibleCount, List.countP_eq_zero, Text.allBlank]

private theorem visibleCount_item (known : mark ∈ itemMarks) (rest : List Char) :
    visibleCount (mark ++ rest) = 1 + visibleCount rest := by
  rw [visibleCount, List.countP_append]
  rcases item_cases known with rfl | rfl | rfl <;> rfl

private theorem isBareItem_iff (known : mark ∈ itemMarks) (rest : List Char) :
    IsBareItem (mark ++ rest) ↔ Text.allBlank rest = true := by
  constructor
  · rintro ⟨other, known', gap, blank, same⟩
    have seen := congrArg visibleCount same
    rw [visibleCount_item known, visibleCount_item known', visibleCount_eq_zero_iff.mpr blank] at seen
    exact visibleCount_eq_zero_iff.mp (by omega)
  · intro blank
    exact ⟨mark, known, rest, blank, rfl⟩

theorem IsBareItem.isItem (bare : IsBareItem line) : IsItem line := by
  obtain ⟨mark, known, gap, -, rfl⟩ := bare
  exact ⟨mark, known, gap, rfl⟩

/-- Behind the mark of an item something stands on a line without white space at its ends. -/
theorem not_isBareItem_of_trimmed (trimmed : Text.trim line = line) : ¬ IsBareItem line := by
  rintro ⟨mark, known, gap, blank, rfl⟩
  obtain ⟨front, sign, rfl, -, -⟩ := mark_split known
  have ended : Text.allBlank (' ' :: gap) = true := by
    rw [Text.allBlank, List.all_cons, Bool.and_eq_true]
    exact ⟨by decide, blank⟩
  have shorter := congrArg List.length trimmed
  have whole : front ++ [sign, ' '] ++ gap = (front ++ [sign]) ++ ' ' :: gap := by simp
  rw [whole, Text.trim_append_blank ended] at shorter
  have short := Text.length_trim_le (front ++ [sign])
  rw [shorter, List.length_append, List.length_cons] at short
  omega

private theorem not_isStarred_of_isItem (item : IsItem line) : ¬ IsStarred line := by
  obtain ⟨mark, known, rest, rfl⟩ := item
  rintro ⟨front, -⟩
  rcases item_cases known with rfl | rfl | rfl <;> simp [stars, dash, dot, indentedDash] at front

private theorem isBareStars_iff (both : IsStarred line) :
    IsBareStars line ↔ Text.allBlank (Text.trimMatching '*' line) = true := by
  constructor
  · rintro ⟨-, left, gap, right, blank, rfl⟩
    exact Text.allBlank_trimMatching (by decide) blank left right
  · intro blank
    obtain ⟨left, right, split⟩ := Text.trimMatching_split '*' line
    exact ⟨both, left, _, right, blank, split⟩

/-- Nothing can be seen of a line exactly if it is a bare mark or bare stars. -/
theorem isBlankString_text_iff (visible : Text.allBlank line = false) {kind : BodyLine}
    (read : ofLine icons line = some kind) :
    Text.isBlankString kind.text = true ↔ IsBareItem line ∨ IsBareStars line := by
  by_cases marked : IsItem line
  · obtain ⟨mark, known, rest, rfl⟩ := marked
    obtain ⟨kind', read', text, -⟩ := ofLine_item icons known rest
    obtain rfl : kind = kind' := by simpa [read] using read'
    have unstarred : ¬ IsBareStars (mark ++ rest) :=
      fun bare => not_isStarred_of_isItem ⟨mark, known, rest, rfl⟩ bare.1
    rw [text, Text.isBlankString, String.toList_ofList, ← (Text.strips_trim rest).allBlank_eq,
      isBareItem_iff known, or_iff_left unstarred]
  · have unmarked : ¬ IsBareItem line := fun bare => marked bare.isItem
    rw [or_iff_right unmarked]
    by_cases both : IsStarred line
    · rw [ofLine_starred icons marked both, Option.some.injEq] at read
      rw [← read, BodyLine.text, Text.isBlankString, String.toList_ofList, isBareStars_iff both]
    · obtain ⟨kind', read', text, -⟩ := ofLine_whole icons marked both visible
      obtain rfl : kind = kind' := by simpa [read] using read'
      rw [text, Text.isBlankString, String.toList_ofList, visible]
      exact iff_of_false (by simp) fun bare => both bare.1

end BodyLine

/-- The paragraphs between the banner of a slide of text and its foot. -/
def Layout.body (layout : Layout) : List Paragraph := layout.shapes.tail.dropLast.flatMap (·.paragraphs)

namespace Design

private theorem body_slide (design : Design) (draft : Draft) (page : Nat) :
    (design.slide draft .content page).body = design.bodyParagraphs draft.content := by
  rw [slide_eq, if_pos (by decide), unnumbered, Layout.body, Layout.push, contentSlide, List.cons_append,
    List.tail_cons, List.dropLast_concat]
  cases design.bodyParagraphs draft.content with
  | nil => rfl
  | cons first rest => simp [Shape.textBox]

variable {design : Design}

private theorem bodyParagraphs_visible_iff (seen : ∀ icon ∈ design.statusIcons, Text.isBlankString icon = false)
    (content : String) :
    (∀ paragraph ∈ design.bodyParagraphs content, Text.isBlankString paragraph.text = false) ↔
      ∀ line ∈ Text.visibleLines (Text.trim content.toList),
        ¬ BodyLine.IsBareItem line ∧ ¬ BodyLine.IsBareStars line := by
  refine (Text.forall_mem_iff_of_forall₂ (forall₂_bodyParagraphs seen content) ?_).symm
  rintro line paragraph ⟨visible, kind, read, rfl⟩
  rw [BodyLine.text_paragraph, ← Bool.not_eq_true, BodyLine.isBlankString_text_iff visible read, not_or]

end Design

namespace Manuscript

/-- Lines outside fences are lines of the document. -/
theorem mem_of_line_mem_ofLines {raw : Line} {raws : List Line}
    (member : Passage.line raw ∈ Passage.ofLines raws) : raw ∈ raws := by
  induction raws using lines_induction with
  | nil => simp at member
  | plain first rest outside ih =>
    rw [Passage.ofLines_plain outside] at member
    rcases List.mem_cons.mp member with same | later
    · obtain rfl := Passage.line.inj same
      exact List.mem_cons_self
    · exact List.mem_cons_of_mem first (ih later)
  | unclosed opening code opens free => simp [Passage.ofLines_unclosed opens free] at member
  | fence opening code closing rest opens free closes ih =>
    rw [Passage.ofLines_fence opens free closes] at member
    rcases List.mem_cons.mp member with same | later
    · cases same
    · exact List.mem_cons_of_mem opening (List.mem_append_right code (List.mem_cons_of_mem closing (ih later)))

/-- A text line of a slide is a line of its document without the white space around it. -/
theorem line_of_slide {document : String} {slide : Slide} (member : slide ∈ slides document) {line : Line}
    (inside : line ∈ slide.lines) :
    '\n' ∉ line ∧ Text.allBlank line = false ∧ Text.trim line = line := by
  obtain ⟨passage, below, text⟩ := List.mem_filterMap.mp inside
  have known : passage ∈ slide.body := by
    have named : passage ∈ slide.unnamed := (List.rtakeWhile_suffix _ _).subset below
    rw [Slide.unnamed] at named
    split at named
    · exact named
    · exact List.mem_of_mem_eraseP named
  cases passage with
  | fence block => cases text
  | line raw =>
    rw [Passage.text?] at text
    split at text
    next => cases text
    next visible =>
      obtain rfl := Option.some.inj text
      have cut : raw ∈ document.toList.splitOn '\n' :=
        mem_of_line_mem_ofLines (mem_passages_of_mem_slides member _ known)
      rw [← Text.pieces_eq_splitOn] at cut
      refine ⟨fun feed => Text.notMem_of_mem_pieces cut (Text.trim_subset raw feed), ?_, Text.trim_trim raw⟩
      rw [← Bool.not_eq_true, ← Text.trim_eq_nil_iff, Text.trim_trim, Text.trim_eq_nil_iff]
      exact visible

/-- Without a fence the lines of a slide's content are its text lines. -/
theorem visibleLines_trim_content {document : String} {slide : Slide} (member : slide ∈ slides document)
    (unfenced : slide.fence? = none) : Text.visibleLines (Text.trim slide.content) = slide.lines := by
  have facts (line : Line) (inside : line ∈ slide.lines) := line_of_slide member inside
  have whole : slide.content = slide.lines.flatMap (· ++ ['\n']) := by
    rw [Slide.content, unfenced]
    rfl
  have lines : Text.visibleLines slide.content = slide.lines := by
    rw [whole]
    exact Text.visibleLines_flatMap (fun line inside => (facts line inside).1)
      fun line inside => (facts line inside).2.1
  have stripped := Text.visibleLines_trim slide.content
  rw [lines] at stripped
  have trimmed : ∀ line ∈ slide.lines, Text.trim line = line := fun line inside => (facts line inside).2.2
  have same := ((List.forall₂_and_left _ _).mpr ⟨trimmed, stripped⟩).imp
    fun _ _ both => both.2.eq_of_trimmed both.1
  exact List.forall₂_eq_eq_eq ▸ same.flip

end Manuscript

namespace Deck

/-- On a slide of text something can be seen of every line exactly if no line of its body is the bare mark of
an item or bare stars. On a slide without a fence only stars matter, since no text line is a bare mark. -/
theorem body_visible_iff (document : String) (settings : Settings)
    (seen : ∀ icon ∈ settings.design.statusIcons, Text.isBlankString icon = false) {index : Nat} {draft : Draft}
    (known : (Draft.ofDocument document)[index]? = some draft)
    (styled : settings.style draft (index + 1) = .content) :
    ∃ layout slide, (ofDrafts settings (Draft.ofDocument document)).slides[index]? = some layout ∧
      (Manuscript.shownSlides document)[index]? = some slide ∧
      ((∀ paragraph ∈ layout.body, Text.isBlankString paragraph.text = false) ↔
        ∀ line ∈ Text.visibleLines (Text.trim draft.content.toList),
          ¬ BodyLine.IsBareItem line ∧ ¬ BodyLine.IsBareStars line) ∧
      (slide.fence? = none →
        ((∀ paragraph ∈ layout.body, Text.isBlankString paragraph.text = false) ↔
          ∀ line ∈ slide.lines, ¬ BodyLine.IsBareStars line)) := by
  have pairs : List.Forall₂
      (fun slide draft => slide ∈ Manuscript.slides document ∧ draft.content = String.ofList slide.content)
      (Manuscript.shownSlides document) (Draft.ofDocument document) :=
    Manuscript.forall₂_ofDocument document fun _ member _ _ => ⟨member, rfl⟩
  obtain ⟨bound, rfl⟩ := List.getElem?_eq_some_iff.mp known
  have bound' : index < (Manuscript.shownSlides document).length := pairs.length_eq ▸ bound
  obtain ⟨member, content⟩ := pairs.get bound' bound
  simp only [List.get_eq_getElem] at member content
  refine ⟨_, _, getElem?_slides_ofDrafts settings known, List.getElem?_eq_getElem bound', ?_, ?_⟩
  · rw [styled, Design.body_slide]
    exact Design.bodyParagraphs_visible_iff seen _
  · intro unfenced
    rw [styled, Design.body_slide, Design.bodyParagraphs_visible_iff seen, content, String.toList_ofList,
      Manuscript.visibleLines_trim_content member unfenced]
    refine forall₂_congr fun line inside => and_iff_right ?_
    exact BodyLine.not_isBareItem_of_trimmed (Manuscript.line_of_slide member inside).2.2

/-- The stars around a space are not seen, and the mark behind the text of an item is. -/
theorem body_visible_iff_item_above_stars :
    let document := "## a\n- one -\n\n ** **\n---\n## b"
    let draft : Draft := ⟨"a", "- one -\n** **\n", .content, none⟩
    let settings : Settings := {}
    (∀ icon ∈ settings.design.statusIcons, Text.isBlankString icon = false) ∧
      (Draft.ofDocument document)[0]? = some draft ∧ settings.style draft (0 + 1) = .content ∧
      ∃ layout slide, (ofDrafts settings (Draft.ofDocument document)).slides[0]? = some layout ∧
        (Manuscript.shownSlides document)[0]? = some slide ∧ slide.fence? = none ∧
        ((∀ paragraph ∈ layout.body, Text.isBlankString paragraph.text = false) ↔
          ∀ line ∈ slide.lines, ¬ BodyLine.IsBareStars line) ∧
        BodyLine.IsBareStars "** **".toList ∧ "** **".toList ∈ slide.lines := by
  intro document draft settings
  have seen : ∀ icon ∈ settings.design.statusIcons, Text.isBlankString icon = false :=
    Design.isBlankString_usualIcons
  have known : (Draft.ofDocument document)[0]? = some draft := by decide +kernel
  have styled : settings.style draft (0 + 1) = .content := by decide +kernel
  obtain ⟨layout, slide, drawn, shown, -, visible⟩ := body_visible_iff document settings seen known styled
  have facts : ∀ slide ∈ (Manuscript.shownSlides document)[0]?,
      slide.fence? = none ∧ "** **".toList ∈ slide.lines := by decide +kernel
  obtain ⟨unfenced, inside⟩ := facts slide shown
  have bare : BodyLine.IsBareStars "** **".toList :=
    ⟨⟨⟨" **".toList, rfl⟩, "** ".toList, rfl⟩, 2, [' '], 2, by decide, rfl⟩
  exact ⟨seen, known, styled, layout, slide, drawn, shown, unfenced, visible unfenced, bare, inside⟩

/-- Of a line of two stars nothing is left on the slide. -/
theorem lone_stars_show_nothing : ¬ ∀ (document : String) (settings : Settings),
    settings.design.statusIcons = ({} : Design).statusIcons → ∀ index draft,
    (Draft.ofDocument document)[index]? = some draft → settings.style draft (index + 1) = .content →
    ∀ layout, (ofDrafts settings (Draft.ofDocument document)).slides[index]? = some layout →
      ∀ paragraph ∈ layout.body, Text.isBlankString paragraph.text = false := by
  intro every
  have known : (Draft.ofDocument "## h\n**")[0]? = some ⟨"h", "**\n", .content, none⟩ := by decide +kernel
  have styled : ({} : Settings).style ⟨"h", "**\n", .content, none⟩ 1 = .content := by decide +kernel
  have visible := every _ {} rfl 0 _ known styled _ (getElem?_slides_ofDrafts {} known)
  rw [styled, Design.body_slide] at visible
  revert visible
  decide +kernel

end Deck

end SlidePress
