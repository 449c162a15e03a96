import Mathlib.Data.List.Basic
import SlidePress.Deck.Building
import SlidePress.Proofs.DeckPackage

/-! The slides of a deck follow its drafts one by one, each at its own position. The footer is the only
place for the page: it stands last on slides of text and of code, and nowhere else. All that is drawn has
a size and a space of a few points. -/

namespace SlidePress

namespace Style

theorem hasFooter_of_mem {style : Style} (footed : style ∈ [content, code]) : style.hasFooter = true := by
  revert footed
  cases style <;> decide

theorem not_hasFooter_of_mem {style : Style} (bare : style ∈ [title, divider]) :
    ¬ style.hasFooter = true := by
  revert bare
  cases style <;> decide

end Style

namespace Design

def IsFooter (design : Design) (shape : Shape) : Prop :=
  ∃ page, shape = design.footer page

/-- A slide without its footer. -/
def unnumbered (design : Design) (draft : Draft) : Style → Layout
  | .title => design.titleSlide draft
  | .divider => design.dividerSlide draft
  | .content => design.contentSlide draft
  | .code => design.codeSlide draft

variable {design : Design} {draft : Draft} {style : Style} {page : Nat}

theorem slide_eq (design : Design) (draft : Draft) (style : Style) (page : Nat) :
    design.slide draft style page =
      if style.hasFooter then (design.unnumbered draft style).push (design.footer page)
      else design.unnumbered draft style := by
  cases style <;> rfl

private theorem text_footer (design : Design) (page : Nat) :
    (design.footer page).text = design.footerLabel page := by
  simp [footer, Shape.textBox, Shape.text]

/-- The sizes and the spaces of all that is drawn, in points. Above the footer only the name of the language
is as small as the footer, and it is bold. -/
structure IsDrawn (paragraph : Paragraph) : Prop where
  size : paragraph.size ∈ [60, 54, 36, 32, 24, 22, 20, 18, 16] ∨ paragraph.size = 12 ∧ paragraph.bold = true
  space : paragraph.spaceBefore ∈ [none, some 6, some 8, some 12]

private theorem isDrawn_bodyParagraphs {content : String} {paragraph : Paragraph}
    (member : paragraph ∈ design.bodyParagraphs content) : IsDrawn paragraph := by
  obtain ⟨line, -, made⟩ := List.mem_filterMap.mp member
  obtain ⟨kind, -, rfl⟩ := Option.map_eq_some_iff.mp made
  cases kind <;> exact ⟨.inl (by simp [BodyLine.paragraph]), by simp [BodyLine.paragraph]⟩

private theorem isDrawn_unnumbered {shape : Shape} (inside : shape ∈ (design.unnumbered draft style).shapes)
    {paragraph : Paragraph} (member : paragraph ∈ shape.paragraphs) : IsDrawn paragraph := by
  cases style with
  | title =>
    rcases List.mem_append.mp inside with heading | details
    · rcases List.mem_cons.mp heading with rfl | subtitle
      · obtain rfl := List.mem_singleton.mp member
        exact ⟨.inl (by simp), by simp⟩
      · obtain rfl := List.mem_singleton.mp subtitle
        obtain rfl := List.mem_singleton.mp member
        exact ⟨.inl (by simp), by simp⟩
    · split at details
      · cases details
      · obtain rfl := List.mem_singleton.mp details
        obtain ⟨line, -, rfl⟩ := List.mem_map.mp member
        exact ⟨.inl (by simp), by simp⟩
  | divider =>
    obtain rfl := List.mem_singleton.mp inside
    obtain rfl := List.mem_singleton.mp member
    exact ⟨.inl (by simp), by simp⟩
  | content =>
    rcases List.mem_cons.mp inside with rfl | below
    · obtain rfl := List.mem_singleton.mp member
      exact ⟨.inl (by simp), by simp⟩
    · split at below
      · cases below
      · obtain rfl := List.mem_singleton.mp below
        exact isDrawn_bodyParagraphs member
  | code =>
    rcases List.mem_cons.mp inside with rfl | below
    · obtain rfl := List.mem_singleton.mp member
      exact ⟨.inl (by simp), by simp⟩
    · rcases List.mem_cons.mp below with rfl | label
      · obtain ⟨line, -, rfl⟩ := List.mem_map.mp member
        exact ⟨.inl (by simp), by simp⟩
      · split at label
        · cases label
        · obtain rfl := List.mem_singleton.mp label
          obtain rfl := List.mem_singleton.mp member
          exact ⟨.inr ⟨rfl, rfl⟩, by simp⟩

theorem IsDrawn.fits {paragraph : Paragraph} (drawn : IsDrawn paragraph) : paragraph.Fits := by
  have sizes : ∀ size ∈ ([60, 54, 36, 32, 24, 22, 20, 18, 16, 12] : List UInt32), size.toNat ≤ 42949672 := by
    simp
  have spaces : ∀ space ∈ ([none, some 6, some 8, some 12] : List (Option UInt32)),
      ∀ points ∈ space, points.toNat ≤ 42949672 := by simp
  refine ⟨sizes _ ?_, spaces _ drawn.space⟩
  rcases drawn.size with large | ⟨small, -⟩
  · exact List.mem_append_left [12] large
  · rw [small]
    decide

private theorem fits_slide (design : Design) (draft : Draft) (style : Style) (page : Nat) :
    (design.slide draft style page).Fits := by
  intro shape inside paragraph member
  rw [slide_eq] at inside
  have above (own : shape ∈ (design.unnumbered draft style).shapes) : paragraph.Fits :=
    (isDrawn_unnumbered own member).fits
  split at inside
  · rcases List.mem_append.mp inside with own | foot
    · exact above own
    · obtain rfl := List.mem_singleton.mp foot
      obtain rfl := List.mem_singleton.mp member
      have size : (12 : UInt32).toNat ≤ 42949672 := by decide
      exact ⟨size, fun points given => by cases given⟩
  · exact above inside

private theorem not_isFooter_of_unnumbered {shape : Shape}
    (inside : shape ∈ (design.unnumbered draft style).shapes) : ¬ design.IsFooter shape := by
  rintro ⟨page, rfl⟩
  rcases (isDrawn_unnumbered inside (List.mem_singleton.mpr rfl)).size with large | ⟨-, bold⟩
  · have size : (12 : UInt32) ∉ [60, 54, 36, 32, 24, 22, 20, 18, 16] := by decide
    exact size large
  · cases bold

end Design

namespace Deck

/-- As long as the position is the number of the next page, every slide is drawn for its own. -/
theorem slides_addDrafts (settings : Settings) {position : Nat} {deck : Deck}
    (next : position = deck.slideCount + 1) (drafts : List Draft) :
    (addDrafts settings position deck drafts).slides =
      deck.slides ++ drafts.mapIdx fun index draft =>
        settings.design.slide draft (settings.style draft (position + index)) (position + index) := by
  induction drafts generalizing position deck with
  | nil => simp [addDrafts]
  | cons draft drafts ih =>
    have grown (slide : Layout) : position + 1 = (deck.add slide).slideCount + 1 := by
      simp [add, slideCount, next]
    rw [addDrafts, ih (grown _), List.mapIdx_cons, ← next]
    simp [add, Nat.add_assoc, Nat.add_comm 1]

theorem slides_ofDrafts (settings : Settings) (drafts : List Draft) :
    (ofDrafts settings drafts).slides = drafts.mapIdx fun index draft =>
      settings.design.slide draft (settings.style draft (index + 1)) (index + 1) := by
  have drawn (deck : Deck) (empty : deck.slides = []) :
      (addDrafts settings 1 deck drafts).slides = drafts.mapIdx fun index draft =>
        settings.design.slide draft (settings.style draft (index + 1)) (index + 1) := by
    have next : 1 = deck.slideCount + 1 := by rw [slideCount, empty, List.length_nil]
    rw [slides_addDrafts settings next, empty, List.nil_append]
    simp only [Nat.add_comm 1]
  rw [ofDrafts]
  split
  · exact drawn _ rfl
  · exact drawn _ rfl

private theorem fits_slides_ofDrafts (settings : Settings) (drafts : List Draft) :
    ∀ slide ∈ (ofDrafts settings drafts).slides, slide.Fits := by
  rw [slides_ofDrafts]
  intro slide member
  obtain ⟨index, -, rfl⟩ := List.mem_mapIdx.mp member
  exact Design.fits_slide _ _ _ _

/-- The deck of a document always has texts for its slides. -/
theorem written?_ofDrafts (settings : Settings) (drafts : List Draft) :
    ∃ written, (ofDrafts settings drafts).written? = some written :=
  Option.isSome_iff_exists.mp (isSome_written?_iff.mpr (fits_slides_ofDrafts settings drafts))

theorem package?_ofDrafts (settings : Settings) (drafts : List Draft) (created : String) :
    ∃ package, (ofDrafts settings drafts).package? created = some package := by
  obtain ⟨written, made⟩ := written?_ofDrafts settings drafts
  exact ⟨_, package?_eq_some_iff.mpr ⟨written, made, rfl⟩⟩

theorem getElem?_slides_ofDrafts (settings : Settings) {drafts : List Draft} {index : Nat} {draft : Draft}
    (known : drafts[index]? = some draft) : (ofDrafts settings drafts).slides[index]? =
      some (settings.design.slide draft (settings.style draft (index + 1)) (index + 1)) := by
  rw [slides_ofDrafts, List.getElem?_mapIdx, known, Option.map_some]

theorem slides_append (settings : Settings) (drafts more : List Draft) :
    (ofDrafts settings (drafts ++ more)).slides =
      (ofDrafts settings drafts).slides ++ more.mapIdx fun index draft =>
        settings.design.slide draft (settings.style draft (drafts.length + index + 1))
          (drafts.length + index + 1) := by
  rw [slides_ofDrafts, slides_ofDrafts, List.mapIdx_append]
  simp only [Nat.add_comm drafts.length]

private theorem slides_set (settings : Settings) (drafts : List Draft) (index : Nat) (draft : Draft) :
    (ofDrafts settings (drafts.set index draft)).slides =
      (ofDrafts settings drafts).slides.set index
        (settings.design.slide draft (settings.style draft (index + 1)) (index + 1)) := by
  rw [slides_ofDrafts, slides_ofDrafts, List.mapIdx_set]

/-- Every draft has its own slide, drawn for its position among all drafts; the position is also the page
that stands at the foot of slides of text and of code. So later drafts change nothing in front of
them, and a draft in place of another one changes nothing but its own slide. -/
theorem slide_at_position (settings : Settings) (drafts : List Draft) :
    (ofDrafts settings drafts).slides.length = drafts.length ∧
    (∀ index draft, drafts[index]? = some draft → ∃ slide,
      (ofDrafts settings drafts).slides[index]? = some slide ∧
      slide = settings.design.slide draft (settings.style draft (index + 1)) (index + 1) ∧
      (settings.style draft (index + 1) ∈ [.content, .code] → ∃ above foot,
        slide.shapes = above ++ [foot] ∧ foot = settings.design.footer (index + 1) ∧
          foot.text = settings.design.footerLabel (index + 1) ∧
          ∀ shape ∈ above, ¬ settings.design.IsFooter shape) ∧
      (settings.style draft (index + 1) ∈ [.title, .divider] →
        ∀ shape ∈ slide.shapes, ¬ settings.design.IsFooter shape)) ∧
    (∀ more, (ofDrafts settings drafts).slides <+: (ofDrafts settings (drafts ++ more)).slides) ∧
    ∀ index draft other, index ≠ other →
      (ofDrafts settings (drafts.set index draft)).slides[other]? =
        (ofDrafts settings drafts).slides[other]? := by
  refine ⟨?_, fun index draft known => ?_, fun more => ?_, fun index draft other apart => ?_⟩
  · rw [slides_ofDrafts, List.length_mapIdx]
  · generalize drawn : settings.style draft (index + 1) = style
    refine ⟨settings.design.slide draft style (index + 1), ?_, rfl, fun footed => ?_, fun bare => ?_⟩
    · rw [slides_ofDrafts, List.getElem?_mapIdx, known, Option.map_some, drawn]
    · refine ⟨(settings.design.unnumbered draft style).shapes, settings.design.footer (index + 1),
        ?_, rfl, Design.text_footer _ _, fun shape => Design.not_isFooter_of_unnumbered⟩
      rw [Design.slide_eq, if_pos (Style.hasFooter_of_mem footed), Layout.push]
    · rw [Design.slide_eq, if_neg (Style.not_hasFooter_of_mem bare)]
      exact fun shape => Design.not_isFooter_of_unnumbered
  · exact ⟨_, (slides_append settings drafts more).symm⟩
  · rw [slides_set, List.getElem?_set_ne apart]

/-- The title slide and the divider have no footer, and they count for the pages of the slides of code
behind them. -/
theorem slide_at_position_behind_divider :
    let drafts : List Draft := [⟨"Talk", "", .title, none⟩, ⟨"Questions", "", .content, none⟩,
      ⟨"Run", "ls", .code, some "sh"⟩]
    let settings : Settings := {}
    drafts[2]? = some ⟨"Run", "ls", .code, some "sh"⟩ ∧
      settings.style ⟨"Run", "ls", .code, some "sh"⟩ 3 ∈ [.content, .code] ∧
      settings.style ⟨"Questions", "", .content, none⟩ 2 ∈ [.title, .divider] ∧
      (∃ slide above foot, (ofDrafts settings drafts).slides[2]? = some slide ∧
        slide.shapes = above ++ [foot] ∧ foot.text = "Slide 3") ∧
      ∃ slide, (ofDrafts settings drafts).slides[1]? = some slide ∧
        ∀ shape ∈ slide.shapes, ¬ settings.design.IsFooter shape := by
  intro drafts settings
  have code : settings.style ⟨"Run", "ls", .code, some "sh"⟩ 3 ∈ [.content, .code] := by decide +kernel
  have divider : settings.style ⟨"Questions", "", .content, none⟩ 2 ∈ [.title, .divider] := by
    decide +kernel
  obtain ⟨slide, found, -, footed, -⟩ := (slide_at_position settings drafts).2.1 2 _ rfl
  obtain ⟨above, foot, shapes, -, text, -⟩ := footed code
  obtain ⟨other, known, -, -, bare⟩ := (slide_at_position settings drafts).2.1 1 _ rfl
  exact ⟨rfl, code, divider, ⟨slide, above, foot, found, shapes, text⟩, other, known, bare divider⟩

end Deck

end SlidePress
