import SlidePress.Proofs.ManuscriptDrafts

/-! A heading starts a slide of its own. Titles and contents never depend on what stands above a
heading. Kind and language do in one case: an empty fence that made no slide above is carried to
the heading, and stays unless the slide of the heading has a fence itself. -/

namespace SlidePress.Manuscript
open Slide

/-! ### A line that ends a slide

If every fence above the line is closed, the slides of a document that is cut there are those above, the one
that begins at the line, and those of the text below without its first. -/

namespace Slide

theorem extend_append {passage : Passage} (bounds : passage.bounds = true) (slide : Slide)
    (front back : List Passage) : slide.extend (front ++ passage :: back) = slide.extend front := by
  have stop : (front ++ passage :: back).takeWhile (!·.bounds) = front.takeWhile (!·.bounds) := by
    induction front with
    | nil => simp [bounds]
    | cons first front ih =>
      cases ends : first.bounds with
      | true => simp [ends]
      | false => simp [ends, ih]
  rw [extend, stop, extend]

end Slide

theorem laterSlides_append {passage : Passage} (bounds : passage.bounds = true)
    (front back : List Passage) :
    laterSlides (front ++ passage :: back) =
      laterSlides front ++ (opened passage).extend back :: laterSlides back := by
  induction front with
  | nil => simp [laterSlides, bounds]
  | cons first front ih =>
    rw [List.cons_append, laterSlides, laterSlides, ih]
    split
    · rw [extend_append bounds, List.cons_append]
    · rfl

/-- The passages of a document around a line between two line feeds. -/
theorem passages_cut {above : String} (closed : fenceLines above % 2 = 0) {raw : Line}
    (whole : '\n' ∉ raw) (plain : Block.isFence raw = false) (below : String) :
    Passage.ofLines ((above.toList ++ '\n' :: (raw ++ '\n' :: below.toList)).splitOn '\n') =
      passages above ++ .line raw :: passages below := by
  rw [List.splitOn_append_cons_self, List.splitOn_append_cons_self_of_not_mem whole,
    Passage.ofLines_append closed, Passage.ofLines_plain plain]
  rfl

private theorem passages_top {raw : Line} (whole : '\n' ∉ raw) (plain : Block.isFence raw = false)
    (below : String) :
    Passage.ofLines ((raw ++ '\n' :: below.toList).splitOn '\n') = .line raw :: passages below := by
  rw [List.splitOn_append_cons_self_of_not_mem whole, Passage.ofLines_plain plain]
  rfl

/-- The slide that begins at a passage and goes on below, with those behind it. -/
def slidesFrom (passage : Passage) (below : String) : List Slide :=
  (opened passage).extend (passages below) :: laterSlides (passages below)

private theorem slides_of_cut {document above below : String} {passage : Passage}
    (bounds : passage.bounds = true) (cut : passages document = passages above ++ passage :: passages below) :
    slides document = slides above ++ slidesFrom passage below := by
  rw [slides, cut, extend_append bounds, laterSlides_append bounds, slides, slidesFrom,
    List.cons_append]

private theorem ofDocument_of_cut {document above below : String} {passage : Passage}
    (bounds : passage.bounds = true) (cut : passages document = passages above ++ passage :: passages below) :
    Draft.ofDocument document =
      Draft.ofDocument above ++
        drafts ((slides above).getLast?.bind Slide.remnant?) (slidesFrom passage below) := by
  rw [ofDocument_eq_drafts, slides_of_cut bounds cut, drafts_append, ofDocument_eq_drafts]
  cases (slides above).getLast? <;> rfl

/-- A document that begins with a passage that ends a slide has nothing in front of it. -/
theorem ofDocument_of_top {document below : String} {passage : Passage} (bounds : passage.bounds = true)
    (top : passages document = passage :: passages below) :
    Draft.ofDocument document = drafts none (slidesFrom passage below) := by
  have first : Slide.extend { isFirst := true } (passage :: passages below) = { isFirst := true } := by
    simp [extend, bounds]
  rw [ofDocument_eq_drafts, slides, top, first, laterSlides, if_pos bounds]
  rfl

/-! ### Headings -/

def headingLine (heading : String) : Line := Block.headingMark ++ heading.toList

private theorem heading?_headingLine {heading : String} (visible : Text.isBlankString heading = false) :
    (Passage.line (headingLine heading)).heading? =
      some (Text.trim (Text.trimRight heading.toList)) := by
  have kept : Text.trimRight heading.toList ≠ [] := by
    rw [Ne, Text.trimRight_eq_nil_iff]
    exact Bool.eq_false_iff.mp visible
  have trimmed : Text.trim (headingLine heading) = Block.headingMark ++ Text.trimRight heading.toList :=
    Text.trim_append (by decide) (by decide) kept
  rw [Passage.heading?, Passage.marked?, trimmed, Text.after?_eq_some_iff.mpr rfl, Option.map_some]

private theorem not_mem_headingLine {heading : String} (whole : '\n' ∉ heading.toList) :
    '\n' ∉ headingLine heading := by
  simpa [headingLine, Block.headingMark] using whole

/-- A heading is no fence line. -/
theorem isFence_of_heading {raw text : Line} (found : (Passage.line raw).heading? = some text) :
    Block.isFence raw = false := by
  obtain ⟨rest, front, rfl⟩ := Option.map_eq_some_iff.mp found
  rw [Block.isFence, Text.startsWith, Text.after?_excludes front (by decide) (by decide)]
  rfl

/-- A slide with a fence of its own does not show the one that is carried to it. -/
theorem draft_of_fence {slide : Slide} (own : slide.fence?.isSome) (carried : Option Fence) :
    slide.draft carried = slide.draft none := by
  obtain ⟨fence, found⟩ := Option.isSome_iff_exists.mp own
  simp [draft, kind, marking?, found]

private theorem draft_of_carried {slide : Slide} (headed : slide.heading?.isSome) (plain : slide.fence? = none)
    (fence : Fence) :
    slide.draft (some fence) =
      { slide.draft none with kind := .code, language := some (String.ofList fence.language) } := by
  obtain ⟨text, found⟩ := Option.isSome_iff_exists.mp headed
  simp [draft, kind, marking?, namedLast, found, plain]

private theorem language_draft_none {slide : Slide} (plain : slide.fence? = none) :
    (slide.draft none).language = none := by
  simp [draft, marking?, plain]

/-- The fence that shows on the slide of a heading though it stands above: the empty one of a slide
that is not shown, if the slide of the heading, of which `below` is the text, has none. -/
def strayFence (above below : String) : Option Fence :=
  if ((slides below).head?.bind Slide.fence?).isSome then none
  else (slides above).getLast?.bind Slide.remnant?

/-- The first draft below a heading changes with the stray fence, the others do not. -/
theorem drafts_slidesFrom {passage : Passage} {text : Line} (found : passage.heading? = some text)
    (above below : String) :
    ∃ first rest, drafts none (slidesFrom passage below) = first :: rest ∧
      drafts ((slides above).getLast?.bind Slide.remnant?) (slidesFrom passage below) =
        (strayFence above below).elim first (fun fence =>
          { first with kind := .code, language := some (String.ofList fence.language) }) :: rest ∧
      (strayFence above below ≠ none → first.language = none) := by
  let slide := (opened passage).extend (passages below)
  have headed : slide.heading?.isSome := by simp [slide, extend, opened, found]
  have shown : slide.isEmpty = false := by
    have named : slide.title = text := by simp [slide, extend, opened, title, found]
    simp [Slide.isEmpty, named, Passage.heading?_ne_nil found]
  have own : (slides below).head?.bind Slide.fence? = slide.fence? := rfl
  have started (carried : Option Fence) : drafts carried (slidesFrom passage below) =
      slide.draft carried :: drafts slide.remnant? (laterSlides (passages below)) := by
    rw [slidesFrom, drafts, Draft.closed, isEmpty_draft, shown]
    rfl
  refine ⟨_, _, started none, ?_⟩
  rw [started, strayFence, own]
  cases plain : slide.fence? with
  | some fence =>
    refine ⟨?_, fun stray => absurd rfl stray⟩
    rw [draft_of_fence (by simp [plain])]
    rfl
  | none =>
    refine ⟨?_, fun _ => language_draft_none plain⟩
    cases (slides above).getLast?.bind Slide.remnant? with
    | none => rfl
    | some fence =>
      rw [draft_of_carried headed plain]
      rfl

private theorem passages_heading_cut {above heading : String} (closed : fenceLines above % 2 = 0)
    (whole : '\n' ∉ heading.toList) (visible : Text.isBlankString heading = false) (below : String) :
    passages (above ++ "\n## " ++ heading ++ "\n" ++ below) =
      passages above ++ .line (headingLine heading) :: passages below := by
  have plain := isFence_of_heading (heading?_headingLine visible)
  rw [← passages_cut closed (not_mem_headingLine whole) plain below, passages]
  simp [headingLine, Block.headingMark]

private theorem passages_heading_top {heading : String} (whole : '\n' ∉ heading.toList)
    (visible : Text.isBlankString heading = false) (below : String) :
    passages ("## " ++ heading ++ "\n" ++ below) =
      .line (headingLine heading) :: passages below := by
  have plain := isFence_of_heading (heading?_headingLine visible)
  rw [← passages_top (not_mem_headingLine whole) plain below, passages]
  simp [headingLine, Block.headingMark]

/-- A heading starts afresh unless a stray fence reaches it; then its slide is one of code in the
language of that fence, and all else is as if the text began at the heading. -/
theorem heading_starts_afresh_iff (above heading below : String) (closed : fenceLines above % 2 = 0)
    (whole : '\n' ∉ heading.toList) (visible : Text.isBlankString heading = false) :
    (Draft.ofDocument (above ++ "\n## " ++ heading ++ "\n" ++ below) =
        Draft.ofDocument above ++ Draft.ofDocument ("## " ++ heading ++ "\n" ++ below) ↔
      strayFence above below = none) ∧
    ∃ first rest, Draft.ofDocument ("## " ++ heading ++ "\n" ++ below) = first :: rest ∧
      Draft.ofDocument (above ++ "\n## " ++ heading ++ "\n" ++ below) =
        Draft.ofDocument above ++ (strayFence above below).elim first (fun fence =>
          { first with kind := .code, language := some (String.ofList fence.language) }) :: rest := by
  have found := heading?_headingLine visible
  have bounds : (Passage.line (headingLine heading)).bounds = true := by simp [Passage.bounds, found]
  obtain ⟨first, rest, plain, marked, bare⟩ := drafts_slidesFrom found above below
  rw [ofDocument_of_cut bounds (passages_heading_cut closed whole visible below),
    ofDocument_of_top bounds (passages_heading_top whole visible below), plain, marked]
  refine ⟨?_, first, rest, rfl, rfl⟩
  rw [List.append_cancel_left_eq]
  cases stray : strayFence above below with
  | none => simp
  | some fence =>
    have silent : first.language = none := bare (by simp [stray])
    simp only [Option.elim_some, List.cons.injEq, and_true, reduceCtorEq, iff_false]
    intro same
    have language := congrArg Draft.language same
    rw [silent] at language
    cases language

/-- The title line of the slide above keeps its empty fence from the heading. -/
theorem heading_starts_afresh_below_titled_fence :
    fenceLines "# Talk\n```sh\n```" % 2 = 0 ∧ '\n' ∉ "Plan".toList ∧
      Text.isBlankString "Plan" = false ∧
      Draft.ofDocument ("# Talk\n```sh\n```" ++ "\n## " ++ "Plan" ++ "\n" ++ "more") =
        Draft.ofDocument "# Talk\n```sh\n```" ++ Draft.ofDocument ("## " ++ "Plan" ++ "\n" ++ "more") := by
  have closed : fenceLines "# Talk\n```sh\n```" % 2 = 0 := by decide +kernel
  have whole : '\n' ∉ "Plan".toList := by decide +kernel
  have visible : Text.isBlankString "Plan" = false := by decide +kernel
  have kept : strayFence "# Talk\n```sh\n```" "more" = none := by decide +kernel
  exact ⟨closed, whole, visible,
    (heading_starts_afresh_iff _ "Plan" "more" closed whole visible).1.mpr kept⟩

/-- A fence without lines makes no slide, and yet the heading below it becomes a slide of code. -/
theorem empty_fence_reaches_heading :
    ¬ ∀ above heading below : String, fenceLines above % 2 = 0 → '\n' ∉ heading.toList →
      Text.isBlankString heading = false →
      Draft.ofDocument (above ++ "\n## " ++ heading ++ "\n" ++ below) =
        Draft.ofDocument above ++ Draft.ofDocument ("## " ++ heading ++ "\n" ++ below) := by
  intro afresh
  have same := afresh "```x\n```" "h" "" (by decide +kernel) (by decide +kernel) (by decide +kernel)
  revert same
  decide +kernel

end SlidePress.Manuscript
