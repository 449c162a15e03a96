import SlidePress.Draft.Reading
import SlidePress.Proofs.ManuscriptPassages

/-! The draft of a slide. Title and content are told by the slide alone; kind and language also by
a fence left behind in front of its heading. Each kind of passage changes the draft in its own way
when it is added to the slide. -/

namespace SlidePress.Manuscript

namespace Slide

/-- The fence that decides over the kind of a slide and its language: its own last one or, under a
heading, the one that was `carried` there. -/
def marking? (carried : Option Fence) (slide : Slide) : Option Fence :=
  slide.fence?.or (if slide.heading?.isSome then carried else none)

/-- What is carried to the heading behind a slide: the fence of a slide that is not shown. -/
def remnant? (slide : Slide) : Option Fence := if slide.isEmpty then slide.fence? else none

def fromTitle (slide : Slide) : List Passage := slide.body.dropWhile (·.title?.isNone)

/-- Whether a title line names the slide and stands behind all its fences. -/
def namedLast (slide : Slide) : Bool :=
  slide.heading?.isNone && !slide.fromTitle.isEmpty && slide.fromTitle.all (·.fence?.isNone)

/-- Of the fences of a slide and the title line that names it, the last one decides over the kind. -/
def kind (carried : Option Fence) (slide : Slide) : Draft.Kind :=
  if slide.namedLast then
    if slide.isFirst && (slide.body.head?.bind Passage.title?).isSome then .title else .content
  else if (slide.marking? carried).isSome then .code else .content

def draft (carried : Option Fence) (slide : Slide) : Draft where
  title := String.ofList slide.title
  content := String.ofList slide.content
  kind := slide.kind carried
  language := (slide.marking? carried).map fun fence => String.ofList fence.language

def push (slide : Slide) (passage : Passage) : Slide :=
  { slide with body := slide.body ++ [passage] }

variable {slide : Slide} {passage : Passage} {raw text : Line}

private theorem title_eq_nil_iff :
    slide.title = [] ↔ slide.heading? = none ∧ ∀ passage ∈ slide.body, passage.title? = none := by
  cases found : slide.heading? with
  | some text =>
    have something : text ≠ [] := slide.headed text found
    simp [title, found, something]
  | none =>
    cases named : slide.body.findSome? Passage.title? with
    | none => simpa [title, found, named] using List.findSome?_eq_none_iff.mp named
    | some text =>
      obtain ⟨passage, member, same⟩ := List.exists_of_findSome?_eq_some named
      have something : text ≠ [] := Passage.title?_ne_nil same
      simp only [title, found, named, Option.none_or, Option.getD_some, something, false_iff]
      rintro ⟨-, untitled⟩
      rw [untitled passage member] at same
      cases same

theorem marking?_of_unheaded (unheaded : slide.heading? = none) (carried : Option Fence) :
    slide.marking? carried = slide.fence? := by
  simp [marking?, unheaded]

/-- A line that leaves the name of a slide without heading and title line is no title line. -/
theorem untitled_of_kept (unheaded : slide.heading? = none)
    (untitled : ∀ other ∈ slide.body, other.title? = none)
    (kept : passage.title? = none ∨ slide.title ≠ []) : passage.title? = none := by
  rcases kept with plain | named
  · exact plain
  · exact absurd (title_eq_nil_iff.mpr ⟨unheaded, untitled⟩) named

private theorem fence?_push : (slide.push passage).fence? = passage.fence?.or slide.fence? := by
  cases found : passage.fence? <;> simp [fence?, push, found]

private theorem marking?_push (carried : Option Fence) :
    (slide.push passage).marking? carried = passage.fence?.or (slide.marking? carried) := by
  rw [marking?, fence?_push, Option.or_assoc]
  rfl

private theorem fence?_push_line : (slide.push (.line raw)).fence? = slide.fence? := by
  rw [fence?_push, Passage.fence?_line, Option.none_or]

private theorem marking?_push_line (carried : Option Fence) :
    (slide.push (.line raw)).marking? carried = slide.marking? carried := by
  rw [marking?_push, Passage.fence?_line, Option.none_or]

/-- A title line names a slide that has no name yet. -/
theorem title_push_title (found : (Passage.line raw).title? = some text) (unnamed : slide.title = []) :
    (slide.push (.line raw)).title = text := by
  obtain ⟨unheaded, untitled⟩ := title_eq_nil_iff.mp unnamed
  have absent : slide.body.findSome? Passage.title? = none := List.findSome?_eq_none_iff.mpr untitled
  simp [title, push, unheaded, absent, found]

/-- Any other passage leaves the name as it is. -/
theorem title_push_text (kept : passage.title? = none ∨ slide.title ≠ []) :
    (slide.push passage).title = slide.title := by
  rcases kept with untitled | named
  · simp [title, push, untitled]
  · cases found : slide.heading? with
    | some text => simp [title, push, found]
    | none =>
      cases first : slide.body.findSome? Passage.title? with
      | some text => simp [title, push, found, first]
      | none => exact absurd (by simp [title, found, first]) named

private theorem unnamed_push_title (found : (Passage.line raw).title? = some text)
    (unnamed : slide.title = []) :
    (slide.push (.line raw)).unnamed = slide.unnamed := by
  obtain ⟨unheaded, untitled⟩ := title_eq_nil_iff.mp unnamed
  have absent : ∀ other ∈ slide.body, ¬ other.title?.isSome := fun other member => by
    simp [untitled other member]
  rw [Slide.unnamed, Slide.unnamed]
  simp only [push, unheaded, Option.isSome_none, Bool.false_eq_true, if_false]
  rw [List.eraseP_append_right _ absent, List.eraseP_of_forall_not absent]
  simp [found]

private theorem unnamed_push_text (kept : passage.title? = none ∨ slide.title ≠ []) :
    (slide.push passage).unnamed = slide.unnamed ++ [passage] := by
  cases opened : slide.heading? with
  | some text => simp [unnamed, push, opened]
  | none =>
    simp only [unnamed, push, opened, Option.isSome_none, Bool.false_eq_true, if_false]
    by_cases titled : ∃ other ∈ slide.body, other.title?.isSome = true
    · obtain ⟨other, member, found⟩ := titled
      exact List.eraseP_append_left (p := (·.title?.isSome)) found _ member
    · have absent : ∀ other ∈ slide.body, ¬ other.title?.isSome = true :=
        fun other member found => titled ⟨other, member, found⟩
      have untitled : passage.title? = none :=
        untitled_of_kept opened (fun other member => by simpa using absent other member) kept
      rw [List.eraseP_append_right _ absent, List.eraseP_of_forall_not absent]
      simp [untitled]

private theorem lines_push_fence (block : Fence) : (slide.push (.fence block)).lines = [] := by
  rw [lines, unnamed_push_text (Or.inl (Passage.title?_fence block)),
    List.rtakeWhile_concat_neg _ _ _ (by simp)]
  rfl

private theorem lines_push_title (found : (Passage.line raw).title? = some text) (unnamed : slide.title = []) :
    (slide.push (.line raw)).lines = slide.lines := by
  rw [lines, lines, unnamed_push_title found unnamed]

private theorem lines_push_text (kept : (Passage.line raw).title? = none ∨ slide.title ≠ []) :
    (slide.push (.line raw)).lines = slide.lines ++ (Passage.line raw).text?.toList := by
  rw [lines, lines, unnamed_push_text kept, List.rtakeWhile_concat_pos _ _ _ (by simp),
    List.filterMap_append]
  cases found : (Passage.line raw).text? <;> simp [found]

private theorem fromTitle_eq_nil_iff :
    slide.fromTitle = [] ↔ ∀ passage ∈ slide.body, passage.title? = none := by
  simp [fromTitle, List.dropWhile_eq_nil_iff]

private theorem fromTitle_push : (slide.push passage).fromTitle =
    if slide.fromTitle = [] then [passage].filter (·.title?.isSome)
    else slide.fromTitle ++ [passage] := by
  rw [fromTitle, push, List.dropWhile_append, fromTitle]
  cases found : passage.title? <;> simp [found]

private theorem namedLast_push_fence (block : Fence) : (slide.push (.fence block)).namedLast = false := by
  rw [namedLast, fromTitle_push]
  split <;> simp

private theorem namedLast_push_title (found : (Passage.line raw).title? = some text)
    (unnamed : slide.title = []) : (slide.push (.line raw)).namedLast = true := by
  obtain ⟨unheaded, untitled⟩ := title_eq_nil_iff.mp unnamed
  rw [namedLast, fromTitle_push, if_pos (fromTitle_eq_nil_iff.mpr untitled)]
  simp [push, unheaded, found]

private theorem namedLast_push_text (kept : (Passage.line raw).title? = none ∨ slide.title ≠ []) :
    (slide.push (.line raw)).namedLast = slide.namedLast := by
  rw [namedLast, fromTitle_push, namedLast, push]
  cases opened : slide.heading? with
  | some text => rfl
  | none =>
    split
    next start =>
      have untitled : (Passage.line raw).title? = none :=
        untitled_of_kept opened (fromTitle_eq_nil_iff.mp start) kept
      simp [start, untitled]
    next start => simp [List.isEmpty_eq_false_iff.mpr start]

/-- Only a title line at the very top of a document makes a title slide. -/
theorem kind_push_title (found : (Passage.line raw).title? = some text) (unnamed : slide.title = [])
    (carried : Option Fence) : (slide.push (.line raw)).kind carried =
      if slide.isFirst && slide.body.isEmpty then .title else .content := by
  obtain ⟨-, untitled⟩ := title_eq_nil_iff.mp unnamed
  rw [kind, if_pos (namedLast_push_title found unnamed), push]
  cases below : slide.body with
  | nil => simp [found]
  | cons first rest => simp [untitled first (by simp [below])]

private theorem kind_push_text (kept : (Passage.line raw).title? = none ∨ slide.title ≠ [])
    (carried : Option Fence) : (slide.push (.line raw)).kind carried = slide.kind carried := by
  rw [kind, kind, namedLast_push_text kept, marking?_push_line]
  cases last : slide.namedLast with
  | false => rfl
  | true =>
    -- The title line stands in the slide already, so the first passage stays the first.
    have titled : slide.body ≠ [] := by
      intro nothing
      simp [namedLast, fromTitle, nothing] at last
    rw [push, List.head?_append_of_ne_nil _ titled]

theorem draft_push_fence (block : Fence) (carried : Option Fence) :
    (slide.push (.fence block)).draft carried =
      { slide.draft carried with
        content := String.ofList block.text
        kind := .code
        language := some (String.ofList block.language) } := by
  have found : (slide.push (.fence block)).fence? = some block := by simp [fence?_push]
  have marking : (slide.push (.fence block)).marking? carried = some block := by simp [marking?_push]
  have title : (slide.push (.fence block)).title = slide.title :=
    title_push_text (Or.inl (Passage.title?_fence block))
  have content : (slide.push (.fence block)).content = block.text := by
    rw [Slide.content, found, lines_push_fence]
    exact List.append_nil _
  have kind : (slide.push (.fence block)).kind carried = .code := by
    rw [Slide.kind, namedLast_push_fence, marking]
    rfl
  rw [draft, title, content, kind, marking]
  rfl

theorem draft_push_title (found : (Passage.line raw).title? = some text) (unnamed : slide.title = [])
    (carried : Option Fence) : (slide.push (.line raw)).draft carried =
      { slide.draft carried with
        title := String.ofList text
        kind := if slide.isFirst && slide.body.isEmpty then .title else .content } := by
  have content : (slide.push (.line raw)).content = slide.content := by
    rw [Slide.content, Slide.content, fence?_push_line, lines_push_title found unnamed]
  rw [draft, title_push_title found unnamed, content, kind_push_title found unnamed,
    marking?_push_line]
  rfl

theorem draft_push_text (kept : (Passage.line raw).title? = none ∨ slide.title ≠ [])
    (carried : Option Fence) : (slide.push (.line raw)).draft carried =
      (Passage.line raw).text?.elim (slide.draft carried) (slide.draft carried).withLine := by
  have content : (slide.push (.line raw)).content =
      slide.content ++ (Passage.line raw).text?.toList.flatMap (· ++ ['\n']) := by
    rw [Slide.content, Slide.content, fence?_push_line, lines_push_text kept, List.flatMap_append,
      List.append_assoc]
  rw [draft, title_push_text kept, content, kind_push_text kept, marking?_push_line]
  cases found : (Passage.line raw).text? with
  | none => simp [draft]
  | some text => simp [draft, Draft.withLine, String.ofList_append]

theorem isEmpty_title_draft (carried : Option Fence) :
    (slide.draft carried).title.isEmpty = slide.title.isEmpty := Text.isEmpty_ofList slide.title

theorem isEmpty_draft (carried : Option Fence) : (slide.draft carried).isEmpty = slide.isEmpty := by
  rw [Draft.isEmpty, isEmpty, isEmpty_title_draft, draft, Text.isEmpty_ofList]

/-- A slide that is not shown has no heading, so nothing was carried to it. -/
theorem draft_of_isEmpty (empty : slide.isEmpty = true) (carried : Option Fence) :
    slide.draft carried =
      { kind := if slide.fence?.isSome then .code else .content
        language := slide.fence?.map fun fence => String.ofList fence.language } := by
  have nothing : slide.title = [] ∧ slide.content = [] := by simpa [isEmpty] using empty
  obtain ⟨unheaded, untitled⟩ := title_eq_nil_iff.mp nothing.1
  have last : slide.namedLast = false := by simp [namedLast, fromTitle_eq_nil_iff.mpr untitled]
  rw [draft, nothing.1, nothing.2, kind, last, marking?_of_unheaded unheaded]
  rfl

theorem draft_opened {passage : Passage} (carried : Option Fence) :
    (opened passage).draft carried =
      if passage.heading?.isSome then
        { title := String.ofList (passage.heading?.getD [])
          kind := if carried.isSome then .code else .content
          language := carried.map fun fence => String.ofList fence.language }
      else {} := by
  cases found : passage.heading? <;>
    simp [draft, opened, title, content, fence?, lines, unnamed, kind, namedLast, marking?, found]

end Slide

end SlidePress.Manuscript
