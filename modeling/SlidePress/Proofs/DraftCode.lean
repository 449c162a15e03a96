import SlidePress.Proofs.ManuscriptDrafts

/-! What a fence makes of a slide. A slide of code always has a language, and its content is the
text of a fence as it stands, with the lines of text behind the fence put at its end. A language
is kept when a title line behind the fence makes the slide one of text again. -/

namespace SlidePress.Manuscript
open Slide

/-- Whether a title line behind all fences of a slide takes their kind from it. -/
def Slide.retitled (slide : Slide) : Bool := slide.namedLast && slide.fence?.isSome

private theorem isSome_language_draft (carried : Option Fence) (slide : Slide) :
    (slide.draft carried).language.isSome = (slide.marking? carried).isSome :=
  Option.isSome_map

private theorem kind_draft_eq_code_iff (carried : Option Fence) (slide : Slide) :
    (slide.draft carried).kind = .code ↔
      slide.namedLast = false ∧ (slide.marking? carried).isSome = true := by
  rw [draft, Slide.kind]
  cases slide.namedLast with
  | false => simp [Option.isSome_iff_ne_none]
  | true =>
    simp only [if_true, reduceCtorEq, false_and, iff_false]
    split <;> simp

/-- A slide whose title line decides over its kind has no heading, so no fence is carried to it. -/
theorem marking?_of_namedLast {slide : Slide} (last : slide.namedLast = true) (carried : Option Fence) :
    slide.marking? carried = slide.fence? := by
  simp only [namedLast, Bool.and_eq_true, Option.isNone_iff_eq_none] at last
  exact marking?_of_unheaded last.1.1 carried

/-- A slide of code has a language, and only a slide that a title line takes its kind from has a
language and is none of code. -/
theorem language_iff_code_iff_not_retitled (document : String) :
    List.Forall₂
      (fun slide draft => (draft.kind = .code → draft.language.isSome) ∧
        ((draft.language.isSome ↔ draft.kind = .code) ↔ slide.retitled = false))
      (shownSlides document) (Draft.ofDocument document) := by
  refine forall₂_ofDocument document fun slide _ carried _ => ?_
  rw [isSome_language_draft, kind_draft_eq_code_iff, retitled]
  cases last : slide.namedLast with
  | false => simp
  | true => simp [marking?_of_namedLast last]

/-- A title line behind a fence leaves a language on a slide of text. -/
theorem title_line_keeps_language :
    ¬ ∀ document : String, ∀ draft ∈ Draft.ofDocument document,
      draft.language.isSome ↔ draft.kind = .code := by
  intro every
  have same := every "```x\na\n```\n# T"
  revert same
  decide +kernel

private theorem mem_passages_of_extend {slide : Slide} {front : List Passage}
    (own : ∀ passage ∈ slide.body, passage ∈ front) (below : List Passage)
    (inside : ∀ passage ∈ below, passage ∈ front) :
    ∀ passage ∈ (slide.extend below).body, passage ∈ front := by
  intro passage member
  rcases List.mem_append.mp member with member | member
  · exact own passage member
  · exact inside passage (List.takeWhile_subset _ member)

/-- The passages of a slide are passages of its document. -/
theorem mem_of_mem_laterSlides {slide : Slide} {below : List Passage} (member : slide ∈ laterSlides below) :
    ∀ passage ∈ slide.body, passage ∈ below := by
  induction below with
  | nil => cases member
  | cons first rest ih =>
    have deeper : slide ∈ laterSlides rest → ∀ passage ∈ slide.body, passage ∈ first :: rest :=
      fun later passage inside => List.mem_cons_of_mem _ (ih later passage inside)
    rw [laterSlides] at member
    split at member
    · rcases List.mem_cons.mp member with rfl | later
      · exact mem_passages_of_extend (by simp [opened]) rest fun _ inside => List.mem_cons_of_mem _ inside
      · exact deeper later
    · exact deeper member

theorem mem_passages_of_mem_slides {document : String} {slide : Slide} (member : slide ∈ slides document) :
    ∀ passage ∈ slide.body, passage ∈ passages document := by
  rcases List.mem_cons.mp member with rfl | later
  · exact mem_passages_of_extend (by simp) _ fun _ inside => inside
  · exact mem_of_mem_laterSlides later

private theorem mem_fences {document : String} {slide : Slide} (member : slide ∈ slides document)
    {fence : Fence}
    (found : slide.fence? = some fence) : fence ∈ fences document := by
  obtain ⟨passage, known, same⟩ := List.mem_filterMap.mp (List.mem_of_getLast? found)
  exact List.mem_filterMap.mpr ⟨passage, mem_passages_of_mem_slides member passage known, same⟩

/-- A fence that a slide leaves behind has no text. -/
theorem text_of_remnant {slide : Slide} {fence : Fence} (behind : slide.remnant? = some fence) :
    slide.fence? = some fence ∧ fence.text = [] := by
  rw [remnant?] at behind
  split at behind
  next empty =>
    have nothing : slide.content = [] := by
      simp only [Slide.isEmpty, Bool.and_eq_true, List.isEmpty_iff] at empty
      exact empty.2
    rw [content, behind] at nothing
    exact ⟨behind, (List.append_eq_nil_iff.mp nothing).1⟩
  next => cases behind

/-- The fence that marks a slide is one of its document. If it is not the slide's own, it was left
behind by a slide that is not shown and has no text. -/
theorem mem_fences_of_marking {document : String} {slide : Slide} (member : slide ∈ slides document)
    {carried : Option Fence} (source : carried = none ∨ carried ∈ (slides document).map Slide.remnant?)
    {fence : Fence} (marking : slide.marking? carried = some fence) :
    fence ∈ fences document ∧ (∀ own ∈ slide.fence?, own = fence) ∧
      slide.fence?.elim [] Fence.text = fence.text := by
  cases own : slide.fence? with
  | some last =>
    have same : last = fence := by simpa [marking?, own] using marking
    subst same
    exact ⟨mem_fences member own, by simp, rfl⟩
  | none =>
    have carries : carried = some fence := by
      rw [marking?, own, Option.none_or] at marking
      split at marking
      · exact marking
      · cases marking
    rcases source with rfl | behind
    · cases carries
    · obtain ⟨other, present, same⟩ := List.mem_map.mp behind
      obtain ⟨last, silent⟩ := text_of_remnant (same.trans carries)
      exact ⟨mem_fences present last, by simp, silent.symm⟩

private theorem flatMap_lines_eq_nil_iff {lines : List Line} : lines.flatMap (· ++ ['\n']) =
    [] ↔ lines = [] := by
  cases lines <;> simp

/-- The content of a slide of code is the text of a fence, its last one if it has any, with the
lines behind that fence at the end; so it is exactly that text if and only if there are none. -/
theorem code_verbatim_iff_no_lines_behind (document : String) :
    List.Forall₂
      (fun slide draft => draft.kind = .code → ∃ fence ∈ fences document,
        (∀ own ∈ slide.fence?, own = fence) ∧
        draft.language = some (String.ofList fence.language) ∧
        draft.content = String.ofList (fence.text ++ slide.lines.flatMap (· ++ ['\n'])) ∧
        (draft.content = String.ofList fence.text ↔ slide.lines = []))
      (shownSlides document) (Draft.ofDocument document) := by
  refine forall₂_ofDocument document fun slide member carried source code => ?_
  obtain ⟨-, marked⟩ := (kind_draft_eq_code_iff carried slide).mp code
  obtain ⟨fence, marking⟩ := Option.isSome_iff_exists.mp marked
  obtain ⟨known, own, text⟩ := mem_fences_of_marking member source marking
  have language : (slide.draft carried).language = some (String.ofList fence.language) := by
    rw [draft, marking]
    rfl
  have whole : (slide.draft carried).content =
      String.ofList (fence.text ++ slide.lines.flatMap (· ++ ['\n'])) := by
    rw [draft, content, text]
  refine ⟨fence, known, own, language, whole, ?_⟩
  rw [whole, String.ofList_inj, List.append_right_eq_self, flatMap_lines_eq_nil_iff]

/-- A line of text behind a fence is put directly behind the code. -/
theorem line_behind_fence_joins_code :
    ¬ ∀ document : String, ∀ draft ∈ Draft.ofDocument document, draft.kind = .code →
      ∃ fence ∈ fences document, draft.content = String.ofList fence.text := by
  intro every
  have same := every "```\na\n```\nb"
  revert same
  decide +kernel

end SlidePress.Manuscript
