import SlidePress.Proofs.DeckSlides
import SlidePress.Proofs.ManuscriptDrafts

/-! The title slide of a document. Only the first draft can be one, and it is one exactly if the
document begins with a title line and its first slide has no fence. -/

namespace SlidePress.Manuscript
open Slide

/-- The text of the title line that a document begins with. -/
def topTitle? (document : String) : Option Line :=
  (document.toList.splitOn '\n').head?.bind fun raw => (Passage.line raw).title?

/-- Whether a fence is opened before the first separator or heading outside all fences. -/
def opensFence (document : String) : Bool :=
  ((passages document).takeWhile (!·.bounds)).any (·.fence?.isSome)

private theorem headed_none : ∀ text ∈ (none : Option Line), text ≠ [] := by simp

/-- The first slide of a document, also if it is not shown. -/
def firstSlide (document : String) : Slide :=
  Slide.extend { isFirst := true, headed := headed_none } (passages document)

private theorem isFirst_of_mem_laterSlides {all : List Passage} {slide : Slide}
    (member : slide ∈ laterSlides all) : slide.isFirst = false := by
  induction all with
  | nil => cases member
  | cons passage rest ih =>
    rw [laterSlides] at member
    split at member
    · rcases List.mem_cons.mp member with rfl | later
      · rfl
      · exact ih later
    · exact ih member

private theorem kind_ne_title {slide : Slide} (later : slide.isFirst = false) (carried : Option Fence) :
    slide.kind carried ≠ .title := by
  rw [Slide.kind, later, Bool.false_and]
  split
  · simp
  · split <;> simp

/-- No draft below the first slide is a title slide. -/
theorem kind_ne_title_of_mem_drafts {carried : Option Fence} {all : List Slide}
    (later : ∀ slide ∈ all, slide.isFirst = false) {draft : Draft}
    (member : draft ∈ drafts carried all) : draft.kind ≠ .title := by
  induction all generalizing carried with
  | nil => cases member
  | cons slide rest ih =>
    rcases List.mem_append.mp member with own | below
    · rw [Draft.closed] at own
      split at own
      · cases own
      · rw [List.mem_singleton.mp own]
        exact kind_ne_title (later slide List.mem_cons_self) carried
    · exact ih (fun other inside => later other (List.mem_cons_of_mem _ inside)) below

/-- A title line begins no fence. -/
theorem title?_of_isFence {raw : Line} (opens : Block.isFence raw = true) :
    (Passage.line raw).title? = none := by
  obtain ⟨rest, front⟩ := Option.isSome_iff_exists.mp opens
  rw [Passage.title?, Passage.marked?, Text.after?_excludes front (by decide) (by decide)]
  rfl

/-- The title line that a document begins with is the first passage of its first slide. -/
theorem title?_firstSlide (document : String) :
    (firstSlide document).body.head?.bind Passage.title? = topTitle? document := by
  rw [firstSlide, Slide.extend, List.nil_append, passages, topTitle?]
  cases document.toList.splitOn '\n' with
  | nil => simp
  | cons raw rest =>
    rw [List.head?_cons, Option.bind_some]
    cases opens : Block.isFence raw with
    | true =>
      rw [Passage.ofLines, if_pos opens, List.takeWhile_cons_of_pos rfl, title?_of_isFence opens]
      rfl
    | false =>
      rw [Passage.ofLines_plain opens]
      cases bounds : (Passage.line raw).bounds with
      | true => simp [bounds, Passage.title?_of_bounds bounds]
      | false => simp [bounds]

/-- A document with a title line at its top has a first slide that begins with it. -/
theorem body_firstSlide {document : String} {text : Line} (found : topTitle? document = some text) :
    ∃ first rest, (firstSlide document).body = first :: rest ∧ first.title? = some text := by
  rw [← title?_firstSlide] at found
  obtain ⟨first, head, title⟩ := Option.bind_eq_some_iff.mp found
  obtain ⟨rest, body⟩ := List.head?_eq_some_iff.mp head
  exact ⟨first, rest, body, title⟩

private theorem title_firstSlide {document : String} {text : Line} (found : topTitle? document = some text) :
    (firstSlide document).title = text := by
  obtain ⟨first, rest, body, title⟩ := body_firstSlide found
  have unheaded : (firstSlide document).heading? = none := rfl
  simp [Slide.title, unheaded, body, title]

private theorem isSome_fence? (slide : Slide) : slide.fence?.isSome = slide.body.any (·.fence?.isSome) := by
  rw [Bool.eq_iff_iff, Slide.fence?, List.getLast?_isSome, Ne, List.filterMap_eq_nil_iff,
    List.any_eq_true]
  simp only [not_forall, Option.isSome_iff_ne_none, exists_prop]

private theorem kind_firstSlide {document : String} {text : Line} (found : topTitle? document = some text) :
    (firstSlide document).kind none = if opensFence document then .code else .title := by
  obtain ⟨first, rest, body, title⟩ := body_firstSlide found
  have unheaded : (firstSlide document).heading? = none := rfl
  have opens : opensFence document = (firstSlide document).body.any (·.fence?.isSome) := rfl
  have named : (firstSlide document).namedLast = !opensFence document := by
    rw [Slide.namedLast, unheaded, fromTitle, opens, body, List.dropWhile_cons_of_neg (by simp [title]),
      List.not_any_eq_all_not]
    simp
  have top : ((firstSlide document).isFirst &&
      ((firstSlide document).body.head?.bind Passage.title?).isSome) = true := by
    rw [title?_firstSlide, found]
    rfl
  rw [Slide.kind, named, if_pos top, marking?_of_unheaded unheaded, isSome_fence?, ← opens]
  cases opensFence document with
  | true => rfl
  | false => rfl

/-- Without a title line at the top no draft is a title slide. -/
theorem kind_firstSlide_of_untitled {document : String} (untitled : topTitle? document = none) :
    (firstSlide document).kind none ≠ .title := by
  rw [← title?_firstSlide] at untitled
  rw [Slide.kind, untitled]
  simp only [Option.isSome_none, Bool.and_false, Bool.false_eq_true, if_false]
  split
  · simp
  · split <;> simp

private theorem ofDocument_eq_firstSlide (document : String) :
    Draft.ofDocument document = ((firstSlide document).draft none).closed ++
      drafts (firstSlide document).remnant? (laterSlides (passages document)) :=
  ofDocument_eq_drafts document

private theorem kind_ne_title_below (document : String) (carried : Option Fence) :
    ∀ draft ∈ drafts carried (laterSlides (passages document)), draft.kind ≠ .title :=
  fun _ => kind_ne_title_of_mem_drafts fun _ => isFirst_of_mem_laterSlides

private theorem style_eq_title_iff (settings : Deck.Settings) (draft : Draft) (position : Nat) :
    settings.style draft position = .title ↔ draft.kind = .title ∧ position = 1 := by
  rw [Deck.Settings.style, Style.ofDraft]
  split
  next title => simp [title]
  next other =>
    simp only [other, iff_false]
    split
    · simp
    · split <;> simp

private theorem ofDocument_of_topTitle {document : String} {text : Line}
    (found : topTitle? document = some text) :
    Draft.ofDocument document = (firstSlide document).draft none ::
      drafts (firstSlide document).remnant? (laterSlides (passages document)) := by
  obtain ⟨first, -, -, title⟩ := body_firstSlide found
  have shown : (firstSlide document).isEmpty = false := by
    simp [Slide.isEmpty, title_firstSlide found, Passage.title?_ne_nil title]
  rw [ofDocument_eq_firstSlide, Draft.closed, isEmpty_draft, shown]
  rfl

private theorem kind_eq_title_iff {document : String} {index : Nat} {draft : Draft}
    (member : (Draft.ofDocument document)[index]? = some draft) :
    draft.kind = .title ↔
      index = 0 ∧ (topTitle? document).isSome = true ∧ opensFence document = false := by
  -- The first slide makes the first draft if there is a title line; if not, it may be empty and left out.
  have below := kind_ne_title_below document (firstSlide document).remnant?
  cases found : topTitle? document with
  | none =>
    have known := List.mem_of_getElem? member
    rw [ofDocument_eq_firstSlide, List.mem_append] at known
    have other : draft.kind ≠ .title := by
      rcases known with own | later
      · rw [Draft.closed] at own
        split at own
        · cases own
        · rw [List.mem_singleton.mp own]
          exact kind_firstSlide_of_untitled found
      · exact below draft later
    simp [other]
  | some text =>
    rw [ofDocument_of_topTitle found] at member
    cases index with
    | zero =>
      have same : (firstSlide document).draft none = draft := by simpa using member
      rw [← same, Slide.draft, kind_firstSlide found]
      cases opensFence document <;> simp
    | succ index =>
      have other := below draft (List.mem_of_getElem? member)
      simp [other]

/-- Only the first draft can be a title slide. It is one exactly if the document begins with a title
line, which names it in any case, and has no fence in its first slide. The same holds for the style
in which the slides of its deck are drawn. -/
theorem title_slide_iff_topTitle (document : String) :
    (∀ index draft, (Draft.ofDocument document)[index]? = some draft →
      (draft.kind = .title ↔
        index = 0 ∧ (topTitle? document).isSome = true ∧ opensFence document = false)) ∧
    (∀ text, topTitle? document = some text → ∃ first rest,
      Draft.ofDocument document = first :: rest ∧ first.title = String.ofList text ∧
        first.kind = if opensFence document then .code else .title) ∧
    ∀ settings : Deck.Settings,
      (Deck.ofDrafts settings (Draft.ofDocument document)).slides =
          (Draft.ofDocument document).mapIdx (fun index draft =>
            settings.design.slide draft (settings.style draft (index + 1)) (index + 1)) ∧
        ∀ index draft, (Draft.ofDocument document)[index]? = some draft →
          (settings.style draft (index + 1) = .title ↔
            index = 0 ∧ (topTitle? document).isSome = true ∧ opensFence document = false) := by
  refine ⟨fun index draft member => kind_eq_title_iff member, fun text found => ?_, fun settings => ?_⟩
  · refine ⟨_, _, ofDocument_of_topTitle found, ?_, kind_firstSlide found⟩
    rw [Slide.draft, title_firstSlide found]
  · refine ⟨Deck.slides_ofDrafts settings _, fun index draft member => ?_⟩
    rw [style_eq_title_iff, kind_eq_title_iff member, Nat.add_eq_right]
    exact and_iff_left_of_imp And.left

/-- A fence below the first heading leaves the title slide what it is. -/
theorem title_slide_above_fence :
    let document := " # Talk\nAnna\n## Run\n```sh\nls\n```"
    let talk : Draft := ⟨"Talk", "Anna\n", .title, none⟩
    (Draft.ofDocument document)[0]? = some talk ∧ topTitle? document = some "Talk".toList ∧
      (talk.kind = .title ↔
        0 = 0 ∧ (topTitle? document).isSome = true ∧ opensFence document = false) ∧
      (∃ first rest, Draft.ofDocument document = first :: rest ∧
        first.title = String.ofList "Talk".toList ∧
          first.kind = if opensFence document then .code else .title) ∧
      (({} : Deck.Settings).style talk (0 + 1) = .title ↔
        0 = 0 ∧ (topTitle? document).isSome = true ∧ opensFence document = false) := by
  intro document talk
  have first : (Draft.ofDocument document)[0]? = some talk := by decide +kernel
  have found : topTitle? document = some "Talk".toList := by decide +kernel
  have slides := title_slide_iff_topTitle document
  exact ⟨first, found, slides.1 0 talk first, slides.2.1 _ found, (slides.2.2 {}).2 0 talk first⟩

end SlidePress.Manuscript
