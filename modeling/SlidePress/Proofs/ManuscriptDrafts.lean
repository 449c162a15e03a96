import Mathlib.Data.List.Forall2
import SlidePress.Proofs.ManuscriptSlides

/-! The drafts of a document are those of its slides. The draft at hand while the blocks are read is
the draft of the slide as far as it has been read, so reading one more passage and adding it to the
slide come to the same. -/

namespace SlidePress.Manuscript
open Slide

/-- The drafts of slides; `carried` is what the slide before the first of them left behind. -/
def drafts (carried : Option Fence) : List Slide → List Draft
  | [] => []
  | slide :: rest => (slide.draft carried).closed ++ drafts slide.remnant? rest

/-- One step of the reading: a passage that ends no slide is added to the one at hand. -/
theorem ofBlocks_push (slide : Slide) (carried : Option Fence) {passage : Passage}
    (inside : passage.bounds = false) (rest : List Block) :
    Draft.ofBlocks (slide.draft carried)
        (passage.block (slide.isFirst && slide.body.isEmpty) :: rest) =
      Draft.ofBlocks ((slide.push passage).draft carried) rest := by
  cases passage with
  | fence block =>
    rw [draft_push_fence, Passage.block, Draft.ofBlocks, Text.joined_eq_intercalate]
    rfl
  | line raw =>
    obtain ⟨plain, other⟩ := Bool.or_eq_false_iff.mp inside
    have unheaded : (Passage.line raw).heading? = none := by simpa using other
    rw [Passage.block_of_line plain, unheaded]
    cases titled : (Passage.line raw).title? with
    | none =>
      rw [draft_push_text (Or.inl titled)]
      cases (Passage.line raw).text? with
      | none => rfl
      | some text => rfl
    | some text =>
      rw [Draft.ofBlocks, isEmpty_title_draft]
      by_cases unnamed : slide.title = []
      · rw [if_pos (by simp [unnamed]), draft_push_title titled unnamed]
      · rw [if_neg (by simpa using unnamed), draft_push_text (Or.inr unnamed),
          Passage.text?_of_title titled, Option.elim_some]

private theorem ofBlocks_separates (slide : Slide) (carried : Option Fence) {passage : Passage}
    (separates : passage.separates = true) (atTop : Bool) (rest : List Block) :
    Draft.ofBlocks (slide.draft carried) (passage.block atTop :: rest) =
      (slide.draft carried).closed ++ Draft.ofBlocks ((opened passage).draft slide.remnant?) rest := by
  rw [Passage.block_of_separates separates, Draft.ofBlocks, draft_opened,
    Passage.heading?_of_separates separates]
  rfl

private theorem ofBlocks_heading (slide : Slide) (carried : Option Fence) {passage : Passage} {text : Line}
    (found : passage.heading? = some text) (atTop : Bool) (rest : List Block) :
    Draft.ofBlocks (slide.draft carried) (passage.block atTop :: rest) =
      (slide.draft carried).closed ++ Draft.ofBlocks ((opened passage).draft slide.remnant?) rest := by
  rw [Passage.block_of_heading found, Draft.ofBlocks, Draft.closed, isEmpty_draft, draft_opened, found,
    remnant?]
  cases empty : slide.isEmpty with
  | false => rfl
  | true =>
    rw [draft_of_isEmpty empty]
    rfl

/-- The drafts read from a slide at hand on are those of that slide and of the later ones. -/
theorem ofBlocks_blocks (slide : Slide) (carried : Option Fence) (passages : List Passage) :
    Draft.ofBlocks (slide.draft carried) (blocks (slide.isFirst && slide.body.isEmpty) passages) =
      drafts carried (slide.extend passages :: laterSlides passages) := by
  induction passages generalizing slide carried with
  | nil => simp [blocks, Draft.ofBlocks, drafts, extend, laterSlides]
  | cons passage rest ih =>
    rw [blocks]
    cases bounds : passage.bounds with
    | false =>
      have more := ih (slide.push passage) carried
      have grown : (slide.push passage).extend rest = slide.extend (passage :: rest) := by
        simp [extend, push, bounds]
      have deeper : ((slide.push passage).isFirst && (slide.push passage).body.isEmpty) = false := by
        simp [push]
      rw [deeper, grown] at more
      rw [ofBlocks_push slide carried bounds, more, laterSlides, bounds]
      rfl
    | true =>
      have whole : slide.extend (passage :: rest) = slide := by simp [extend, bounds]
      have below := ih (opened passage) slide.remnant?
      rw [laterSlides, if_pos bounds, whole, drafts, ← below]
      rcases Bool.or_eq_true_iff.mp bounds with separates | headed
      · exact ofBlocks_separates slide carried separates _ _
      · obtain ⟨text, found⟩ := Option.isSome_iff_exists.mp headed
        exact ofBlocks_heading slide carried found _ _

theorem ofDocument_eq_drafts (document : String) :
    Draft.ofDocument document = drafts none (slides document) := by
  rw [Draft.ofDocument, ofDocument_eq_blocks]
  exact ofBlocks_blocks { isFirst := true } none (passages document)

theorem drafts_append (carried : Option Fence) (front back : List Slide) :
    drafts carried (front ++ back) =
      drafts carried front ++ drafts (front.getLast?.elim carried Slide.remnant?) back := by
  induction front generalizing carried with
  | nil => rfl
  | cons slide rest ih =>
    rw [List.cons_append, drafts, drafts, ih, List.append_assoc]
    cases rest with
    | nil => rfl
    | cons next rest =>
      rw [List.getLast?_cons_cons]
      cases found : (next :: rest).getLast? with
      | none => simp at found
      | some last => rfl

/-- A slide becomes one draft if it is shown, and none otherwise. What holds of its draft, whatever
fence was carried to it, holds all along. -/
theorem forall₂_drafts {holds : Slide → Draft → Prop} (carried : Option Fence) (all : List Slide)
    (each : ∀ slide ∈ all, ∀ fence, fence = carried ∨ fence ∈ all.map Slide.remnant? →
      holds slide (slide.draft fence)) :
    List.Forall₂ holds (all.filter (!·.isEmpty)) (drafts carried all) := by
  induction all generalizing carried with
  | nil => exact .nil
  | cons slide rest ih =>
    have later := ih slide.remnant? fun other member fence source => by
      apply each other (List.mem_cons_of_mem _ member) fence
      right
      rcases source with rfl | known
      · exact List.mem_cons_self
      · exact List.mem_cons_of_mem _ known
    rw [drafts, Draft.closed, isEmpty_draft]
    cases shown : slide.isEmpty with
    | true => simpa [shown] using later
    | false =>
      rw [List.filter_cons_of_pos (by simp [shown])]
      exact .cons (each slide List.mem_cons_self carried (Or.inl rfl)) later

theorem forall₂_ofDocument {holds : Slide → Draft → Prop} (document : String)
    (each : ∀ slide ∈ slides document, ∀ fence,
      fence = none ∨ fence ∈ (slides document).map Slide.remnant? → holds slide (slide.draft fence)) :
    List.Forall₂ holds (shownSlides document) (Draft.ofDocument document) := by
  rw [ofDocument_eq_drafts]
  exact forall₂_drafts none (slides document) each

/-- The titles and contents of drafts are those of the slides that are shown. -/
theorem titles_and_contents (document : String) :
    (Draft.ofDocument document).map (fun draft => (draft.title, draft.content)) =
      (shownSlides document).map fun slide => (String.ofList slide.title, String.ofList slide.content) := by
  rw [← List.forall₂_eq_eq_eq, List.forall₂_map_left_iff, List.forall₂_map_right_iff]
  apply List.Forall₂.flip
  exact forall₂_ofDocument document fun _ _ _ _ => rfl

example : (shownSlides "# Talk\nAnna\n---\n## Run\nfirst\n```sh\nls\n```\nlast").map
    (fun slide => (String.ofList slide.title, String.ofList slide.content)) =
      [("Talk", "Anna\n"), ("Run", "lslast\n")] := by decide +kernel

end SlidePress.Manuscript
