import SlidePress.Draft.Reading
import SlidePress.Proofs.TextCharacters

/-! Drafts are made of their document. Apart from line feeds no character is in one of them that is not
in the document. -/

namespace SlidePress

namespace Block

def texts : Block → List Line
  | .separator | .blank => []
  | .title text line _ => [text, line]
  | .heading text => [text]
  | .fence language code => language :: code
  | .body line => [line]

private theorem texts_ofLine {line text : Line} {atTop : Bool} (member : text ∈ (ofLine line atTop).texts) :
    text ⊆ line := by
  have marked {mark rest : Line} (found : Text.after? mark line = some rest) : Text.trim rest ⊆ line :=
    List.Subset.trans (Text.trim_subset rest) (Text.after?_subset found)
  rw [ofLine] at member
  split at member
  · cases member
  · split at member
    next rest found =>
      simp only [texts, List.mem_cons, List.not_mem_nil, or_false] at member
      obtain rfl | rfl := member
      · exact marked found
      · exact List.Subset.refl text
    next =>
      split at member
      next rest found =>
        obtain rfl := List.mem_singleton.mp member
        exact marked found
      next =>
        split at member
        · cases member
        · obtain rfl := List.mem_singleton.mp member
          exact List.Subset.refl text

private theorem fenceLanguage_subset (line : Line) : fenceLanguage line ⊆ line := by
  rw [fenceLanguage]
  split
  next rest found =>
    exact List.Subset.trans (Text.trim_subset rest)
      (List.Subset.trans (Text.after?_subset found) (Text.trim_subset line))
  next => exact List.nil_subset line

variable {source : List Char}

def Within (block : Block) (source : List Char) : Prop := ∀ text ∈ block.texts, text ⊆ source

private theorem within_fence {language : Line} {seen : List Line} (name : language ⊆ source)
    (code : ∀ line ∈ seen, line ⊆ source) : (fence language seen.reverse).Within source := by
  intro text member
  obtain rfl | inside := List.mem_cons.mp member
  · exact name
  · exact code text (List.mem_reverse.mp inside)

mutual

private theorem within_ofLines {atTop : Bool} {lines : List Line} (inside : ∀ line ∈ lines, line ⊆ source) :
    ∀ block ∈ ofLines atTop lines, block.Within source := by
  match lines with
  | [] => exact fun block none => nomatch none
  | line :: rest =>
    rw [List.forall_mem_cons] at inside
    rw [ofLines]
    split
    · exact within_ofFence (List.Subset.trans (fenceLanguage_subset line) inside.1)
        (fun other none => nomatch none) inside.2
    · rw [List.forall_mem_cons]
      refine ⟨fun text member => ?_, within_ofLines inside.2⟩
      exact List.Subset.trans (texts_ofLine member) (List.Subset.trans (Text.trim_subset line) inside.1)

private theorem within_ofFence {language : Line} {seen lines : List Line} (name : language ⊆ source)
    (code : ∀ line ∈ seen, line ⊆ source) (inside : ∀ line ∈ lines, line ⊆ source) :
    ∀ block ∈ ofFence language seen lines, block.Within source := by
  match lines with
  | [] =>
    rw [ofFence, List.forall_mem_singleton]
    exact within_fence name code
  | line :: rest =>
    rw [List.forall_mem_cons] at inside
    rw [ofFence]
    split
    · rw [List.forall_mem_cons]
      exact ⟨within_fence name code, within_ofLines inside.2⟩
    · exact within_ofFence name (List.forall_mem_cons.mpr ⟨inside.1, code⟩) inside.2

end

theorem within_ofDocument (document : String) :
    ∀ block ∈ ofDocument document, block.Within document.toList :=
  within_ofLines fun _ => Text.pieces_subset

end Block

namespace Draft
variable {source : List Char}

structure Within (draft : Draft) (source : List Char) : Prop where
  title : draft.title.toList ⊆ source
  content : draft.content.toList ⊆ source
  language : draft.languageName.toList ⊆ source

theorem Within.withLine {draft : Draft} (made : draft.Within source) {line : Line}
    (inside : line ++ ['\n'] ⊆ source) : (draft.withLine line).Within source := by
  refine ⟨made.title, ?_, made.language⟩
  rw [Draft.withLine, String.toList_append, String.toList_ofList]
  exact List.append_subset.mpr ⟨made.content, inside⟩

private theorem within_new {title : Line} (inside : title ⊆ source) :
    ({ title := String.ofList title } : Draft).Within source := by
  refine ⟨?_, List.nil_subset source, List.nil_subset source⟩
  rwa [String.toList_ofList]

private theorem within_ofBlocks {pending : Draft} (made : pending.Within source) (feed : '\n' ∈ source)
    {blocks : List Block} (inside : ∀ block ∈ blocks, block.Within source) :
    ∀ draft ∈ ofBlocks pending blocks, draft.Within source := by
  have closed {draft : Draft} (made : draft.Within source) : ∀ item ∈ draft.closed, item.Within source := by
    rw [Draft.closed]
    split
    · exact fun item none => nomatch none
    · exact List.forall_mem_singleton.mpr made
  have lined {line : Line} (own : line ⊆ source) : line ++ ['\n'] ⊆ source :=
    List.append_subset.mpr ⟨own, List.cons_subset.mpr ⟨feed, List.nil_subset source⟩⟩
  induction blocks generalizing pending with
  | nil => exact closed made
  | cons block rest ih =>
    rw [List.forall_mem_cons] at inside
    obtain ⟨own, later⟩ := inside
    cases block with
    | separator =>
      rw [ofBlocks, List.forall_mem_append]
      exact ⟨closed made, ih (within_new (List.nil_subset source)) later⟩
    | title text line atTop =>
      rw [ofBlocks]
      split
      · have named := own text List.mem_cons_self
        refine ih ⟨?_, made.content, made.language⟩ later
        rwa [String.toList_ofList]
      · exact ih (made.withLine (lined (own line (List.mem_cons_of_mem text List.mem_cons_self)))) later
    | heading text =>
      have named := own text List.mem_cons_self
      rw [ofBlocks]
      split
      · refine ih ⟨?_, made.content, made.language⟩ later
        rwa [String.toList_ofList]
      · exact List.forall_mem_cons.mpr ⟨made, ih (within_new named) later⟩
    | fence language code =>
      have name := own language List.mem_cons_self
      have text : Text.joined '\n' code ⊆ '\n' :: source := Text.joined_subset fun line member =>
        own line (List.mem_cons_of_mem language member)
      refine ih ⟨made.title, ?_, ?_⟩ later
      · rw [String.toList_ofList]
        exact List.Subset.trans text (List.cons_subset.mpr ⟨feed, List.Subset.refl source⟩)
      · rwa [languageName, Option.getD_some, String.toList_ofList]
    | body line => exact ih (made.withLine (lined (own line List.mem_cons_self))) later
    | blank => exact ih made later

theorem within_ofDocument (document : String) :
    ∀ draft ∈ ofDocument document, draft.Within ('\n' :: document.toList) :=
  within_ofBlocks (within_new (List.nil_subset _)) List.mem_cons_self fun block member text known =>
    List.subset_cons_of_subset '\n' (Block.within_ofDocument document block member text known)

end Draft

end SlidePress
