import SlidePress.Proofs.DraftSeparators

/-! Talks written down the usual way are read back exactly: an opening, sections of text and
sections of code. Each becomes one draft, and nothing in it is taken for the beginning or the end
of another. -/

namespace SlidePress.Manuscript

/-- A text of one line in which something can be seen. -/
structure Wording where
  text : Line
  whole : '\n' ∉ text
  visible : Text.allBlank text = false

structure TextLine where
  raw : Line
  whole : '\n' ∉ raw
  visible : Text.allBlank raw = false
  ordinary : Text.trim raw ≠ Block.separatorMark
  unheaded : Text.startsWith Block.headingMark (Text.trim raw) = false
  unfenced : Block.isFence raw = false

def TextLine.passage (line : TextLine) : Passage := .line line.raw

structure CodeLine where
  raw : Line
  whole : '\n' ∉ raw
  unfenced : Block.isFence raw = false

namespace Talk

/-- What stands below a heading: lines of text, or one fence. -/
inductive Contents where
  | text (lines : List TextLine)
  | code (language : Line) (whole : '\n' ∉ language) (lines : List CodeLine)

structure Section where
  heading : Wording
  contents : Contents

structure Opening where
  title : Wording
  below : List TextLine

end Talk

structure Talk where
  opening? : Option Talk.Opening := none
  sections : List Talk.Section

namespace Talk

def Contents.lines : Contents → List Line
  | text lines => lines.map (·.raw)
  | code language _ lines =>
    (Block.fenceMark ++ language) :: (lines.map (·.raw) ++ [Block.fenceMark])

def Section.lines (part : Section) : List Line :=
  (Block.headingMark ++ part.heading.text) :: part.contents.lines

def Opening.lines (part : Opening) : List Line :=
  (Block.titleMark ++ part.title.text) :: part.below.map (·.raw)

def lines (talk : Talk) : List Line :=
  talk.opening?.elim [] Opening.lines ++ talk.sections.flatMap Section.lines

/-- The talk written down, one line after another. -/
def text (talk : Talk) : String := String.ofList (['\n'].intercalate talk.lines)

def shownText (lines : List TextLine) : String :=
  String.ofList (lines.flatMap fun line => Text.trim line.raw ++ ['\n'])

def Section.draft (part : Section) : Draft :=
  let title := String.ofList (Text.trim part.heading.text)
  match part.contents with
  | .text lines => { title, content := shownText lines, kind := .content, language := none }
  | .code language _ lines =>
    { title
      content := String.ofList (['\n'].intercalate (lines.map (·.raw)))
      kind := .code
      language := some (String.ofList (Text.trim language)) }

def Opening.draft (part : Opening) : Draft where
  title := String.ofList (Text.trim part.title.text)
  content := shownText part.below
  kind := .title
  language := none

def drafts (talk : Talk) : List Draft :=
  (talk.opening?.map Opening.draft).toList ++ talk.sections.map Section.draft

end Talk

theorem Wording.trim_ne_nil (wording : Wording) : Text.trim wording.text ≠ [] := by
  rw [Ne, Text.trim_eq_nil_iff]
  exact Bool.eq_false_iff.mp wording.visible

/-- A mark with a wording behind it is the mark of the line. -/
theorem marked?_wording (wording : Wording) (mark : Line) (start : mark ≠ [])
    (visible : Text.isBlank (mark.head start) = false) :
    (Passage.line (mark ++ wording.text)).marked? mark = some (Text.trim wording.text) := by
  have kept : Text.trimRight wording.text ≠ [] := by
    rw [Ne, Text.trimRight_eq_nil_iff]
    exact Bool.eq_false_iff.mp wording.visible
  rw [Passage.marked?, Text.trim_append start visible kept, Text.after?_eq_some_iff.mpr rfl,
    Option.map_some, Text.trim_trimRight]

private theorem heading?_wording (wording : Wording) :
    (Passage.line (Block.headingMark ++ wording.text)).heading? = some (Text.trim wording.text) :=
  marked?_wording wording Block.headingMark (by decide) (by decide)

private theorem title?_wording (wording : Wording) :
    (Passage.line (Block.titleMark ++ wording.text)).title? = some (Text.trim wording.text) :=
  marked?_wording wording Block.titleMark (by decide) (by decide)

/-- A line with a mark that begins no fence is no fence line. -/
theorem isFence_of_marked {raw mark text : Line} (found : (Passage.line raw).marked? mark = some text)
    (apart : ¬ mark <+: Block.fenceMark) (apart' : ¬ Block.fenceMark <+: mark) :
    Block.isFence raw = false := by
  obtain ⟨rest, front, -⟩ := Option.map_eq_some_iff.mp found
  rw [Block.isFence, Text.startsWith, Text.after?_excludes front apart apart']
  rfl

theorem trim_fenceMark_append (language : Line) :
    Text.trim (Block.fenceMark ++ language) = Block.fenceMark ++ Text.trimRight language := by
  have start : Block.fenceMark ≠ [] := by decide
  rw [Text.trim, Text.trimLeft]
  exact Text.trimRight_append_visible start rfl language

private theorem isFence_fenceMark (language : Line) : Block.isFence (Block.fenceMark ++ language) = true := by
  rw [Block.isFence, Text.startsWith, trim_fenceMark_append, Text.after?_eq_some_iff.mpr rfl]
  rfl

private theorem fenceLanguage_fenceMark (language : Line) :
    Block.fenceLanguage (Block.fenceMark ++ language) = Text.trim language := by
  rw [Block.fenceLanguage, trim_fenceMark_append, Text.after?_eq_some_iff.mpr rfl]
  exact Text.trim_trimRight language

namespace Talk

def Contents.passages : Contents → List Passage
  | text lines => lines.map TextLine.passage
  | code language _ lines => [.fence ⟨Block.fenceMark ++ language, lines.map (·.raw)⟩]

def Section.passages (part : Section) : List Passage :=
  .line (Block.headingMark ++ part.heading.text) :: part.contents.passages

def Opening.passages (part : Opening) : List Passage :=
  .line (Block.titleMark ++ part.title.text) :: part.below.map TextLine.passage

private theorem ofLines_textLines (lines : List TextLine) (rest : List Line) :
    Passage.ofLines (lines.map (·.raw) ++ rest) =
      lines.map TextLine.passage ++ Passage.ofLines rest := by
  induction lines with
  | nil => rfl
  | cons line lines ih =>
    rw [List.map_cons, List.cons_append, Passage.ofLines_plain line.unfenced, ih]
    rfl

private theorem ofLines_contents (contents : Contents) (rest : List Line) :
    Passage.ofLines (contents.lines ++ rest) = contents.passages ++ Passage.ofLines rest := by
  cases contents with
  | text lines => exact ofLines_textLines lines rest
  | code language whole lines =>
    have free : Unfenced (lines.map (·.raw)) := by
      intro raw member
      obtain ⟨line, -, rfl⟩ := List.mem_map.mp member
      exact line.unfenced
    have closes : Block.isFence Block.fenceMark = true := by decide
    rw [Contents.lines, List.cons_append, List.append_assoc, List.singleton_append,
      Passage.ofLines_fence (isFence_fenceMark language) free closes]
    rfl

private theorem ofLines_section (part : Section) (rest : List Line) :
    Passage.ofLines (part.lines ++ rest) = part.passages ++ Passage.ofLines rest := by
  have plain := isFence_of_marked (heading?_wording part.heading) (by decide) (by decide)
  rw [Section.lines, List.cons_append, Passage.ofLines_plain plain, ofLines_contents]
  rfl

private theorem ofLines_opening (part : Opening) (rest : List Line) :
    Passage.ofLines (part.lines ++ rest) = part.passages ++ Passage.ofLines rest := by
  have plain := isFence_of_marked (title?_wording part.title) (by decide) (by decide)
  rw [Opening.lines, List.cons_append, Passage.ofLines_plain plain, ofLines_textLines]
  rfl

private theorem ofLines_sections (parts : List Section) (rest : List Line) :
    Passage.ofLines (parts.flatMap Section.lines ++ rest) =
      parts.flatMap Section.passages ++ Passage.ofLines rest := by
  induction parts with
  | nil => rfl
  | cons part parts ih =>
    rw [List.flatMap_cons, List.append_assoc, ofLines_section, ih, List.flatMap_cons,
      List.append_assoc]

end Talk

/-- Below a title a line of text is text, also one that looks like another title. -/
theorem ofBlocks_textLine {pending : Draft} (named : pending.title.isEmpty = false) (line : TextLine)
    (rest : List Block) :
    Draft.ofBlocks pending (line.passage.block false :: rest) =
      Draft.ofBlocks (pending.withLine (Text.trim line.raw)) rest := by
  have plain : (Passage.line line.raw).separates = false := beq_eq_false_iff_ne.mpr line.ordinary
  have unheaded : (Passage.line line.raw).heading? = none := by
    simpa [Passage.heading?, Passage.marked?, Text.startsWith] using line.unheaded
  rw [TextLine.passage, Passage.block_of_line plain, unheaded]
  cases (Passage.line line.raw).title? with
  | none => simp [Passage.text?, line.visible, Draft.ofBlocks]
  | some text => rw [Draft.ofBlocks, if_neg (by simp [named])]

private theorem ofBlocks_textLines {pending : Draft} (named : pending.title.isEmpty = false)
    (lines : List TextLine) (rest : List Block) :
    Draft.ofBlocks pending ((lines.map TextLine.passage).map (·.block false) ++ rest) =
      Draft.ofBlocks { pending with content := pending.content ++ Talk.shownText lines } rest := by
  induction lines generalizing pending with
  | nil => simp [Talk.shownText]
  | cons line lines ih =>
    have grown : (pending.withLine (Text.trim line.raw)).title.isEmpty = false := named
    rw [List.map_cons, List.map_cons, List.cons_append, ofBlocks_textLine named, ih grown]
    simp [Draft.withLine, Talk.shownText, String.append_assoc, String.ofList_append]

/-- A draft at hand that leaves nothing behind when a heading closes it. -/
def Settled (pending : Draft) : Prop := pending = {} ∨ pending.isEmpty = false

private theorem ofBlocks_heading_of_settled {pending : Draft} (settled : Settled pending) (text : Line)
    (rest : List Block) :
    Draft.ofBlocks pending (.heading text :: rest) =
      pending.closed ++ Draft.ofBlocks { title := String.ofList text } rest := by
  rcases settled with rfl | something
  · rfl
  · rw [Draft.ofBlocks, if_neg (by simp [something]), Draft.closed, if_neg (by simp [something])]
    rfl

namespace Talk

private theorem isEmpty_title {wording : Wording} :
    (String.ofList (Text.trim wording.text)).isEmpty = false := by
  rw [Text.isEmpty_ofList]
  exact List.isEmpty_eq_false_iff.mpr wording.trim_ne_nil

theorem Section.isEmpty_draft (part : Section) : part.draft.isEmpty = false := by
  have title : part.draft.title = String.ofList (Text.trim part.heading.text) := by
    rw [draft]
    split <;> rfl
  rw [Draft.isEmpty, title, isEmpty_title, Bool.false_and]

private theorem ofBlocks_section {pending : Draft} (settled : Settled pending) (part : Section)
    (rest : List Block) :
    Draft.ofBlocks pending (part.passages.map (·.block false) ++ rest) =
      pending.closed ++ Draft.ofBlocks part.draft rest := by
  rw [Section.passages, List.map_cons, List.cons_append,
    Passage.block_of_heading (heading?_wording part.heading), ofBlocks_heading_of_settled settled,
    Section.draft]
  cases part.contents with
  | text lines =>
    have read := @ofBlocks_textLines { title := String.ofList (Text.trim part.heading.text) }
      isEmpty_title lines rest
    rw [Contents.passages, read, String.empty_append]
  | code language whole lines =>
    simp [Contents.passages, Passage.block, Draft.ofBlocks, Fence.language, fenceLanguage_fenceMark,
      Text.joined_eq_intercalate]

private theorem ofBlocks_blanks (pending : Draft) (count : Nat) :
    Draft.ofBlocks pending (List.replicate count .blank) = pending.closed := by
  induction count with
  | zero => rfl
  | succ count ih => rw [List.replicate_succ, Draft.ofBlocks, ih]

/-- The sections follow the draft at hand one by one, with whatever empty lines behind them. -/
theorem ofBlocks_sections {pending : Draft} (settled : Settled pending) (parts : List Section)
    (count : Nat) :
    Draft.ofBlocks pending
        ((parts.flatMap Section.passages).map (·.block false) ++ List.replicate count .blank) =
      pending.closed ++ parts.map Section.draft := by
  -- Every heading closes the draft at hand, so the sections are read with any settled one before them.
  induction parts generalizing pending with
  | nil => simpa using ofBlocks_blanks pending count
  | cons part parts ih =>
    have next : Settled part.draft := Or.inr part.isEmpty_draft
    rw [List.flatMap_cons, List.map_append, List.append_assoc, ofBlocks_section settled, ih next]
    simp [Draft.closed, part.isEmpty_draft]

private theorem separates_opening (part : Opening) :
    (Passage.line (Block.titleMark ++ part.title.text)).separates = false := by
  cases separates : (Passage.line (Block.titleMark ++ part.title.text)).separates with
  | false => rfl
  | true =>
    have untitled := Passage.title?_of_bounds (Bool.or_eq_true_iff.mpr (Or.inl separates))
    rw [title?_wording] at untitled
    cases untitled

private theorem ofBlocks_opening (part : Opening) (rest : List Passage) :
    Draft.ofBlocks {} (blocks true (part.passages ++ rest)) =
      Draft.ofBlocks part.draft (blocks false rest) := by
  have below := @ofBlocks_textLines { title := String.ofList (Text.trim part.title.text), kind := .title }
    isEmpty_title part.below (rest.map (·.block false))
  rw [Opening.passages, List.cons_append, blocks, Passage.block_of_line (separates_opening part),
    title?_wording, Draft.ofBlocks, if_pos rfl, blocks_false, List.map_append, blocks_false]
  rw [String.empty_append] at below
  exact below

theorem Opening.isEmpty_draft (part : Opening) : part.draft.isEmpty = false := by
  rw [Draft.isEmpty, draft, isEmpty_title, Bool.false_and]

/-- Only the line of a title means more at the top of a document than it does elsewhere. -/
theorem blocks_sections (parts : List Section) (count : Nat) (atTop : Bool) :
    blocks atTop (parts.flatMap Section.passages ++ List.replicate count (.line [])) =
      (parts.flatMap Section.passages).map (·.block false) ++ List.replicate count .blank := by
  have blank (atTop : Bool) : (Passage.line []).block atTop = .blank := rfl
  cases parts with
  | nil =>
    cases count with
    | zero => rfl
    | succ count => simp [List.replicate_succ, blocks, blocks_false, blank]
  | cons part parts =>
    have heading := heading?_wording part.heading
    simp only [List.flatMap_cons, Section.passages, List.cons_append, blocks, blocks_false,
      Passage.block_of_heading heading, List.map_cons, List.map_append, List.map_replicate, blank]

private theorem ofBlocks_talk (talk : Talk) (count : Nat) :
    Draft.ofBlocks {} (blocks true (Passage.ofLines (talk.lines ++ List.replicate count []))) =
      talk.drafts := by
  have empty : Passage.ofLines (List.replicate count []) = List.replicate count (.line []) := by
    induction count with
    | zero => exact Passage.ofLines_nil
    | succ count ih => rw [List.replicate_succ, Passage.ofLines_plain rfl, ih, List.replicate_succ]
  rw [lines, drafts]
  cases talk.opening? with
  | none =>
    rw [Option.elim_none, List.nil_append, ofLines_sections, empty, blocks_sections,
      ofBlocks_sections (Or.inl rfl)]
    rfl
  | some part =>
    rw [Option.elim_some, List.append_assoc, ofLines_opening, ofLines_sections, empty,
      ofBlocks_opening, blocks_sections, ofBlocks_sections (Or.inr part.isEmpty_draft), Draft.closed,
      part.isEmpty_draft]
    rfl

theorem Contents.whole (contents : Contents) : ∀ raw ∈ contents.lines, '\n' ∉ raw := by
  intro raw member
  cases contents with
  | text lines =>
    obtain ⟨line, -, rfl⟩ := List.mem_map.mp member
    exact line.whole
  | code language whole lines =>
    rcases List.mem_cons.mp member with rfl | member
    · simpa [Block.fenceMark] using whole
    · rcases List.mem_append.mp member with member | member
      · obtain ⟨line, -, rfl⟩ := List.mem_map.mp member
        exact line.whole
      · rw [List.mem_singleton.mp member]
        decide

theorem whole (talk : Talk) : ∀ raw ∈ talk.lines, '\n' ∉ raw := by
  intro raw member
  rcases List.mem_append.mp member with member | member
  · obtain ⟨part, -, member⟩ : ∃ part, talk.opening? = some part ∧ raw ∈ part.lines := by
      cases opening : talk.opening? with
      | none => simp [opening] at member
      | some part => exact ⟨part, rfl, by simpa [opening] using member⟩
    rcases List.mem_cons.mp member with rfl | member
    · simpa [Block.titleMark] using part.title.whole
    · obtain ⟨line, -, rfl⟩ := List.mem_map.mp member
      exact line.whole
  · obtain ⟨part, -, member⟩ := List.mem_flatMap.mp member
    rcases List.mem_cons.mp member with rfl | member
    · simpa [Block.headingMark] using part.heading.whole
    · exact part.contents.whole raw member

/-- The lines of a talk as it is written down; a talk without lines is one empty line. -/
theorem splitOn_text (talk : Talk) :
    ∃ count, talk.text.toList.splitOn '\n' = talk.lines ++ List.replicate count [] := by
  rw [text, String.toList_ofList]
  by_cases nothing : talk.lines = []
  · exact ⟨1, by rw [nothing]; rfl⟩
  · exact ⟨0, by simpa using List.splitOn_intercalate '\n' talk.whole nothing⟩

/-- A talk is read back as it was meant, whether or not its last line is ended by a line feed. -/
theorem ofDocument_text (talk : Talk) :
    Draft.ofDocument talk.text = talk.drafts ∧ Draft.ofDocument (talk.text ++ "\n") = talk.drafts := by
  obtain ⟨count, written⟩ := talk.splitOn_text
  constructor
  · rw [ofDocument_eq_ofBlocks, passages, written, ofBlocks_talk]
  · have ended : (talk.text ++ "\n").toList.splitOn '\n' =
        talk.lines ++ List.replicate (count + 1) [] := by
      have text : (talk.text ++ "\n").toList = talk.text.toList ++ '\n' :: [] := String.toList_append
      rw [text, List.splitOn_append_cons_self, written, List.append_assoc, List.replicate_succ']
      rfl
    rw [ofDocument_eq_ofBlocks, passages, ended, ofBlocks_talk]

/-- Spaces around wordings are no part of them, and marks in code are code. -/
theorem ofDocument_text_of_code :
    let talk : Talk := {
      opening? := some ⟨⟨"Talk".toList, by decide, by decide⟩,
        [⟨" # Anna".toList, by decide, by decide, by decide, by decide, by decide⟩]⟩
      sections := [
        ⟨⟨" Run ".toList, by decide, by decide⟩, .code " sh".toList (by decide)
          [⟨"---".toList, by decide, by decide⟩, ⟨[], by decide, by decide⟩]⟩,
        ⟨⟨"Stop".toList, by decide, by decide⟩, .text []⟩] }
    talk.text = "# Talk\n # Anna\n##  Run \n``` sh\n---\n\n```\n## Stop" ∧
      ∀ document ∈ [talk.text, talk.text ++ "\n"], Draft.ofDocument document =
        [⟨"Talk", "# Anna\n", .title, none⟩, ⟨"Run", "---\n", .code, some "sh"⟩,
          ⟨"Stop", "", .content, none⟩] := by
  intro talk
  have meant : talk.drafts = [⟨"Talk", "# Anna\n", .title, none⟩, ⟨"Run", "---\n", .code, some "sh"⟩,
      ⟨"Stop", "", .content, none⟩] := by decide +kernel
  obtain ⟨unended, ended⟩ := ofDocument_text talk
  refine ⟨by decide +kernel, fun document either => ?_⟩
  simp only [List.mem_cons, List.not_mem_nil, or_false] at either
  rcases either with rfl | rfl
  · exact unended.trans meant
  · exact ended.trans meant

end Talk

end SlidePress.Manuscript
