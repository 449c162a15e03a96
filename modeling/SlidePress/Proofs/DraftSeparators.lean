import SlidePress.Draft.Reading
import SlidePress.Proofs.ManuscriptPassages

/-! Separators keep what stands on their two sides apart: nothing that is read above one leaves a
trace below it. Lines that are blank or separators become no slide, however many there are. -/

namespace SlidePress.Manuscript

theorem isFence_of_allBlank {raw : Line} (blank : Text.allBlank raw = true) :
    Block.isFence raw = false := by
  rw [Block.isFence, Text.trim_eq_nil_iff.mpr blank]
  rfl

/-- A line that shows on no slide: a blank one or a separator. -/
structure IdleLine where
  raw : Line
  whole : '\n' ∉ raw
  idle : Text.allBlank raw = true ∨ Text.trim raw = Block.separatorMark

namespace IdleLine

def passage (line : IdleLine) : Passage := .line line.raw

def separates (line : IdleLine) : Bool := line.passage.separates

def block (line : IdleLine) : Block := if line.separates then .separator else .blank

def text (lines : List IdleLine) : String := String.ofList (lines.flatMap (·.raw ++ ['\n']))

private theorem isFence_eq_false (line : IdleLine) : Block.isFence line.raw = false := by
  rcases line.idle with blank | separator
  · exact isFence_of_allBlank blank
  · rw [Block.isFence, separator]
    rfl

private theorem block_passage (line : IdleLine) (atTop : Bool) : line.passage.block atTop = line.block := by
  rw [block]
  split
  next separator => exact Passage.block_of_separates separator atTop
  next other =>
    have blank : Text.allBlank line.raw = true :=
      line.idle.resolve_right fun same => other (beq_iff_eq.mpr same)
    rw [passage, Passage.block, Text.trim_eq_nil_iff.mpr blank]
    rfl

end IdleLine

theorem passages_ne_nil (document : String) : passages document ≠ [] := by
  rw [passages]
  cases found : document.toList.splitOn '\n' with
  | nil => exact absurd found (List.splitOn_ne_nil '\n' document.toList)
  | cons raw rest =>
    rw [Passage.ofLines]
    split <;> simp

/-- Below closed fences a new line is read as if it were the first of a document. -/
theorem passages_below {above : String} (closed : fenceLines above % 2 = 0) (below : String) :
    passages (above ++ "\n" ++ below) = passages above ++ passages below := by
  have text : (above ++ "\n" ++ below).toList = above.toList ++ '\n' :: below.toList := by simp
  rw [passages, text, List.splitOn_append_cons_self, Passage.ofLines_append closed]
  rfl

private theorem passages_idle (gap : List IdleLine) (below : String) :
    passages (IdleLine.text gap ++ below) = gap.map IdleLine.passage ++ passages below := by
  induction gap with
  | nil => simp [IdleLine.text]
  | cons line gap ih =>
    have text : (IdleLine.text (line :: gap) ++ below).toList =
        line.raw ++ '\n' :: (IdleLine.text gap ++ below).toList := by simp [IdleLine.text]
    rw [passages, text, List.splitOn_append_cons_self_of_not_mem line.whole,
      Passage.ofLines_plain line.isFence_eq_false, List.map_cons, List.cons_append, ← ih]
    rfl

theorem blocks_false (all : List Passage) : blocks false all = all.map (·.block false) := by
  induction all with
  | nil => rfl
  | cons passage rest ih => rw [blocks, ih, List.map_cons]

theorem blocks_append {front : List Passage} (something : front ≠ []) (atTop : Bool)
    (back : List Passage) : blocks atTop (front ++ back) = blocks atTop front ++ blocks false back := by
  cases front with
  | nil => exact absurd rfl something
  | cons first rest => simp [blocks, blocks_false]

private theorem blocks_idle (gap : List IdleLine) (atTop : Bool) :
    blocks atTop (gap.map IdleLine.passage) = gap.map IdleLine.block := by
  induction gap generalizing atTop with
  | nil => rfl
  | cons line gap ih => rw [List.map_cons, blocks, line.block_passage, ih, List.map_cons]

/-- Whatever is read first, the rest is read from the draft that is then at hand on. -/
theorem ofBlocks_append (pending : Draft) (front : List Block) :
    ∃ done last, ∀ back,
      Draft.ofBlocks pending (front ++ back) = done ++ Draft.ofBlocks last back := by
  induction front generalizing pending with
  | nil => exact ⟨[], pending, fun _ => rfl⟩
  | cons block front ih =>
    -- Only separators and headings close a draft; all other blocks change the one at hand.
    cases block with
    | separator =>
      obtain ⟨done, last, read⟩ := ih {}
      refine ⟨pending.closed ++ done, last, fun back => ?_⟩
      rw [List.cons_append, Draft.ofBlocks, read, List.append_assoc]
    | title text line atTop =>
      simp only [List.cons_append, Draft.ofBlocks]
      split
      · exact ih _
      · exact ih _
    | heading text =>
      simp only [List.cons_append, Draft.ofBlocks]
      split
      · exact ih _
      · obtain ⟨done, last, read⟩ := ih { title := String.ofList text }
        exact ⟨pending :: done, last, fun back => congrArg (pending :: ·) (read back)⟩
    | fence language code => exact ih _
    | body line => exact ih _
    | blank => exact ih _

/-- Idle lines close the draft at hand if there is a separator among them, and do nothing else. -/
theorem ofBlocks_idle (pending : Draft) (front : List Block) (gap : List IdleLine) (back : List Block) :
    Draft.ofBlocks pending (front ++ (gap.map IdleLine.block ++ back)) =
      if gap.any IdleLine.separates then Draft.ofBlocks pending front ++ Draft.ofBlocks {} back
      else Draft.ofBlocks pending (front ++ back) := by
  induction gap generalizing pending front with
  | nil => rfl
  | cons line gap ih =>
    obtain ⟨done, last, read⟩ := ofBlocks_append pending front
    rw [List.map_cons, List.cons_append, read, IdleLine.block, List.any_cons]
    cases separator : line.separates with
    | true =>
      have above : Draft.ofBlocks pending front = done ++ last.closed := by
        simpa [Draft.ofBlocks] using read []
      have below : Draft.ofBlocks {} (gap.map IdleLine.block ++ back) = Draft.ofBlocks {} back := by
        have rest := ih {} []
        simpa [Draft.ofBlocks, Draft.closed, Draft.isEmpty] using rest
      rw [if_pos rfl, Draft.ofBlocks, below, above, Bool.true_or, if_pos rfl, List.append_assoc]
    | false =>
      rw [if_neg (by simp), Draft.ofBlocks, ← read, ih, Bool.false_or]

theorem ofDocument_eq_ofBlocks (document : String) :
    Draft.ofDocument document = Draft.ofBlocks {} (blocks true (passages document)) := by
  rw [Draft.ofDocument, ofDocument_eq_blocks]

/-- Below an empty line nothing is at the top of the document. -/
theorem ofDocument_below (below : String) :
    Draft.ofDocument ("\n" ++ below) = Draft.ofBlocks {} (blocks false (passages below)) := by
  have read : passages ("\n" ++ below) = .line [] :: passages below := by
    rw [passages, String.toList_append]
    exact Passage.ofLines_plain rfl _
  rw [ofDocument_eq_ofBlocks, read]
  rfl

private theorem ofDocument_above {above : String} (closed : fenceLines above % 2 = 0) (below : String) :
    Draft.ofDocument (above ++ "\n" ++ below) =
      Draft.ofBlocks {} (blocks true (passages above) ++ blocks false (passages below)) := by
  rw [ofDocument_eq_ofBlocks, passages_below closed, blocks_append (passages_ne_nil above)]

/-- Idle lines between two texts are one cut if there is a separator among them, else they are as
if they were not there. -/
theorem ofDocument_gap {above : String} (closed : fenceLines above % 2 = 0) (gap : List IdleLine)
    (below : String) :
    Draft.ofDocument (above ++ "\n" ++ (IdleLine.text gap ++ below)) =
      if gap.any IdleLine.separates then Draft.ofDocument above ++ Draft.ofDocument ("\n" ++ below)
      else Draft.ofDocument (above ++ "\n" ++ below) := by
  have read : blocks false (passages (IdleLine.text gap ++ below)) =
      gap.map IdleLine.block ++ blocks false (passages below) := by
    rw [passages_idle, blocks_false, List.map_append, ← blocks_false, ← blocks_false, blocks_idle]
  rw [ofDocument_above closed, ofDocument_above closed, read, ofBlocks_idle, ofDocument_below,
    ofDocument_eq_ofBlocks above]

/-- At the top of a document idle lines are one empty line. -/
theorem ofDocument_gap_top {gap : List IdleLine} (something : gap ≠ []) (below : String) :
    Draft.ofDocument (IdleLine.text gap ++ below) = Draft.ofDocument ("\n" ++ below) := by
  have some_passage : gap.map IdleLine.passage ≠ [] := by simpa using something
  have read := ofBlocks_idle {} [] gap (blocks false (passages below))
  rw [ofDocument_below, ofDocument_eq_ofBlocks, passages_idle, blocks_append some_passage, blocks_idle]
  simpa [Draft.ofBlocks, Draft.closed, Draft.isEmpty] using read

def plainSeparator : IdleLine where
  raw := Block.separatorMark
  whole := by decide
  idle := Or.inr (by decide)

def emptyLine : IdleLine where
  raw := []
  whole := by decide
  idle := Or.inl rfl

/-- A separator isolates what is on either side of it. Of lines that are blank or separators only
the separators count, all of them as one, and at the top of a document not even they do. -/
theorem separator_isolates (above below : String) (closed : fenceLines above % 2 = 0) :
    Draft.ofDocument (above ++ "\n---\n" ++ below) =
        Draft.ofDocument above ++ Draft.ofDocument ("\n" ++ below) ∧
      ∀ gap : List IdleLine,
        Draft.ofDocument (above ++ "\n" ++ (IdleLine.text gap ++ below)) =
            (if gap.any IdleLine.separates then
              Draft.ofDocument above ++ Draft.ofDocument ("\n" ++ below)
            else Draft.ofDocument (above ++ "\n" ++ below)) ∧
          (gap ≠ [] →
            Draft.ofDocument (IdleLine.text gap ++ below) = Draft.ofDocument ("\n" ++ below)) := by
  refine ⟨?_, fun gap => ⟨ofDocument_gap closed gap below, fun something => ofDocument_gap_top something below⟩⟩
  have one := ofDocument_gap closed [plainSeparator] below
  have text : above ++ "\n---\n" ++ below = above ++ "\n" ++ (IdleLine.text [plainSeparator] ++ below) := by
    simp [← String.toList_inj, IdleLine.text, plainSeparator, Block.separatorMark]
  rw [text, one]
  rfl

/-- Two separators and an empty line below a closed fence, with an open one behind them. -/
theorem separator_isolates_between_fences :
    fenceLines "# Talk\n```sh\nls\n```" % 2 = 0 ∧
      Draft.ofDocument ("# Talk\n```sh\nls\n```" ++ "\n---\n" ++ "```\n---") =
        Draft.ofDocument "# Talk\n```sh\nls\n```" ++ Draft.ofDocument ("\n" ++ "```\n---") ∧
      Draft.ofDocument ("# Talk\n```sh\nls\n```" ++ "\n" ++
          (IdleLine.text [plainSeparator, emptyLine, plainSeparator] ++ "```\n---")) =
        Draft.ofDocument "# Talk\n```sh\nls\n```" ++ Draft.ofDocument ("\n" ++ "```\n---") ∧
      [plainSeparator] ≠ [] ∧
      Draft.ofDocument (IdleLine.text [plainSeparator] ++ "# Talk") = Draft.ofDocument ("\n" ++ "# Talk") := by
  have closed : fenceLines "# Talk\n```sh\nls\n```" % 2 = 0 := by decide +kernel
  have isolated := separator_isolates "# Talk\n```sh\nls\n```" "```\n---" closed
  have top := separator_isolates "# Talk\n```sh\nls\n```" "# Talk" closed
  have several : [plainSeparator] ≠ [] := by simp
  exact ⟨closed, isolated.1, (isolated.2 [plainSeparator, emptyLine, plainSeparator]).1, several,
    (top.2 [plainSeparator]).2 several⟩

end SlidePress.Manuscript
