import SlidePress.Proofs.DraftSeparators
import SlidePress.Proofs.TextCharacters

/-! White space outside fences counts for nothing. Two documents that differ only there, in the white space
around lines or in blank lines below the first line, have the same drafts; one of the documents like a
given one is tidy. The first line keeps its place even if it is blank, since a title line means more there. -/

namespace SlidePress.Manuscript

/-- The lines below some line of a document, tidied: outside fences, and where one begins or ends, the
white space around a line goes, and so do blank lines. `fenced` tells whether the first of them is inside
a fence. -/
def tidyLines (fenced : Bool) : List Line → List Line
  | [] => []
  | raw :: rest =>
    if Block.isFence raw then Text.trim raw :: tidyLines (!fenced) rest
    else if fenced then raw :: tidyLines true rest
    else if Text.allBlank raw then tidyLines false rest
    else Text.trim raw :: tidyLines false rest

/-- A document without white space that counts for nothing; its first line stays, also if it is blank. -/
def tidied (document : String) : String :=
  match document.toList.splitOn '\n' with
  | [] => ""
  | first :: rest =>
    String.ofList (['\n'].intercalate (Text.trim first :: tidyLines (Block.isFence first) rest))

/-- Lines that differ only in white space around those outside fences, the lines that begin or end a fence
among them, and in blank lines outside fences. `fenced` tells whether they begin inside a fence. -/
inductive Relaid : (fenced : Bool) → List Line → List Line → Prop where
  | nil {fenced : Bool} : Relaid fenced [] []
  | mark {fenced : Bool} {raw raw' : Line} {rest rest' : List Line} (fence : Block.isFence raw = true)
      (same : Text.trim raw = Text.trim raw') (below : Relaid (!fenced) rest rest') :
      Relaid fenced (raw :: rest) (raw' :: rest')
  | code {raw : Line} {rest rest' : List Line} (inside : Block.isFence raw = false)
      (below : Relaid true rest rest') : Relaid true (raw :: rest) (raw :: rest')
  | line {raw raw' : Line} {rest rest' : List Line} (outside : Block.isFence raw = false)
      (same : Text.trim raw = Text.trim raw') (below : Relaid false rest rest') :
      Relaid false (raw :: rest) (raw' :: rest')
  | dropped {raw : Line} {rest rest' : List Line} (blank : Text.allBlank raw = true)
      (below : Relaid false rest rest') : Relaid false (raw :: rest) rest'
  | added {raw : Line} {rest rest' : List Line} (blank : Text.allBlank raw = true)
      (below : Relaid false rest rest') : Relaid false rest (raw :: rest')

/-- Documents that differ only in the white space outside their fences, with the same first line but for
the white space around it. -/
def SameButWhitespace (document other : String) : Prop :=
  ∃ first first' rest rest', document.toList.splitOn '\n' = first :: rest ∧
    other.toList.splitOn '\n' = first' :: rest' ∧ Text.trim first = Text.trim first' ∧
    Relaid (Block.isFence first) rest rest'

private theorem isFence_congr {raw raw' : Line} (same : Text.trim raw = Text.trim raw') :
    Block.isFence raw = Block.isFence raw' := by
  rw [Block.isFence, Block.isFence, same]

private theorem fenceLanguage_congr {raw raw' : Line} (same : Text.trim raw = Text.trim raw') :
    Block.fenceLanguage raw = Block.fenceLanguage raw' := by
  rw [Block.fenceLanguage, Block.fenceLanguage, same]

/-- A blank line is read as nothing. -/
theorem ofBlocks_blankLine {raw : Line} (blank : Text.allBlank raw = true) (pending : Draft)
    (rest : List Line) :
    Draft.ofBlocks pending (Block.ofLines false (raw :: rest)) =
      Draft.ofBlocks pending (Block.ofLines false rest) := by
  rw [Block.ofLines, if_neg (by simp [isFence_of_allBlank blank]), Text.trim_eq_nil_iff.mpr blank]
  rfl

/-- Blocks that are read alike are read alike behind another one. -/
theorem ofBlocks_cons_congr {rest rest' : List Block}
    (alike : ∀ pending, Draft.ofBlocks pending rest = Draft.ofBlocks pending rest') (block : Block)
    (pending : Draft) : Draft.ofBlocks pending (block :: rest) = Draft.ofBlocks pending (block :: rest') := by
  obtain ⟨done, last, read⟩ := ofBlocks_append pending [block]
  have first := read rest
  have second := read rest'
  rw [List.singleton_append] at first second
  rw [first, second, alike]

/-- Lines that are read alike, with whatever draft at hand and whatever has been read of their fence. -/
def ReadAlike : (fenced : Bool) → List Line → List Line → Prop
  | false, raws, raws' => ∀ pending,
    Draft.ofBlocks pending (Block.ofLines false raws) = Draft.ofBlocks pending (Block.ofLines false raws')
  | true, raws, raws' => ∀ pending language seen,
    Draft.ofBlocks pending (Block.ofFence language seen raws) =
      Draft.ofBlocks pending (Block.ofFence language seen raws')

variable {fenced : Bool} {raws raws' : List Line}

/-- Lines outside fences that mean the same are read alike if what is below them is. -/
theorem ofBlocks_lines_congr {first first' : Line} (same : Text.trim first = Text.trim first')
    (below : ReadAlike (Block.isFence first) raws raws') (atTop : Bool) (pending : Draft) :
    Draft.ofBlocks pending (Block.ofLines atTop (first :: raws)) =
      Draft.ofBlocks pending (Block.ofLines atTop (first' :: raws')) := by
  rw [Block.ofLines, Block.ofLines, ← isFence_congr same, ← fenceLanguage_congr same, ← same]
  cases opens : Block.isFence first with
  | true =>
    rw [opens] at below
    exact below pending _ _
  | false =>
    rw [opens] at below
    exact ofBlocks_cons_congr below _ _

/-- Lines inside a fence are read alike if the first ones mean the same, and are the same unless they end
the fence, and what is below them is read alike. -/
theorem readAlike_fence {first first' : Line} (same : Text.trim first = Text.trim first')
    (kept : Block.isFence first = false → first = first')
    (below : ReadAlike (!Block.isFence first) raws raws') : ReadAlike true (first :: raws) (first' :: raws') := by
  intro pending language seen
  rw [Block.ofFence, Block.ofFence, ← isFence_congr same]
  cases closes : Block.isFence first with
  | true =>
    rw [closes] at below
    exact ofBlocks_cons_congr below _ _
  | false =>
    rw [closes] at below
    rw [← kept closes]
    exact below pending _ _

private theorem Relaid.readAlike (relaid : Relaid fenced raws raws') : ReadAlike fenced raws raws' := by
  induction relaid with
  | @nil fenced =>
    cases fenced with
    | false => exact fun _ => rfl
    | true => exact fun _ _ _ => rfl
  | @mark fenced raw raw' rest rest' fence same below ih =>
    cases fenced with
    | false =>
      have alike : ReadAlike (Block.isFence raw) rest rest' := by rwa [fence]
      exact ofBlocks_lines_congr same alike false
    | true =>
      have alike : ReadAlike (!Block.isFence raw) rest rest' := by rwa [fence]
      exact readAlike_fence same (fun other => by simp [fence] at other) alike
  | @code raw rest rest' inside below ih =>
    have alike : ReadAlike (!Block.isFence raw) rest rest' := by rwa [inside]
    exact readAlike_fence rfl (fun _ => rfl) alike
  | @line raw raw' rest rest' outside same below ih =>
    have alike : ReadAlike (Block.isFence raw) rest rest' := by rwa [outside]
    exact ofBlocks_lines_congr same alike false
  | dropped blank below ih => exact fun pending => (ofBlocks_blankLine blank pending _).trans (ih pending)
  | added blank below ih => exact fun pending => (ih pending).trans (ofBlocks_blankLine blank pending _).symm

private theorem ofDocument_eq_ofLines {document : String} {raws : List Line}
    (split : document.toList.splitOn '\n' = raws) :
    Draft.ofDocument document = Draft.ofBlocks {} (Block.ofLines true raws) := by
  rw [Draft.ofDocument, Block.ofDocument, Text.pieces_eq_splitOn, split]

private theorem ofDocument_congr {document other : String} (same : SameButWhitespace document other) :
    Draft.ofDocument document = Draft.ofDocument other := by
  obtain ⟨first, first', rest, rest', split, split', top, below⟩ := same
  rw [ofDocument_eq_ofLines split, ofDocument_eq_ofLines split']
  exact ofBlocks_lines_congr top below.readAlike true {}

private theorem relaid_tidyLines (fenced : Bool) (raws : List Line) : Relaid fenced raws
    (tidyLines fenced raws) := by
  induction raws generalizing fenced with
  | nil => exact .nil
  | cons raw rest ih =>
    rw [tidyLines]
    split
    next fence => exact .mark fence (Text.trim_trim raw).symm (ih _)
    next other =>
      have plain : Block.isFence raw = false := by simpa using other
      cases fenced with
      | true => exact .code plain (ih true)
      | false =>
        split
        · contradiction
        split
        next blank => exact .dropped blank (ih false)
        next => exact .line plain (Text.trim_trim raw).symm (ih false)

/-- A tidied line is made of the characters of one of the lines. -/
theorem exists_of_mem_tidyLines {line : Line} (member : line ∈ tidyLines fenced raws) :
    ∃ raw ∈ raws, line ⊆ raw := by
  induction raws generalizing fenced with
  | nil => cases member
  | cons raw rest ih =>
    have later {fenced : Bool} (member : line ∈ tidyLines fenced rest) : ∃ raw' ∈ raw :: rest, line ⊆ raw' := by
      obtain ⟨raw', known, made⟩ := ih member
      exact ⟨raw', List.mem_cons_of_mem raw known, made⟩
    have trimmed : Text.trim raw ⊆ raw := Text.trim_subset raw
    rw [tidyLines] at member
    split at member
    · rcases List.mem_cons.mp member with rfl | below
      · exact ⟨raw, List.mem_cons_self, trimmed⟩
      · exact later below
    · split at member
      · rcases List.mem_cons.mp member with rfl | below
        · exact ⟨line, List.mem_cons_self, List.Subset.refl line⟩
        · exact later below
      · split at member
        · exact later member
        · rcases List.mem_cons.mp member with rfl | below
          · exact ⟨raw, List.mem_cons_self, trimmed⟩
          · exact later below

private theorem sameButWhitespace_tidied (document : String) : SameButWhitespace document
    (tidied document) := by
  have split : ∃ first rest, document.toList.splitOn '\n' = first :: rest :=
    List.exists_cons_of_ne_nil (List.splitOn_ne_nil '\n' document.toList)
  obtain ⟨first, rest, split⟩ := split
  have whole : ∀ line ∈ Text.trim first :: tidyLines (Block.isFence first) rest, '\n' ∉ line := by
    intro line member feed
    have source : ∃ raw ∈ first :: rest, line ⊆ raw := by
      rcases List.mem_cons.mp member with rfl | below
      · exact ⟨first, List.mem_cons_self, Text.trim_subset first⟩
      · obtain ⟨raw, known, made⟩ := exists_of_mem_tidyLines below
        exact ⟨raw, List.mem_cons_of_mem first known, made⟩
    obtain ⟨raw, known, made⟩ := source
    rw [← split, ← Text.pieces_eq_splitOn] at known
    exact Text.notMem_of_mem_pieces known (made feed)
  refine ⟨first, Text.trim first, rest, tidyLines (Block.isFence first) rest, split, ?_,
    (Text.trim_trim first).symm, relaid_tidyLines _ rest⟩
  rw [tidied, split, String.toList_ofList]
  exact List.splitOn_intercalate '\n' whole (List.cons_ne_nil _ _)

/-- White space outside fences counts for nothing: a document has the drafts of the tidied one, and
documents that differ only in such white space have the same drafts. -/
theorem whitespace_counts_inside_fences_only (document : String) :
    Draft.ofDocument (tidied document) = Draft.ofDocument document ∧
      ∀ other, SameButWhitespace document other → Draft.ofDocument other = Draft.ofDocument document :=
  ⟨(ofDocument_congr (sameButWhitespace_tidied document)).symm, fun _ same => (ofDocument_congr same).symm⟩

/-- Inside the fence the indentation and the blank line stay; the carriage returns, the blank lines and the
indentation around it make no difference. -/
theorem whitespace_counts_inside_fences_only_in_code :
    let document := "\t# Talk \r\n\r\n ```sh \n  ls \n\n```\r\n  end"
    let other := "# Talk\n```sh\n  ls \n\n  ```\n\nend\n"
    SameButWhitespace document other ∧
      tidied document = "# Talk\n```sh\n  ls \n\n```\nend" ∧
      Draft.ofDocument (tidied document) = Draft.ofDocument document ∧
      Draft.ofDocument other = Draft.ofDocument document := by
  intro document other
  have same : SameButWhitespace document other := by
    refine ⟨"\t# Talk \r".toList, "# Talk".toList,
      ["\r".toList, " ```sh ".toList, "  ls ".toList, [], "```\r".toList, "  end".toList],
      ["```sh".toList, "  ls ".toList, [], "  ```".toList, [], "end".toList, []],
      by decide +kernel, by decide +kernel, by decide +kernel, ?_⟩
    have below : Relaid false ["  end".toList] [[], "end".toList, []] :=
      .added (by decide) (.line (by decide) (by decide) (.added (by decide) .nil))
    have code : Relaid true ["  ls ".toList, [], "```\r".toList, "  end".toList]
        ["  ls ".toList, [], "  ```".toList, [], "end".toList, []] :=
      .code (by decide) (.code (by decide) (.mark (by decide) (by decide) below))
    exact .dropped (by decide) (.mark (by decide) (by decide) code)
  have idle := whitespace_counts_inside_fences_only document
  exact ⟨same, by decide +kernel, idle.1, idle.2 other same⟩

end SlidePress.Manuscript
