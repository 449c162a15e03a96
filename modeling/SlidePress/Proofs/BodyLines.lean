import SlidePress.Preferences
import SlidePress.Proofs.TextLines

/-! The paragraphs of a body are its lines, one for each line that is not blank. What a line loses on the way
is told by its marks alone: the mark of an item, or the stars at its two ends. -/

namespace SlidePress

namespace Text

/-- What `trimMatching` takes away is a run of the mark at each end. -/
theorem trimMatching_split (mark : Char) (text : List Char) : ∃ left right,
    text = List.replicate left mark ++ trimMatching mark text ++ List.replicate right mark := by
  have run (part : List Char) (marked : ∀ c ∈ part, (c == mark) = true) :
      ∃ count, part = List.replicate count mark :=
    ⟨part.length, List.eq_replicate_iff.mpr ⟨rfl, fun c member => beq_iff_eq.mp (marked c member)⟩⟩
  obtain ⟨left, front⟩ := run (text.takeWhile (· == mark)) fun _ => List.mem_takeWhile_imp
  obtain ⟨right, back⟩ := run ((text.dropWhile (· == mark)).rtakeWhile (· == mark)) fun _ =>
    List.mem_rtakeWhile_imp
  refine ⟨left, right, ?_⟩
  rw [← front, ← back]
  calc text
      = text.takeWhile (· == mark) ++ text.dropWhile (· == mark) := List.takeWhile_append_dropWhile.symm
    _ = text.takeWhile (· == mark) ++ (trimMatching mark text ++
          (text.dropWhile (· == mark)).rtakeWhile (· == mark)) :=
        congrArg _ List.rdropWhile_append_rtakeWhile.symm
    _ = _ := (List.append_assoc _ _ _).symm

private theorem allBlank_of_infix {part text : List Char} (inside : part <:+: text)
    (blank : allBlank text = true) :
    allBlank part = true :=
  List.all_eq_true.mpr fun c member => List.all_eq_true.mp blank c (inside.subset member)

end Text

namespace BodyLine

def text : BodyLine → String
  | bullet text | subBullet text | emphasis text | status text | plain text => text

def isItem : BodyLine → Bool
  | bullet _ | subBullet _ => true
  | emphasis _ | status _ | plain _ => false

@[simp] theorem text_paragraph (theme : Theme) (kind : BodyLine) :
    (kind.paragraph theme).text = kind.text := by cases kind <;> rfl

@[simp] theorem isSome_bullet_paragraph (theme : Theme) (kind : BodyLine) :
    (kind.paragraph theme).bullet.isSome = kind.isItem := by cases kind <;> rfl

def itemMarks : List (List Char) := [dash, dot, indentedDash]

def IsItem (line : List Char) : Prop := ∃ mark ∈ itemMarks, mark <+: line

/-- A line with two stars at its front and two at its end, which may be the same ones. -/
def IsStarred (line : List Char) : Prop := stars <+: line ∧ stars <:+ line

/-- What may be left of a line on a slide: all of it, what stands behind the mark of an item, or what stands
between stars on a line with two of them at each end. -/
inductive Shows (line text : List Char) : Prop where
  | whole (same : text = line)
  | item (marked : IsItem line) {front rest : List Char} {sign : Char} (split : line = front ++ sign :: rest)
      (blank : Text.allBlank front = true) (known : sign ∈ ['-', '•']) (same : text = Text.trim rest)
  | starred (both : IsStarred line) {left right : Nat}
      (split : line = List.replicate left '*' ++ text ++ List.replicate right '*')

variable (icons : List String) {line rest mark : List Char}

theorem item_cases (known : mark ∈ itemMarks) : mark = dash ∨ mark = dot ∨ mark = indentedDash := by
  simpa [itemMarks] using known

/-- A mark is white space and one of two characters, with a blank behind it. -/
theorem mark_split (known : mark ∈ itemMarks) :
    ∃ front sign, mark = front ++ [sign, ' '] ∧ Text.allBlank front = true ∧ sign ∈ ['-', '•'] := by
  rcases item_cases known with rfl | rfl | rfl
  · exact ⟨[], '-', rfl, rfl, by simp⟩
  · exact ⟨[], '•', rfl, rfl, by simp⟩
  · exact ⟨[' ', ' '], '-', rfl, by decide, by simp⟩

theorem ofLine_item (known : mark ∈ itemMarks) (rest : List Char) :
    ∃ kind, ofLine icons (mark ++ rest) = some kind ∧
      kind.text = String.ofList (Text.trim rest) ∧ kind.isItem = true := by
  rcases item_cases known with rfl | rfl | rfl
  · exact ⟨.bullet _, rfl, rfl, rfl⟩
  · exact ⟨.bullet _, rfl, rfl, rfl⟩
  · exact ⟨.subBullet _, rfl, rfl, rfl⟩

/-- A line without the mark of an item is told by its stars, its icon and whether it is blank. -/
theorem ofLine_of_unmarked (unmarked : ¬ IsItem line) : ofLine icons line =
    if Text.startsWith stars line && Text.endsWith stars line then
      some (.emphasis (String.ofList (Text.trimMatching '*' line)))
    else if icons.any fun icon => Text.startsWith icon.toList line then some (.status (String.ofList line))
    else if Text.allBlank line then none
    else some (.plain (String.ofList line)) := by
  have absent {mark : List Char} (known : mark ∈ itemMarks) : Text.after? mark line = none := by
    cases found : Text.after? mark line with
    | none => rfl
    | some rest =>
      rw [Text.after?_eq_some_iff] at found
      exact absurd ⟨mark, known, rest, found.symm⟩ unmarked
  rw [ofLine, bulletText?, absent (by simp [itemMarks]), absent (by simp [itemMarks]),
    absent (by simp [itemMarks])]
  rfl

private theorem isStarred_iff :
    (Text.startsWith stars line && Text.endsWith stars line) = true ↔ IsStarred line := by
  rw [Bool.and_eq_true, Text.startsWith_iff, Text.endsWith_iff, IsStarred]

theorem ofLine_starred (unmarked : ¬ IsItem line) (both : IsStarred line) :
    ofLine icons line = some (.emphasis (String.ofList (Text.trimMatching '*' line))) := by
  rw [ofLine_of_unmarked icons unmarked, if_pos (isStarred_iff.mpr both)]

theorem ofLine_whole (unmarked : ¬ IsItem line) (single : ¬ IsStarred line)
    (visible : Text.allBlank line = false) :
    ∃ kind, ofLine icons line = some kind ∧ kind.text = String.ofList line ∧ kind.isItem = false := by
  rw [ofLine_of_unmarked icons unmarked, if_neg (mt isStarred_iff.mp single), visible]
  split
  · exact ⟨.status _, rfl, rfl, rfl⟩
  · exact ⟨.plain _, rfl, rfl, rfl⟩

/-- A blank line is nothing as long as no icon is blank. -/
theorem ofLine_blank {icons : List String} (seen : ∀ icon ∈ icons, Text.isBlankString icon = false)
    (blank : Text.allBlank line = true) : ofLine icons line = none := by
  have absent {part : List Char} (visible : Text.allBlank part = false) : ¬ part <+: line := by
    intro front
    have hidden := Text.allBlank_of_infix front.isInfix blank
    rw [visible] at hidden
    cases hidden
  have unmarked : ¬ IsItem line := by
    rintro ⟨mark, known, front⟩
    rcases item_cases known with rfl | rfl | rfl
    · exact absent (by decide) front
    · exact absent (by decide) front
    · exact absent (by decide) front
  have single : ¬ IsStarred line := fun both => absent (by decide) both.1
  have plain : ¬ (icons.any fun icon => Text.startsWith icon.toList line) = true := by
    rw [List.any_eq_true]
    rintro ⟨icon, known, front⟩
    exact absent (seen icon known) (Text.startsWith_iff.mp front)
  rw [ofLine_of_unmarked icons unmarked, if_neg (mt isStarred_iff.mp single), if_neg plain, if_pos blank]

/-- Every line that is not blank is shown, with nothing dropped but what its marks allow. -/
theorem shows_ofLine (visible : Text.allBlank line = false) :
    ∃ kind, ofLine icons line = some kind ∧ Shows line kind.text.toList ∧
      (kind.isItem = true ↔ IsItem line) := by
  by_cases marked : IsItem line
  · obtain ⟨mark, known, rest, rfl⟩ := marked
    obtain ⟨kind, read, text, item⟩ := ofLine_item icons known rest
    obtain ⟨front, sign, rfl, blank, listed⟩ := mark_split known
    refine ⟨kind, read, ?_, iff_of_true item ⟨_, known, rest, rfl⟩⟩
    have behind : Text.trim rest = Text.trim (' ' :: rest) := by
      rw [Text.trim, Text.trim, Text.trimLeft, Text.trimLeft, List.dropWhile_cons_of_pos (by decide)]
    rw [text, String.toList_ofList, behind]
    exact .item ⟨_, known, rest, rfl⟩ (by simp) blank listed rfl
  · by_cases both : IsStarred line
    · obtain ⟨left, right, split⟩ := Text.trimMatching_split '*' line
      refine ⟨_, ofLine_starred icons marked both, ?_, iff_of_false (by simp [isItem]) marked⟩
      rw [text, String.toList_ofList]
      exact .starred both split
    · obtain ⟨kind, read, text, plain⟩ := ofLine_whole icons marked both visible
      refine ⟨kind, read, ?_, iff_of_false (by simp [plain]) marked⟩
      rw [text, String.toList_ofList]
      exact .whole rfl

/-- What is shown of a line stands in it without a gap. -/
theorem Shows.isInfix {text : List Char} (shows : Shows line text) : text <:+: line := by
  cases shows with
  | whole same => exact same ▸ List.infix_refl line
  | @item marked front rest sign split blank known same =>
    obtain ⟨left, right, -, -, whole⟩ := Text.strips_trim rest
    rw [← same] at whole
    exact ⟨front ++ sign :: left, right, by simp [split, whole]⟩
  | @starred both left right split => exact ⟨List.replicate left '*', List.replicate right '*', split.symm⟩

end BodyLine

namespace Design

variable {design : Design}

/-- The paragraphs of a body are those of the lines of the trimmed content that are not blank. -/
theorem forall₂_bodyParagraphs (seen : ∀ icon ∈ design.statusIcons, Text.isBlankString icon = false)
    (content : String) :
    List.Forall₂ (fun line paragraph => Text.allBlank line = false ∧
        ∃ kind, BodyLine.ofLine design.statusIcons line = some kind ∧ paragraph = kind.paragraph design.theme)
      (Text.visibleLines (Text.trim content.toList)) (design.bodyParagraphs content) := by
  rw [bodyParagraphs, Text.visibleLines, ← Text.pieces_eq_splitOn]
  generalize Text.pieces '\n' (Text.trim content.toList) = lines
  induction lines with
  | nil => exact .nil
  | cons line lines ih =>
    cases blank : Text.allBlank line with
    | true =>
      have nothing := BodyLine.ofLine_blank seen blank
      rw [List.filter_cons_of_neg (by simp [blank]), List.filterMap_cons_none (by rw [nothing]; rfl)]
      exact ih
    | false =>
      obtain ⟨kind, read, -, -⟩ := BodyLine.shows_ofLine design.statusIcons blank
      rw [List.filter_cons_of_pos (by simp [blank]),
        List.filterMap_cons_some (by rw [read]; rfl)]
      exact .cons ⟨blank, kind, read, rfl⟩ ih

theorem isBlankString_usualIcons :
    ∀ icon ∈ ({} : Design).statusIcons, Text.isBlankString icon = false := by decide

/-- Each line of a body that is not blank is one paragraph, in their order. White space around the body is
left out first, and of what is then the line no more is dropped than its marks allow; the lines with the
mark of an item are those with a bullet. The usual icons, which the preferences leave as they are, can all
be seen. -/
theorem paragraph_per_visible_line :
    (∀ design : Design, (∀ icon ∈ design.statusIcons, Text.isBlankString icon = false) →
      ∀ content : String,
        let raws := Text.visibleLines content.toList
        let lines := Text.visibleLines (Text.trim content.toList)
        let paragraphs := design.bodyParagraphs content
        List.Forall₂ Text.Strips raws lines ∧
        List.Forall₂ (fun line paragraph => BodyLine.Shows line paragraph.text.toList ∧
          (paragraph.bullet.isSome = true ↔ BodyLine.IsItem line)) lines paragraphs ∧
        List.Forall₂ (fun raw paragraph => paragraph.text.toList <:+: raw) raws paragraphs) ∧
    ∀ (preferences : Preferences) (title footer : Option String),
      ∀ icon ∈ (preferences.deckSettings title footer).design.statusIcons,
        Text.isBlankString icon = false := by
  refine ⟨fun design seen content => ?_, fun _ _ _ => isBlankString_usualIcons⟩
  have stripped := Text.visibleLines_trim content.toList
  have shown : List.Forall₂ (fun line paragraph => BodyLine.Shows line paragraph.text.toList ∧
      (paragraph.bullet.isSome = true ↔ BodyLine.IsItem line))
      (Text.visibleLines (Text.trim content.toList)) (design.bodyParagraphs content) := by
    refine (forall₂_bodyParagraphs seen content).imp ?_
    rintro line paragraph ⟨visible, kind, read, rfl⟩
    obtain ⟨kind', read', shows, item⟩ := BodyLine.shows_ofLine design.statusIcons visible
    obtain rfl : kind = kind' := by simpa [read] using read'
    simpa using ⟨shows, item⟩
  exact ⟨stripped, shown, Text.forall₂_comp stripped shown
    fun _ _ _ outer shows => shows.1.isInfix.trans outer.isInfix⟩

/-- The first line loses its indentation before it is looked at, and so it is emphasis; below it the indented
mark counts, and of four marks in a row only the first is dropped. -/
theorem paragraph_per_visible_line_mixed :
    let design : Design := {}
    let content := " \n\t**Loud**\n  - - -  - \n\n ✅ done\n•  dot\n**\n"
    let raws := Text.visibleLines content.toList
    let lines := Text.visibleLines (Text.trim content.toList)
    let paragraphs := design.bodyParagraphs content
    (∀ icon ∈ design.statusIcons, Text.isBlankString icon = false) ∧
      paragraphs.map (·.text) = ["Loud", "- -  -", " ✅ done", "dot", ""] ∧
      List.Forall₂ Text.Strips raws lines ∧
      List.Forall₂ (fun line paragraph => BodyLine.Shows line paragraph.text.toList ∧
        (paragraph.bullet.isSome = true ↔ BodyLine.IsItem line)) lines paragraphs ∧
      List.Forall₂ (fun raw paragraph => paragraph.text.toList <:+: raw) raws paragraphs := by
  intro design content raws lines paragraphs
  have texts : paragraphs.map (·.text) = ["Loud", "- -  -", " ✅ done", "dot", ""] := by decide +kernel
  exact ⟨isBlankString_usualIcons, texts,
    paragraph_per_visible_line.1 design isBlankString_usualIcons content⟩

end Design

end SlidePress
