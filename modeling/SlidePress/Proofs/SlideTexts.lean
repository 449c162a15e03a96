import Mathlib
import SlidePress.Proofs.DeckSlides
import SlidePress.Proofs.TextLines

/-! Slides of code and title slides keep the text of their draft. The panel of the code has a paragraph for
each line, whatever is in it; a title slide has the lines in which something can be seen, below the title and
in their order. The page can be seen at the foot of a slide and nowhere else. -/

namespace SlidePress.Design

section

variable (design : Design) (draft : Draft) (page : Nat)

def codePanel : Shape where
  kind := .rectangle
  frame := .ofInches 0.5 1.3 15.0 7.2
  fill := some design.theme.codeBackground
  wordWrap := false
  paragraphs := (Text.pieces '\n' draft.content.toList).map fun line =>
    { text := String.ofList line, font := some design.theme.codeFont, size := 16,
      color := design.theme.codeText }

/-- The panel is the only rectangle of its slide. -/
theorem rectangles_code :
    (design.slide draft .code page).shapes.filter (·.kind = .rectangle) = [design.codePanel draft] := by
  have label : (design.codeSlide draft).shapes.filter (·.kind = .rectangle) = [design.codePanel draft] := by
    rw [codeSlide]
    split <;> rfl
  rw [slide_eq, if_pos (by decide), unnumbered, Layout.push, List.filter_append, label]
  rfl

private theorem text_codePanel : (design.codePanel draft).text = draft.content := by
  have lines : ((design.codePanel draft).paragraphs.map (·.text)).map String.toList =
      draft.content.toList.splitOn '\n' := by
    simp [codePanel, Text.pieces_eq_splitOn, Function.comp_def]
  rw [← String.toList_inj, Shape.text, String.toList_intercalate, lines]
  exact List.intercalate_splitOn '\n'

private theorem paragraphs_codePanel :
    (design.codePanel draft).paragraphs.map (fun paragraph => (paragraph.text.toList, paragraph.font)) =
      (draft.content.toList.splitOn '\n').map (·, some design.theme.codeFont) := by
  simp [codePanel, Text.pieces_eq_splitOn, Function.comp_def]

/-- The texts on a title slide, box by box, as told by the lines of the draft that are not blank. -/
theorem texts_title {lines : List (List Char)}
    (shown : (Text.lines draft.content.toList).filter (!Text.allBlank ·) = lines) :
    (design.slide draft .title page).shapes.map (·.paragraphs.map (·.text)) =
      [draft.title] :: [String.ofList (lines.headD [])] ::
        (if 2 ≤ lines.length then [lines.tail.map fun line => String.ofList (Text.trim line)] else []) := by
  rw [slide_eq, if_neg (by decide), unnumbered, titleSlide, shown]
  match lines with
  | [] => rfl
  | [line] => rfl
  | first :: second :: rest => simp [Shape.textBox, Function.comp_def]

private theorem texts_eq_flatten (layout : Layout) :
    layout.texts = (layout.shapes.map (·.paragraphs.map (·.text))).flatten := List.flatMap_def

/-- Slides of code and title slides keep the text of the draft. The panel of the code has its lines one by
one, all in the font of code. A title slide has the title, then the lines in which something can be seen,
but for the white space around them: the first as the subtitle, which is empty if there is none, and the
others in a box that is there if and only if there are any. -/
theorem draft_text_kept :
    (∃ panel, (design.slide draft .code page).shapes.filter (·.kind = .rectangle) = [panel] ∧
      panel.text = draft.content ∧
      panel.paragraphs.map (fun paragraph => (paragraph.text.toList, paragraph.font)) =
        (draft.content.toList.splitOn '\n').map (·, some design.theme.codeFont)) ∧
    ∃ subtitle details,
      let lines := Text.visibleLines draft.content.toList
      (design.slide draft .title page).texts = draft.title :: subtitle :: details ∧
      (design.slide draft .title page).shapes.map (·.paragraphs.map (·.text)) =
        [draft.title] :: [subtitle] :: (if 2 ≤ lines.length then [details] else []) ∧
      if lines = [] then subtitle = "" ∧ details = []
      else (subtitle :: details).map Text.trimmed = lines.map fun line => String.ofList (Text.trim line) := by
  refine ⟨⟨design.codePanel draft, rectangles_code design draft page, text_codePanel design draft,
    paragraphs_codePanel design draft⟩, ?_⟩
  have pairs := Text.visibleLines_lines draft.content.toList
  generalize shown : (Text.lines draft.content.toList).filter (!Text.allBlank ·) = lines at pairs
  have boxes := texts_title design draft page shown
  refine ⟨String.ofList (lines.headD []), lines.tail.map fun line => String.ofList (Text.trim line), ?_, ?_, ?_⟩
  · rw [texts_eq_flatten, boxes]
    match lines with
    | [] => rfl
    | [line] => rfl
    | first :: second :: rest => simp
  · rw [boxes, pairs.length_eq]
  · have trimmed := congrArg (List.map String.ofList) (Text.map_trim_of_strips pairs)
    simp only [List.map_map, Function.comp_def] at trimmed
    rw [trimmed]
    generalize Text.visibleLines draft.content.toList = raws at pairs ⊢
    cases pairs with
    | nil => exact ⟨rfl, rfl⟩
    | cons first rest => simp [Text.trimmed, Text.trim_trim]

example : (Design.slide {} ⟨"Run", "ls\n\n\t-l \n", .code, none⟩ .code 1).texts =
    ["Run", "ls", "", "\t-l ", "", "Slide 1"] := by decide +kernel

end

/-! ### The page

The same slide on two pages has another text at its foot, and all else of it is the same; a slide without a
foot is the same on every page. -/

section

variable (design : Design)

def footerFront : String :=
  match design.footerText with
  | some text => if text.isEmpty then "Slide " else text ++ "  |  Slide "
  | none => "Slide "

private theorem footerLabel_eq (page : Nat) : design.footerLabel page = design.footerFront ++ page.repr := by
  have bare : s!"Slide {page}" = "Slide " ++ page.repr := by
    rw [← String.toList_inj]
    simp [toString]
  rw [footerLabel, footerFront]
  cases design.footerText with
  | none => exact bare
  | some text =>
    dsimp only
    split
    · exact bare
    · rw [← String.toList_inj]
      simp [toString]

theorem footerLabel_injective : Function.Injective design.footerLabel := by
  intro page other same
  rw [footerLabel_eq, footerLabel_eq] at same
  exact Nat.repr_injective ((String.append_right_inj design.footerFront).mp same)

/-- A slide with a foot is what stands above it and a box with one line of text, in which nothing but the text
depends on the page. -/
theorem slide_footed (draft : Draft) {style : Style} (footed : style.hasFooter = true) :
    ∃ (above : Layout) (box : Shape) (line : Paragraph), ∀ page, design.slide draft style page =
      above.push { box with paragraphs := [{ line with text := design.footerLabel page }] } := by
  refine ⟨design.unnumbered draft style, design.footer 0,
    { text := "", size := 12, color := design.theme.footerText, align := .center }, fun page => ?_⟩
  rw [slide_eq, if_pos footed]
  rfl

/-- Slides without a foot are the same on two pages. Slides with one have the same shapes but for the text of
the one line in the last of them, and there two pages never have the same text, whatever the footer text. -/
theorem page_at_foot_only (draft : Draft) {page other : Nat} (apart : page ≠ other) :
    (∀ style ∈ [Style.title, .divider],
      design.slide draft style page = design.slide draft style other) ∧
    ∀ style ∈ [Style.content, .code],
      (design.slide draft style page).shapes.length = (design.slide draft style other).shapes.length ∧
      ∃ (above : Layout) (box : Shape) (line : Paragraph),
        let footed (text : String) := above.push { box with paragraphs := [{ line with text }] }
        design.slide draft style page = footed (design.footerLabel page) ∧
        design.slide draft style other = footed (design.footerLabel other) ∧
        design.footerLabel page ≠ design.footerLabel other := by
  constructor
  · intro style bare
    have unfooted := Style.not_hasFooter_of_mem bare
    rw [slide_eq, slide_eq, if_neg unfooted, if_neg unfooted]
  · intro style known
    obtain ⟨above, box, line, numbered⟩ := design.slide_footed draft (Style.hasFooter_of_mem known)
    have texts := design.footerLabel_injective.ne apart
    refine ⟨?_, above, box, line, numbered page, numbered other, texts⟩
    rw [numbered page, numbered other, Layout.push, Layout.push, List.length_append, List.length_append]
    rfl

/-- The footer text looks like the label of a page itself. -/
theorem page_at_foot_only_below_code :
    let design : Design := { footerText := some "Slide 1" }
    let draft : Draft := ⟨"Run", "ls", .code, some "sh"⟩
    (1 : Nat) ≠ 11 ∧ Style.title ∈ [Style.title, .divider] ∧ Style.code ∈ [Style.content, .code] ∧
      design.slide draft .title 1 = design.slide draft .title 11 ∧
      (design.slide draft .code 1).shapes.length = (design.slide draft .code 11).shapes.length ∧
      ∃ (above : Layout) (box : Shape) (line : Paragraph),
        let footed (text : String) := above.push { box with paragraphs := [{ line with text }] }
        design.slide draft .code 1 = footed "Slide 1  |  Slide 1" ∧
        design.slide draft .code 11 = footed "Slide 1  |  Slide 11" := by
  intro design draft
  have apart : (1 : Nat) ≠ 11 := by decide
  have bare : Style.title ∈ [Style.title, .divider] := by decide
  have footed : Style.code ∈ [Style.content, .code] := by decide
  have first : design.footerLabel 1 = "Slide 1  |  Slide 1" := by decide +kernel
  have second : design.footerLabel 11 = "Slide 1  |  Slide 11" := by decide +kernel
  obtain ⟨same, numbered⟩ := design.page_at_foot_only draft apart
  obtain ⟨length, above, box, line, one, two, -⟩ := numbered .code footed
  rw [first] at one
  rw [second] at two
  exact ⟨apart, bare, footed, same .title bare, length, above, box, line, one, two⟩

end

end SlidePress.Design
