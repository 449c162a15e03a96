import Mathlib.Data.List.Basic
import SlidePress.Proofs.DeckSlides

/-! The colors of a slide and the font of its code are those of the theme, and the theme decides nothing else.
Both follow from one law: with the colors of the theme changed one by one, the slide is the same with its own
colors changed in that way. A color that is not the theme's would not change with it. -/

namespace SlidePress

/-! ### Other colors and fonts -/

section

variable (paint : Color → Color) (rename : String → String)

/-- The paragraph in another color, and in another font if it has one. -/
def Paragraph.repainted (paragraph : Paragraph) : Paragraph :=
  { paragraph with color := paint paragraph.color, font := paragraph.font.map rename }

def Shape.repainted (shape : Shape) : Shape :=
  { shape with
    fill := shape.fill.map paint
    paragraphs := shape.paragraphs.map (·.repainted paint rename) }

def Layout.repainted (layout : Layout) : Layout where
  background := paint layout.background
  shapes := layout.shapes.map (·.repainted paint rename)

def Theme.repainted (theme : Theme) : Theme where
  primary := paint theme.primary
  secondary := paint theme.secondary
  dark := paint theme.dark
  light := paint theme.light
  onPrimary := paint theme.onPrimary
  codeBackground := paint theme.codeBackground
  codeText := paint theme.codeText
  footerText := paint theme.footerText
  codeFont := rename theme.codeFont

end

/-- The slide without its colors and the names of its fonts. -/
def Layout.unpainted (layout : Layout) : Layout := layout.repainted (fun _ => .black) fun _ => ""

def Theme.colors (theme : Theme) : List Color :=
  [theme.primary, theme.secondary, theme.dark, theme.light, theme.onPrimary, theme.codeBackground,
    theme.codeText, theme.footerText]

def Shape.colors (shape : Shape) : List Color := shape.fill.toList ++ shape.paragraphs.map (·.color)

def Shape.fonts (shape : Shape) : List String := shape.paragraphs.filterMap (·.font)

def Layout.colors (layout : Layout) : List Color :=
  layout.background :: layout.shapes.flatMap Shape.colors

def Layout.fonts (layout : Layout) : List String := layout.shapes.flatMap Shape.fonts

section

variable {paint paint' : Color → Color} {rename rename' : String → String}

private theorem Theme.repainted_congr {theme : Theme}
    (colors : ∀ color ∈ theme.colors, paint color = paint' color)
    (font : rename theme.codeFont = rename' theme.codeFont) :
    theme.repainted paint rename = theme.repainted paint' rename' := by
  simp only [Theme.colors, List.forall_mem_cons] at colors
  simp only [Theme.repainted, colors, font]

private theorem Paragraph.agree_of_repainted {paragraph : Paragraph}
    (same : paragraph.repainted paint rename = paragraph.repainted paint' rename') :
    paint paragraph.color = paint' paragraph.color ∧
      ∀ font ∈ paragraph.font, rename font = rename' font := by
  rw [repainted, repainted, Paragraph.mk.injEq] at same
  obtain ⟨-, -, -, color, fonts, -⟩ := same
  refine ⟨color, fun font known => ?_⟩
  rw [known, Option.map_some, Option.map_some, Option.some.injEq] at fonts
  exact fonts

private theorem Shape.agree_of_repainted {shape : Shape}
    (same : shape.repainted paint rename = shape.repainted paint' rename') :
    (∀ color ∈ shape.colors, paint color = paint' color) ∧
      ∀ font ∈ shape.fonts, rename font = rename' font := by
  rw [repainted, repainted, Shape.mk.injEq, List.map_inj_left] at same
  obtain ⟨-, -, fill, -, -, paragraphs⟩ := same
  constructor
  · intro color member
    rcases List.mem_append.mp member with filled | written
    · rw [Option.mem_toList] at filled
      rw [filled, Option.map_some, Option.map_some, Option.some.injEq] at fill
      exact fill
    · obtain ⟨paragraph, inside, rfl⟩ := List.mem_map.mp written
      exact (Paragraph.agree_of_repainted (paragraphs paragraph inside)).1
  · intro font member
    obtain ⟨paragraph, inside, known⟩ := List.mem_filterMap.mp member
    exact (Paragraph.agree_of_repainted (paragraphs paragraph inside)).2 font known

/-- Two changes with the same result agree on all that is there to be changed. -/
theorem Layout.agree_of_repainted {layout : Layout}
    (same : layout.repainted paint rename = layout.repainted paint' rename') :
    (∀ color ∈ layout.colors, paint color = paint' color) ∧
      ∀ font ∈ layout.fonts, rename font = rename' font := by
  rw [repainted, repainted, Layout.mk.injEq, List.map_inj_left] at same
  obtain ⟨background, shapes⟩ := same
  constructor
  · intro color member
    rcases List.mem_cons.mp member with rfl | member
    · exact background
    · obtain ⟨shape, inside, known⟩ := List.mem_flatMap.mp member
      exact (Shape.agree_of_repainted (shapes shape inside)).1 color known
  · intro font member
    obtain ⟨shape, inside, known⟩ := List.mem_flatMap.mp member
    exact (Shape.agree_of_repainted (shapes shape inside)).2 font known

end

/-- What all changes agree on that agree on a list is in the list. -/
theorem subset_of_agree {α : Type} {items known : List α} {one two : α} (apart : one ≠ two)
    (agree : ∀ change change' : α → α, (∀ item ∈ known, change item = change' item) →
      ∀ item ∈ items, change item = change' item) : items ⊆ known := by
  classical
  intro item member
  by_contra missing
  let mark (item : α) : α := if item ∈ known then one else two
  have same := agree mark (fun _ => one) (fun item inside => if_pos inside) item member
  exact apart (same.symm.trans (if_neg missing))

/-! ### Slides with other colors -/

namespace Design

variable (paint : Color → Color) (rename : String → String) (design : Design)

def repainted : Design := { design with theme := design.theme.repainted paint rename }

private theorem bodyParagraphs_repainted (content : String) :
    (design.repainted paint rename).bodyParagraphs content =
      (design.bodyParagraphs content).map (·.repainted paint rename) := by
  rw [bodyParagraphs, bodyParagraphs, List.map_filterMap]
  refine List.filterMap_congr fun line _ => ?_
  rw [Option.map_map]
  refine congrArg (Option.map · _) (funext fun kind => ?_)
  cases kind <;> rfl

private theorem unnumbered_repainted (draft : Draft) (style : Style) :
    (design.repainted paint rename).unnumbered draft style =
      (design.unnumbered draft style).repainted paint rename := by
  cases style with
  | title =>
    rw [unnumbered, unnumbered, titleSlide, titleSlide, Layout.repainted]
    cases ((Text.lines draft.content.toList).filter (!Text.allBlank ·)).tail with
    | nil => rfl
    | cons line lines => simp [Shape.repainted, Shape.textBox, Paragraph.repainted, repainted, Theme.repainted]
  | divider => rfl
  | content =>
    rw [unnumbered, unnumbered, contentSlide, contentSlide, bodyParagraphs_repainted]
    cases design.bodyParagraphs draft.content with
    | nil => rfl
    | cons paragraph paragraphs => rfl
  | code =>
    rw [unnumbered, unnumbered, codeSlide, codeSlide]
    cases draft.languageName.isEmpty <;> simp [Layout.repainted, Shape.repainted, Shape.textBox,
      Shape.rectangle, Paragraph.repainted, repainted, Theme.repainted]

/-- With the colors of the theme changed one by one, a slide is the same with its own colors so changed. -/
theorem slide_repainted (draft : Draft) (style : Style) (page : Nat) :
    (design.repainted paint rename).slide draft style page =
      (design.slide draft style page).repainted paint rename := by
  rw [slide_eq, slide_eq, unnumbered_repainted]
  split
  · rw [Layout.push, Layout.push, Layout.repainted, Layout.repainted, List.map_append]
    rfl
  · rfl

/-- All colors of a slide are the theme's and all its fonts are the font of its code, and with another theme
the slide differs in nothing but colors and the name of this font. -/
theorem theme_decides_colors_only (draft : Draft) (style : Style) (page : Nat) :
    (design.slide draft style page).colors ⊆ design.theme.colors ∧
    (∀ font ∈ (design.slide draft style page).fonts, font = design.theme.codeFont) ∧
    ∀ theme : Theme, ({ design with theme }.slide draft style page).unpainted =
      (design.slide draft style page).unpainted := by
  have agree (paint paint' : Color → Color) (rename rename' : String → String)
      (colors : ∀ color ∈ design.theme.colors, paint color = paint' color)
      (font : rename design.theme.codeFont = rename' design.theme.codeFont) :
      (∀ color ∈ (design.slide draft style page).colors, paint color = paint' color) ∧
        ∀ font ∈ (design.slide draft style page).fonts, rename font = rename' font := by
    apply Layout.agree_of_repainted
    rw [← slide_repainted, ← slide_repainted, repainted, repainted, Theme.repainted_congr colors font]
  refine ⟨?_, ?_, fun theme => ?_⟩
  · apply subset_of_agree (by decide : Color.black ≠ .white)
    intro paint paint' same
    exact (agree paint paint' id id same rfl).1
  · have fonts : (design.slide draft style page).fonts ⊆ [design.theme.codeFont] := by
      apply subset_of_agree (by decide : "" ≠ "a")
      intro rename rename' same
      exact (agree id id rename rename' (fun _ _ => rfl) (same _ List.mem_cons_self)).2
    exact fun font member => List.mem_singleton.mp (fonts member)
  · rw [Layout.unpainted, Layout.unpainted, ← slide_repainted, ← slide_repainted]
    rfl

end Design

end SlidePress
