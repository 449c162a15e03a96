import Mathlib
import SlidePress.Proofs.SlideMarkup
import SlidePress.Proofs.SlideScaling

/-! The numbers that the text of a slide has for its paragraphs: sizes and spaces in hundredths of a point, and
margins of bullets. Margins are right at every level. Hundredths are products of words of 32 bits: up to
42949672 points they are right, and for more there is no text. -/

namespace SlidePress

open Xml (Node StartTag WrittenNode tag)

namespace Xml

namespace WrittenNode

def value? : WrittenNode → String → Option String
  | .char _, _ => none
  | .element tag _, name => tag.value? name

def values (node : WrittenNode) (element name : String) : List String :=
  (node.find element).filterMap (·.value? name)

/-- The sizes of runs; a paragraph without text has one for the mark at its end. -/
def sizes (node : WrittenNode) : List String := node.values "a:rPr" "sz" ++ node.values "a:endParaRPr" "sz"

def spaces (node : WrittenNode) : List String := node.values "a:spcPts" "val"

def margins (node : WrittenNode) : List String := node.values "a:pPr" "marL"

end WrittenNode

def Node.values (element name : String) (node : Node) : List String :=
  (node.found element).filterMap (·.value? name)

theorem Node.values_eq {node : Node} {root : WrittenNode} (written : node.written = [root])
    (element name : String) : node.values element name = root.values element name := by
  rw [values, found_eq_find written, WrittenNode.values]

theorem Node.values_text (element name content : String) :
    (Node.text content).values element name = [] := by
  rw [values, found_text, List.filterMap_nil]

private theorem WrittenNode.value?_element (name own : String) (attributes : List (String × String))
    (children : List WrittenNode) :
    value? (.element (.ofTexts own attributes) children) name = attributes.lookup name :=
  StartTag.ofTexts_value? own name attributes

theorem Node.values_tag (element name own : String) (attributes : List (String × String))
    (children : List Node) : (tag own attributes children).values element name =
      (if own == element then (attributes.lookup name).toList else []) ++
        children.flatMap (values element name) := by
  have below : (children.flatMap (found element)).filterMap (·.value? name) =
      children.flatMap (values element name) := by
    rw [List.filterMap_flatMap]
    rfl
  rw [values, found_tag]
  cases own == element with
  | false => simpa using below
  | true =>
    rw [if_pos rfl, if_pos rfl, List.filterMap_cons, WrittenNode.value?_element, below]
    cases attributes.lookup name <;> rfl

theorem Node.values_element (element name own : String) (attributes : List Attribute)
    (other : own ≠ element) :
    (Node.element own attributes []).values element name = [] := by
  rw [values, found_element element own attributes [] other]
  rfl

end Xml

private theorem Color.values_fill (color : Color) {element : String}
    (other : element ∉ ["a:solidFill", "a:srgbClr"])
    (name : String) : color.fill.values element name = [] := by
  simp only [List.mem_cons, List.not_mem_nil, or_false, not_or] at other
  simp [fill, Node.values_tag, Ne.symm other.1, Ne.symm other.2]

/-! Margins in words of 64 bits. -/

/-- The margin of a bullet as a sum and a product of words. -/
def wordMargin (level : UInt32) : Int64 := 342900 + Int64.ofNat level.toNat * 400050

private theorem toInt_wordMargin (level : UInt32) :
    (wordMargin level).toInt = 342900 + 400050 * level.toNat := by
  have bound := level.toNat_lt
  have own : (Int64.ofNat level.toNat).toInt = level.toNat := by
    apply Int64.toInt_ofNat_of_lt
    omega
  have step : (400050 : Int64).toInt = 400050 := rfl
  have first : (342900 : Int64).toInt = 342900 := rfl
  have product : (Int64.ofNat level.toNat * 400050).toInt = level.toNat * 400050 := by
    rw [Int64.toInt_mul, own, step]
    apply Int.bmod_eq_of_le <;> omega
  rw [wordMargin, Int64.toInt_add, product, first, Int.mul_comm]
  apply Int.bmod_eq_of_le <;> omega

/-- The node tells the numbers of a paragraph, sizes and spaces in parts of a point. -/
structure Xml.WrittenNode.Measures (parts : Nat) (node : WrittenNode) (paragraph : Paragraph) : Prop where
  size : node.sizes = [toString (parts * paragraph.size.toNat)]
  space : node.spaces = (paragraph.spaceBefore.map fun points => toString (parts * points.toNat)).toList
  margin : node.margins =
    (paragraph.bullet.map fun level => toString (342900 + 400050 * level.toNat)).toList

namespace Paragraph

section Values
variable (paragraph : Paragraph)

private theorem values_runFormat {element : String}
    (other : element ∉ ["a:solidFill", "a:srgbClr", "a:latin", "a:cs"]) (name : String) :
    paragraph.runFormat.flatMap (Node.values element name) = [] := by
  have color := Color.values_fill paragraph.color (fun inside => other (List.mem_append_left _ inside)) name
  simp only [List.mem_cons, List.not_mem_nil, or_false, not_or] at other
  rw [runFormat, List.flatMap_cons, color]
  cases paragraph.font with
  | none => rfl
  | some font => simp [Node.values_tag, Ne.symm other.2.2.1, Ne.symm other.2.2.2]

/-- A run has the same size whether it has a text or stands for the end of the paragraph. -/
theorem sizes_markup : paragraph.markup.values "a:rPr" "sz" ++ paragraph.markup.values "a:endParaRPr" "sz" =
    [toString paragraph.size.toNat] := by
  have size : paragraph.runAttributes.lookup "sz" = some (toString paragraph.size.toNat) := rfl
  have format {element : String} (run : element ∈ ["a:rPr", "a:endParaRPr"]) :
      paragraph.runFormat.flatMap (Node.values element "sz") = [] := by
    apply values_runFormat
    revert element
    decide
  have front {element : String} (run : element ∈ ["a:rPr", "a:endParaRPr"]) :
      paragraph.properties.values element "sz" = [] := by
    simp only [List.mem_cons, List.not_mem_nil, or_false] at run
    rw [properties]
    obtain rfl | rfl := run <;> cases paragraph.bullet <;> cases paragraph.spaceBefore <;>
      simp [Node.values_tag, Node.values_element]
  rw [markup]
  cases paragraph.text.isEmpty <;>
    simp [Node.values_tag, Node.values_text, front, format, size]

private theorem values_markup {element : String} (inside : element ∈ ["a:pPr", "a:spcPts"]) (name : String) :
    paragraph.markup.values element name = paragraph.properties.values element name := by
  have format : paragraph.runFormat.flatMap (Node.values element name) = [] := by
    apply values_runFormat
    revert element
    decide
  simp only [List.mem_cons, List.not_mem_nil, or_false] at inside
  rw [markup]
  obtain rfl | rfl := inside <;> cases paragraph.text.isEmpty <;>
    simp [Node.values_tag, Node.values_text, format]

private theorem spaces_properties : paragraph.properties.values "a:spcPts" "val" =
    (paragraph.spaceBefore.map fun points => toString points.toNat).toList := by
  rw [properties]
  cases paragraph.bullet <;> cases paragraph.spaceBefore <;>
    simp [Node.values_tag, Node.values_element]

private theorem margins_properties : paragraph.properties.values "a:pPr" "marL" =
    (paragraph.bullet.map fun level => toString (bulletMargin level)).toList := by
  rw [properties]
  cases paragraph.bullet <;> cases paragraph.spaceBefore <;>
    simp [Node.values_tag, Node.values_element, List.lookup_cons]

end Values

variable {paragraph : Paragraph} {node : WrittenNode}

private theorem measures_markup (written : paragraph.markup.written = [node]) : node.Measures 1 paragraph := by
  have read := Node.values_eq written
  constructor
  · rw [WrittenNode.sizes, ← read, ← read, sizes_markup, Nat.one_mul]
  · rw [WrittenNode.spaces, ← read, values_markup paragraph (by decide), spaces_properties]
    simp only [Nat.one_mul]
  · rw [WrittenNode.margins, ← read, values_markup paragraph (by decide), margins_properties]
    simp only [bulletMargin, Nat.mul_comm]

private theorem Scales.measures {scaled : Paragraph} (scales : paragraph.Scales scaled)
    (measures : node.Measures 1 scaled) : node.Measures 100 paragraph := by
  obtain ⟨size, spaceBefore, rfl, own, gap⟩ := scales
  constructor
  · rw [measures.size, Nat.one_mul, own]
  · have texts := congrArg (Option.map toString) gap
    rw [Option.map_map, Option.map_map] at texts
    rw [measures.space]
    simp only [Nat.one_mul]
    exact congrArg Option.toList texts
  · exact measures.margin

private theorem measures_written {paragraphs scaled : List Paragraph}
    (scales : List.Forall₂ Scales paragraphs scaled) :
    List.Forall₂ (WrittenNode.Measures 100) (scaled.flatMap (·.markup.written)) paragraphs := by
  induction scales with
  | nil => exact .nil
  | @cons paragraph own _ _ head _ tail =>
    obtain ⟨node, written⟩ : ∃ node, own.markup.written = [node] := ⟨_, Node.written_tag ..⟩
    rw [List.flatMap_cons, written]
    exact .cons (head.measures (measures_markup written)) tail

end Paragraph

namespace Layout

private theorem find_paragraphs {layout : Layout} {root : WrittenNode}
    (written : layout.markup.written = [root]) :
    root.find "a:p" = (layout.shapes.flatMap (·.paragraphs)).flatMap (·.markup.written) := by
  have shapes := flatMap_shapesMarkup (Node.found "a:p")
    (fun shape id => shape.found_markup id (by decide)) 2 layout.shapes
  rw [← Node.found_eq_find written, found_markup layout (by decide), shapes, List.flatMap_assoc]
  simp only [Paragraph.found_paragraph]

/-- A slide has a text exactly if the hundredths of all sizes and spaces fit into 32 bits. The text tells these
hundredths and the margin of every bullet, which fits into 64 bits. -/
theorem measures_iff_hundredths_fit (layout : Layout) :
    (layout.toXml?.isSome = true ↔
      ∀ paragraph ∈ layout.shapes.flatMap (·.paragraphs), paragraph.Fits) ∧
    (∀ text ∈ layout.toXml?, ∃ root, WrittenNode.ofDocument? text = some root ∧
      List.Forall₂ (WrittenNode.Measures 100) (root.find "a:p") (layout.shapes.flatMap (·.paragraphs))) ∧
    ∀ level, (wordMargin level).toInt = 342900 + 400050 * level.toNat := by
  refine ⟨?_, fun text made => ?_, toInt_wordMargin⟩
  · rw [isSome_toXml?_iff, Fits, List.forall_mem_flatMap]
  · obtain ⟨scaled, scales, rfl⟩ := toXml?_eq_some_iff.mp made
    obtain ⟨root, written, read⟩ := scaled.ofDocument?_document
    refine ⟨root, read, ?_⟩
    rw [find_paragraphs written]
    exact Paragraph.measures_written scales.paragraphs

/-- One point more than fits, and 4294967300 is written nowhere. -/
theorem large_size_not_written : ¬ ∀ layout : Layout, ∃ text root, layout.toXml? = some text ∧
    WrittenNode.ofDocument? text = some root ∧
    List.Forall₂ (WrittenNode.Measures 100) (root.find "a:p") (layout.shapes.flatMap (·.paragraphs)) := by
  intro always
  obtain ⟨text, root, made, -⟩ := always oversized
  rw [toXml?_oversized] at made
  cases made

end Layout

end SlidePress
