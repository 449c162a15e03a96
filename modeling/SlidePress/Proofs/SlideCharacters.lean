import SlidePress.Package.Properties
import SlidePress.Proofs.MarkupCharacters
import SlidePress.Proofs.SlideMarkup
import SlidePress.Proofs.SlideScaling

/-! The characters of slides and of the part with the title. Numbers, colors and names are harmless, so
that what is written is well formed exactly if the texts and the names of fonts are. -/

namespace SlidePress

open Xml (Node tag isAllowed isAllowedText)

theorem isAllowedText_append (front back : String) :
    isAllowedText (front ++ back) = (isAllowedText front && isAllowedText back) := by
  rw [isAllowedText, String.toList_append, List.all_append]
  rfl

theorem isAllowedText_nat (n : Nat) : isAllowedText n.repr = true := by
  rw [isAllowedText, Nat.repr, String.toList_ofList]
  exact List.all_eq_true.mpr fun c member =>
    Xml.isAllowed_of_isDigit (Nat.isDigit_of_mem_toDigits (by decide) (by decide) member)

private theorem isAllowedText_int (n : Int) : isAllowedText n.repr = true := by
  have sign : isAllowedText "-" = true := by decide
  cases n with
  | ofNat n => exact isAllowedText_nat n
  | negSucc n => rw [Int.repr, isAllowedText_append, sign, isAllowedText_nat, Bool.and_self]

private theorem Color.isAllowedText_hex (color : Color) : isAllowedText color.hex = true := by
  have digits : ∀ n < 16, isAllowed (hexDigit n) = true := by decide
  have byte (byte : UInt8) : (hexByte byte).all isAllowed = true := by
    have small := byte.toNat_lt
    have high := digits (byte.toNat / 16) (by omega)
    have low := digits (byte.toNat % 16) (by omega)
    simp [hexByte, high, low]
  simp [isAllowedText, hex, byte, -List.all_eq_true]

private theorem Color.isAllowed_fill (color : Color) : color.fill.isAllowed = true := by
  simp [fill, Node.isAllowed_tag, color.isAllowedText_hex]

namespace Paragraph
variable (paragraph : Paragraph)

def isAllowed : Bool := isAllowedText paragraph.text && paragraph.font.all isAllowedText

private theorem isAllowed_properties : paragraph.properties.isAllowed = true := by
  have aligned : isAllowedText paragraph.align.code = true := by cases paragraph.align <;> decide
  rw [properties, Node.isAllowed_tag]
  cases paragraph.bullet <;> cases paragraph.spaceBefore <;>
    simp +decide [Node.isAllowed_tag, Node.isAllowed, Xml.areAllowed, aligned, isAllowedText_nat]

private theorem isAllowed_runAttributes : paragraph.runAttributes.all (isAllowedText ·.2) = true := by
  rw [runAttributes]
  cases paragraph.bold <;> simp +decide [isAllowedText_nat]

private theorem isAllowed_runFormat :
    paragraph.runFormat.all Node.isAllowed = paragraph.font.all isAllowedText := by
  rw [runFormat, List.all_cons, Color.isAllowed_fill]
  cases paragraph.font <;> simp [Node.isAllowed_tag]

private theorem isAllowed_markup : paragraph.markup.isAllowed = paragraph.isAllowed := by
  have run (name : String) : (tag name paragraph.runAttributes paragraph.runFormat).isAllowed =
      paragraph.font.all isAllowedText := by
    rw [Node.isAllowed_tag, isAllowed_runAttributes, isAllowed_runFormat, Bool.true_and]
  rw [markup, isAllowed]
  cases empty : paragraph.text.isEmpty with
  | true =>
    have text : isAllowedText paragraph.text = true := by
      rw [String.isEmpty_iff.mp empty]
      rfl
    simp only [Node.isAllowed_tag, List.all_cons, List.all_nil, isAllowed_properties, run, text, if_true,
      Bool.true_and, Bool.and_true]
  | false =>
    simp only [Node.isAllowed_tag, List.all_cons, List.all_nil, isAllowed_properties, run, Node.isAllowed,
      Bool.false_eq_true, if_false, Bool.true_and, Bool.and_comm]

end Paragraph

namespace Shape
variable (shape : Shape) (id : Nat)

def isAllowed : Bool := shape.paragraphs.all Paragraph.isAllowed

private theorem isAllowed_identity : (shape.identity id).isAllowed = true := by
  rw [identity]
  cases shape.kind <;> simp +decide [Node.isAllowed_tag, isAllowedText_nat, isAllowedText_append]

private theorem isAllowed_geometry : shape.geometry.isAllowed = true := by
  rw [geometry]
  cases shape.fill <;> simp +decide [Node.isAllowed_tag, isAllowedText_int, Color.isAllowed_fill]

private theorem isAllowed_textBody : shape.textBody.isAllowed = shape.isAllowed := by
  have anchored : isAllowedText shape.anchor.code = true := by cases shape.anchor <;> decide
  have wrapped : isAllowedText (if shape.wordWrap then "square" else "none") = true := by
    cases shape.wordWrap <;> decide
  have format : (tag "a:bodyPr" [("wrap", if shape.wordWrap then "square" else "none"),
      ("lIns", "91440"), ("tIns", "45720"), ("rIns", "91440"), ("bIns", "45720"),
      ("anchor", shape.anchor.code), ("rtlCol", "0")] [tag "a:noAutofit"]).isAllowed = true := by
    simp +decide [Node.isAllowed_tag, anchored, wrapped]
  have style : (tag "a:lstStyle").isAllowed = true := by decide
  rw [textBody, Node.isAllowed_tag, List.all_cons, List.all_cons, format, style, List.all_map]
  exact congrArg shape.paragraphs.all (funext Paragraph.isAllowed_markup)

private theorem isAllowed_markup : (shape.markup id).isAllowed = shape.isAllowed := by
  rw [markup, Node.isAllowed_tag, List.all_append, List.all_cons, List.all_cons, isAllowed_identity,
    isAllowed_geometry]
  cases known : shape.paragraphs with
  | nil => simp [isAllowed, known]
  | cons paragraph others =>
    simp [isAllowed_textBody, -List.all_eq_true]

end Shape

namespace Layout
variable (layout : Layout)

def isAllowed : Bool := layout.shapes.all Shape.isAllowed

private theorem isAllowed_shapesMarkup (first : Nat) (shapes : List Shape) :
    (shapesMarkup first shapes).all Node.isAllowed = shapes.all Shape.isAllowed := by
  induction shapes generalizing first with
  | nil => rfl
  | cons shape shapes ih => rw [shapesMarkup, List.all_cons, Shape.isAllowed_markup, ih, List.all_cons]

private theorem isAllowed_markup : layout.markup.isAllowed = layout.isAllowed := by
  have namespaces : slideNamespaces.all (isAllowedText ·.2) = true := by decide
  have background : (tag "p:bg" [] [tag "p:bgPr" [] [layout.background.fill,
      tag "a:effectLst"]]).isAllowed = true := by
    simp +decide [Node.isAllowed_tag, Color.isAllowed_fill]
  have fixed : (shapeTree []).isAllowed = true ∧ inheritedColors.isAllowed = true := by decide
  have tree (shapes : List Node) : (shapeTree shapes).isAllowed = shapes.all Node.isAllowed := by
    rw [shapeTree, Node.isAllowed_tag, List.append_nil, Bool.and_eq_true] at fixed
    rw [shapeTree, Node.isAllowed_tag, List.all_append, fixed.1.2, Bool.true_and]
    rfl
  simp only [markup, Node.isAllowed_tag, List.all_cons, List.all_nil, namespaces, background, tree,
    fixed.2, isAllowed_shapesMarkup, Bool.true_and, Bool.and_true]
  rfl

variable {layout}

theorem Scales.isAllowed {scaled : Layout} (scales : layout.Scales scaled) :
    scaled.isAllowed = layout.isAllowed := by
  have item (paragraph scaled : Paragraph) (own : paragraph.Scales scaled) :
      paragraph.isAllowed = scaled.isAllowed := by
    obtain ⟨size, spaceBefore, rfl, -⟩ := own
    rfl
  have all {β : Type} (items : List β) (allowed : β → Bool) : items.all allowed = (items.map allowed).all id := by
    rw [List.all_map, Function.id_comp]
  have each (shape scaled : Shape) (own : shape.Scales scaled) : shape.isAllowed = scaled.isAllowed := by
    rw [Shape.isAllowed, Shape.isAllowed, all, all scaled.paragraphs, own.map_eq item]
  rw [Layout.isAllowed, Layout.isAllowed, all, all layout.shapes, scales.map_eq each]

/-- A slide follows the grammar with any texts on it, and is well formed with allowed ones. -/
theorem isDocument_toXml? {text : String} (made : layout.toXml? = some text) : Xml.IsDocument text.toList := by
  obtain ⟨scaled, -, rfl⟩ := toXml?_eq_some_iff.mp made
  exact Xml.isDocument_document scaled.isSound_markup

theorem isWellFormed_toXml? {text : String} (made : layout.toXml? = some text) :
    Xml.IsWellFormed text ↔ layout.isAllowed = true := by
  obtain ⟨scaled, scales, rfl⟩ := toXml?_eq_some_iff.mp made
  rw [← scales.isAllowed, ← isAllowed_markup]
  exact Xml.isWellFormed_document scaled.isSound_markup

end Layout

namespace Properties
variable (title created : String)

private theorem isSound_coreMarkup : (coreMarkup title created).isSound = true := by
  simp +decide [coreMarkup, indented, Node.isSound_tag, Node.isSound]

private theorem isAllowed_coreMarkup :
    (coreMarkup title created).isAllowed = (isAllowedText title && isAllowedText created) := by
  rw [Bool.eq_iff_iff]
  simp +decide [coreMarkup, indented, Node.isAllowed_tag, Node.isAllowed]

theorem corePart_grammar : Xml.IsDocument (corePart title created).toList :=
  Xml.isDocument_document (isSound_coreMarkup title created)

theorem isWellFormed_corePart : Xml.IsWellFormed (corePart title created) ↔
    isAllowedText title = true ∧ isAllowedText created = true := by
  rw [← Bool.and_eq_true, ← isAllowed_coreMarkup]
  exact Xml.isWellFormed_document (isSound_coreMarkup title created)

end Properties

end SlidePress
