import Mathlib
import SlidePress.Proofs.SlideMarkup
import SlidePress.Proofs.SlideScaling

/-! Slides with the same text are the same. Each field of a slide is found in one place of the tree that
is read from the text: numbers by their digits, choices by the values or the tags that they lead to.
There is a text only for slides of which the measures fit, and what is written in the body of a shape is
lost if it has no paragraphs. -/

namespace SlidePress

open Xml (Node StartTag WrittenNode tag)

namespace Xml

theorem StartTag.ofTexts_inj {name other : String} {first second : List (String × String)} :
    ofTexts name first = ofTexts other second ↔ name = other ∧ first = second := by
  have chars : Function.Injective fun item : String × String => (item.1.toList, item.2.toList) := by
    rintro ⟨key, value⟩ ⟨key', value'⟩ same
    simpa [String.toList_inj] using same
  rw [ofTexts, ofTexts, StartTag.mk.injEq, String.toList_inj, (List.map_injective_iff.mpr chars).eq_iff]

theorem Node.written_tag_inj {name other : String} {first second : List (String × String)}
    {children others : List Node} :
    (tag name first children).written = (tag other second others).written ↔
      (name = other ∧ first = second) ∧ children.flatMap written = others.flatMap written := by
  rw [written_tag, written_tag, List.singleton_inj, WrittenNode.element.injEq, StartTag.ofTexts_inj]

/-- Nodes that are one element each can be told apart one by one. -/
theorem Node.written_cons_inj {node other : Node} {nodes others : List Node}
    (same : (node :: nodes).flatMap written = (other :: others).flatMap written)
    (one : node.written.length = 1) (one' : other.written.length = 1) :
    node.written = other.written ∧ nodes.flatMap written = others.flatMap written :=
  List.append_inj same (one.trans one'.symm)

theorem Node.written_text_inj {content other : String}
    (same : (Node.text content).written = (Node.text other).written) : content = other := by
  rw [← WrittenNode.content_text (.ofTexts "" []) content, same, WrittenNode.content_text]

end Xml

namespace Color

theorem hexByte_inj {first second : UInt8} (same : hexByte first = hexByte second) : first = second := by
  have digits : ∀ m < 16, ∀ n < 16, hexDigit m = hexDigit n → m = n := by decide
  have small := first.toNat_lt
  have small' := second.toNat_lt
  rw [hexByte, hexByte, List.cons.injEq, List.singleton_inj] at same
  have high := digits _ (by omega) _ (by omega) same.1
  have low := digits _ (by omega) _ (by omega) same.2
  exact UInt8.toNat_inj.mp (by omega)

theorem hex_inj {color other : Color} (same : color.hex = other.hex) : color = other := by
  have bytes := String.ofList_inj.mp same
  rw [List.append_assoc, List.append_assoc] at bytes
  obtain ⟨red, rest⟩ := List.append_inj bytes rfl
  obtain ⟨green, blue⟩ := List.append_inj rest rfl
  rw [Color.mk.injEq]
  exact ⟨hexByte_inj red, hexByte_inj green, hexByte_inj blue⟩

theorem fill_inj {color other : Color} (same : color.fill.written = other.fill.written) :
    color = other := by
  simp only [fill, Node.written_tag_inj, List.flatMap_singleton, List.singleton_inj, Prod.mk.injEq] at same
  exact hex_inj same.2.1.2.2

end Color

theorem Align.code_inj {align other : Align} (same : align.code = other.code) : align = other := by
  cases align <;> cases other <;> first | rfl | exact absurd same (by decide)

theorem Anchor.code_inj {anchor other : Anchor} (same : anchor.code = other.code) : anchor = other := by
  cases anchor <;> cases other <;> first | rfl | exact absurd same (by decide)

namespace Paragraph

variable {paragraph other : Paragraph}

theorem properties_inj (same : paragraph.properties.written = other.properties.written) :
    paragraph.align = other.align ∧ paragraph.bullet = other.bullet ∧
      paragraph.spaceBefore = other.spaceBefore := by
  rw [properties, properties, Node.written_tag_inj, List.cons.injEq, Prod.mk.injEq] at same
  obtain ⟨⟨-, ⟨-, align⟩, placing⟩, children⟩ := same
  have bullets : paragraph.bullet = other.bullet := by
    cases own : paragraph.bullet with
    | none =>
      cases new : other.bullet with
      | none => rfl
      | some level => simp [own, new] at placing
    | some level =>
      cases new : other.bullet with
      | none => simp [own, new] at placing
      | some level' =>
        simp only [own, new, List.cons.injEq, Prod.mk.injEq] at placing
        rw [UInt32.toNat_inj.mp (Nat.repr_injective placing.1.2)]
  rw [bullets, List.flatMap_append, List.flatMap_append, List.append_left_inj] at children
  refine ⟨Align.code_inj align, bullets, ?_⟩
  cases own : paragraph.spaceBefore with
  | none =>
    cases new : other.spaceBefore with
    | none => rfl
    | some points => simp [own, new, Node.written_tag] at children
  | some points =>
    cases new : other.spaceBefore with
    | none => simp [own, new, Node.written_tag] at children
    | some points' =>
      simp only [own, new, List.flatMap_singleton, Node.written_tag_inj, List.singleton_inj,
        Prod.mk.injEq] at children
      rw [UInt32.toNat_inj.mp (Nat.repr_injective children.2.1.2.2)]

theorem runAttributes_inj (same : paragraph.runAttributes = other.runAttributes) :
    paragraph.size = other.size ∧ paragraph.bold = other.bold := by
  rw [runAttributes, runAttributes, List.append_left_inj] at same
  obtain ⟨front, back⟩ := List.append_inj same rfl
  simp only [List.cons.injEq, Prod.mk.injEq] at front
  refine ⟨UInt32.toNat_inj.mp (Nat.repr_injective front.2.1.2), ?_⟩
  cases own : paragraph.bold <;> cases new : other.bold <;> simp_all

theorem runFormat_inj
    (same : paragraph.runFormat.flatMap Node.written = other.runFormat.flatMap Node.written) :
    paragraph.color = other.color ∧ paragraph.font = other.font := by
  obtain ⟨color, fonts⟩ := Node.written_cons_inj same rfl rfl
  refine ⟨Color.fill_inj color, ?_⟩
  cases own : paragraph.font with
  | none =>
    cases new : other.font with
    | none => rfl
    | some font => simp [own, new, Node.written_tag] at fonts
  | some font =>
    cases new : other.font with
    | none => simp [own, new, Node.written_tag] at fonts
    | some font' =>
      simp [own, new, Node.written_tag, StartTag.ofTexts_inj] at fonts
      rw [fonts]

/-- The text of a paragraph and the format of its run, which it has in either case. -/
theorem run_inj (same : paragraph.markup.written = other.markup.written) :
    paragraph.text = other.text ∧ paragraph.runAttributes = other.runAttributes ∧
      paragraph.runFormat.flatMap Node.written = other.runFormat.flatMap Node.written := by
  rw [markup, markup, Node.written_tag_inj] at same
  obtain ⟨-, run⟩ := Node.written_cons_inj same.2 rfl rfl
  rw [List.flatMap_singleton, List.flatMap_singleton] at run
  cases own : paragraph.text.isEmpty with
  | true =>
    cases new : other.text.isEmpty with
    | true =>
      simp only [own, new, if_true, Node.written_tag_inj] at run
      refine ⟨?_, run.1.2, run.2⟩
      rw [String.isEmpty_iff.mp own, String.isEmpty_iff.mp new]
    | false => simp [own, new, Node.written_tag_inj] at run
  | false =>
    cases new : other.text.isEmpty with
    | true => simp [own, new, Node.written_tag_inj] at run
    | false =>
      simp only [own, new, Bool.false_eq_true, if_false, Node.written_tag_inj] at run
      obtain ⟨format, text⟩ := Node.written_cons_inj run.2 rfl rfl
      rw [Node.written_tag_inj] at format
      rw [List.flatMap_singleton, List.flatMap_singleton] at text
      refine ⟨?_, format.1.2, format.2⟩
      rw [Node.written_tag_inj, List.flatMap_singleton, List.flatMap_singleton] at text
      exact Node.written_text_inj text.2

theorem markup_inj (same : paragraph.markup.written = other.markup.written) : paragraph = other := by
  obtain ⟨text, attributes, format⟩ := run_inj same
  rw [markup, markup, Node.written_tag_inj] at same
  obtain ⟨properties, -⟩ := Node.written_cons_inj same.2 rfl rfl
  obtain ⟨align, bullet, space⟩ := properties_inj properties
  obtain ⟨size, bold⟩ := runAttributes_inj attributes
  obtain ⟨color, font⟩ := runFormat_inj format
  rw [Paragraph.mk.injEq]
  exact ⟨text, size, bold, color, font, align, bullet, space⟩

/-- Paragraphs one behind another. -/
theorem flatMap_markup_inj {paragraphs others : List Paragraph}
    (same : (paragraphs.map markup).flatMap Node.written = (others.map markup).flatMap Node.written) :
    paragraphs = others := by
  induction paragraphs generalizing others with
  | nil =>
    cases others with
    | nil => rfl
    | cons other others => simp [markup, Node.written_tag] at same
  | cons paragraph paragraphs ih =>
    cases others with
    | nil => simp [markup, Node.written_tag] at same
    | cons other others =>
      rw [List.map_cons, List.map_cons] at same
      obtain ⟨head, tail⟩ := Node.written_cons_inj same rfl rfl
      rw [markup_inj head, ih tail]

end Paragraph

namespace Shape

def HasBody (shape : Shape) : Prop := shape.paragraphs ≠ []

variable {shape other : Shape} {id : Nat}

theorem identity_inj (same : (shape.identity id).written = (other.identity id).written) :
    shape.kind = other.kind := by
  rw [identity, identity, Node.written_tag_inj] at same
  obtain ⟨-, rest⟩ := Node.written_cons_inj same.2 rfl rfl
  obtain ⟨purpose, -⟩ := Node.written_cons_inj rest rfl rfl
  rw [Node.written_tag_inj] at purpose
  cases own : shape.kind <;> cases new : other.kind <;> simp_all

theorem geometry_inj (same : shape.geometry.written = other.geometry.written) :
    shape.frame = other.frame ∧ shape.fill = other.fill := by
  rw [geometry, geometry, Node.written_tag_inj] at same
  obtain ⟨place, rest⟩ := Node.written_cons_inj same.2 rfl rfl
  obtain ⟨-, filling⟩ := Node.written_cons_inj rest rfl rfl
  constructor
  · rw [Node.written_tag_inj] at place
    obtain ⟨corner, rest⟩ := Node.written_cons_inj place.2 rfl rfl
    obtain ⟨extent, -⟩ := Node.written_cons_inj rest rfl rfl
    simp only [Node.written_tag_inj, List.cons.injEq, Prod.mk.injEq] at corner extent
    rw [Frame.mk.injEq]
    exact ⟨Int.repr_injective corner.1.2.1.2, Int.repr_injective corner.1.2.2.1.2,
      Int.repr_injective extent.1.2.1.2, Int.repr_injective extent.1.2.2.1.2⟩
  · cases own : shape.fill with
    | none =>
      cases new : other.fill with
      | none => rfl
      | some color => simp [own, new, Color.fill, Node.written_tag] at filling
    | some color =>
      cases new : other.fill with
      | none => simp [own, new, Color.fill, Node.written_tag] at filling
      | some color' =>
        rw [own, new] at filling
        obtain ⟨area, -⟩ := Node.written_cons_inj filling rfl rfl
        rw [Color.fill_inj area]

theorem textBody_inj (same : shape.textBody.written = other.textBody.written) :
    shape.anchor = other.anchor ∧ shape.wordWrap = other.wordWrap ∧
      shape.paragraphs = other.paragraphs := by
  rw [textBody, textBody, Node.written_tag_inj] at same
  obtain ⟨format, rest⟩ := Node.written_cons_inj same.2 rfl rfl
  obtain ⟨-, paragraphs⟩ := Node.written_cons_inj rest rfl rfl
  simp only [Node.written_tag_inj, List.cons.injEq, Prod.mk.injEq] at format
  refine ⟨?_, ?_, Paragraph.flatMap_markup_inj paragraphs⟩
  · exact Anchor.code_inj format.1.2.2.2.2.2.2.1.2
  · have wrap := format.1.2.1.2
    cases own : shape.wordWrap <;> cases new : other.wordWrap <;> simp_all

theorem markup_inj (body : shape.HasBody) (body' : other.HasBody)
    (same : (shape.markup id).written = (other.markup id).written) : shape = other := by
  rw [markup, markup, Node.written_tag_inj, List.isEmpty_eq_false_iff.mpr body,
    List.isEmpty_eq_false_iff.mpr body'] at same
  obtain ⟨identity, rest⟩ := Node.written_cons_inj same.2 rfl rfl
  obtain ⟨geometry, text⟩ := Node.written_cons_inj rest rfl rfl
  obtain ⟨text, -⟩ := Node.written_cons_inj text rfl rfl
  obtain ⟨frame, fill⟩ := geometry_inj geometry
  obtain ⟨anchor, wordWrap, paragraphs⟩ := textBody_inj text
  rw [Shape.mk.injEq]
  exact ⟨identity_inj identity, frame, fill, anchor, wordWrap, paragraphs⟩

end Shape

namespace Layout

def HasBodies (layout : Layout) : Prop := ∀ shape ∈ layout.shapes, shape.HasBody

theorem shapesMarkup_inj {first : Nat} {shapes others : List Shape} (bodies : ∀ shape ∈ shapes, shape.HasBody)
    (bodies' : ∀ shape ∈ others, shape.HasBody)
    (same : (shapesMarkup first shapes).flatMap Node.written =
      (shapesMarkup first others).flatMap Node.written) : shapes = others := by
  induction shapes generalizing first others with
  | nil =>
    cases others with
    | nil => rfl
    | cons other others => simp [shapesMarkup, Shape.markup, Node.written_tag] at same
  | cons shape shapes ih =>
    cases others with
    | nil => simp [shapesMarkup, Shape.markup, Node.written_tag] at same
    | cons other others =>
      rw [shapesMarkup, shapesMarkup] at same
      obtain ⟨head, tail⟩ := Node.written_cons_inj same rfl rfl
      rw [List.forall_mem_cons] at bodies bodies'
      rw [Shape.markup_inj bodies.1 bodies'.1 head, ih bodies.2 bodies'.2 tail]

theorem markup_inj {layout other : Layout} (bodies : layout.HasBodies) (bodies' : other.HasBodies)
    (same : layout.markup.written = other.markup.written) : layout = other := by
  rw [markup, markup, Node.written_tag_inj] at same
  obtain ⟨slide, -⟩ := Node.written_cons_inj same.2 rfl rfl
  rw [Node.written_tag_inj] at slide
  obtain ⟨background, rest⟩ := Node.written_cons_inj slide.2 rfl rfl
  obtain ⟨tree, -⟩ := Node.written_cons_inj rest rfl rfl
  rw [Node.written_tag_inj] at background
  obtain ⟨area, -⟩ := Node.written_cons_inj background.2 rfl rfl
  rw [Node.written_tag_inj] at area
  obtain ⟨color, -⟩ := Node.written_cons_inj area.2 rfl rfl
  rw [shapeTree, shapeTree, Node.written_tag_inj, List.flatMap_append, List.flatMap_append,
    List.append_right_inj] at tree
  rw [Layout.mk.injEq]
  exact ⟨Color.fill_inj color, shapesMarkup_inj bodies bodies' tree.2⟩

private theorem document_injOn : Set.InjOn document {layout | layout.HasBodies} := by
  intro layout bodies other bodies' same
  obtain ⟨root, written, read⟩ := layout.ofDocument?_document
  obtain ⟨root', written', read'⟩ := other.ofDocument?_document
  rw [same, read', Option.some_inj] at read
  refine markup_inj bodies bodies' ?_
  rw [written, written', read]

end Layout

/-! Nothing is lost when a slide is scaled. -/

theorem hundredfold_injective : Function.Injective fun points : UInt32 => 100 * points.toNat := by
  intro points other same
  exact UInt32.toNat_inj.mp (Nat.eq_of_mul_eq_mul_left (by decide) same)

private theorem Paragraph.leftUnique_scales : Relator.LeftUnique Scales := by
  rintro paragraph other _ ⟨size, space, rfl, own, gap⟩ ⟨size', space', same, own', gap'⟩
  rw [Paragraph.mk.injEq] at same
  obtain ⟨text, rfl, bold, color, font, align, bullet, rfl⟩ := same
  rw [Paragraph.mk.injEq]
  exact ⟨text, hundredfold_injective (own.symm.trans own'), bold, color, font, align, bullet,
    Option.map_injective hundredfold_injective (gap.symm.trans gap')⟩

private theorem Shape.leftUnique_scales : Relator.LeftUnique Scales := by
  rintro shape other _ ⟨paragraphs, own, rfl⟩ ⟨paragraphs', own', same⟩
  rw [Shape.mk.injEq] at same
  obtain ⟨kind, frame, fill, anchor, wordWrap, rfl⟩ := same
  rw [Shape.mk.injEq]
  exact ⟨kind.symm, frame.symm, fill.symm, anchor.symm, wordWrap.symm,
    Paragraph.leftUnique_scales.forall₂ own own'⟩

namespace Layout

private theorem leftUnique_scales : Relator.LeftUnique Scales := by
  rintro layout other _ ⟨shapes, own, rfl⟩ ⟨shapes', own', same⟩
  rw [Layout.mk.injEq] at same
  obtain ⟨background, rfl⟩ := same
  rw [Layout.mk.injEq]
  exact ⟨background.symm, Shape.leftUnique_scales.forall₂ own own'⟩

private theorem Scales.hasBodies {layout scaled : Layout} (scales : layout.Scales scaled)
    (bodies : layout.HasBodies) :
    scaled.HasBodies := by
  have length (shape scaled : Shape) (own : shape.Scales scaled) :
      shape.paragraphs.length = scaled.paragraphs.length := by
    obtain ⟨paragraphs, related, rfl⟩ := own
    exact related.length_eq
  intro shape member empty
  have known := List.mem_map_of_mem (f := fun shape => shape.paragraphs.length) member
  rw [← scales.map_eq length] at known
  obtain ⟨before, inside, same⟩ := List.mem_map.mp known
  rw [empty] at same
  exact bodies before inside (List.length_eq_zero_iff.mp same)

/-- Slides with bodies in all of their shapes, and with sizes and spaces that fit, have texts, and no two of
them have the same. -/
theorem toXml_injOn : (∀ layout : Layout, layout.Fits → ∃ text, layout.toXml? = some text) ∧
    Set.InjOn toXml? {layout | layout.HasBodies ∧ layout.Fits} := by
  have exist (layout : Layout) (fits : layout.Fits) : ∃ text, layout.toXml? = some text :=
    Option.isSome_iff_exists.mp (isSome_toXml?_iff.mpr fits)
  refine ⟨exist, ?_⟩
  rintro layout ⟨bodies, fits⟩ other ⟨bodies', -⟩ same
  obtain ⟨text, made⟩ := exist layout fits
  obtain ⟨scaled, scales, rfl⟩ := toXml?_eq_some_iff.mp made
  obtain ⟨scaled', scales', written⟩ := toXml?_eq_some_iff.mp (same.symm.trans made)
  obtain rfl := document_injOn (scales'.hasBodies bodies') (scales.hasBodies bodies) written
  exact leftUnique_scales scales scales'

theorem toXml_oneText_ne : (∃ text, (oneText "<" "Arial").toXml? = some text) ∧
    (oneText "<" "Arial").toXml? ≠ (oneText "&lt;" "Arial").toXml? := by
  have inside (text : String) : (oneText text "Arial").HasBodies ∧ (oneText text "Arial").Fits := by
    refine ⟨fun shape member => ?_, fits_oneText text "Arial"⟩
    obtain rfl := List.mem_singleton.mp member
    exact List.cons_ne_nil _ _
  obtain ⟨exist, distinct⟩ := toXml_injOn
  refine ⟨exist _ (fits_oneText "<" "Arial"), fun same => ?_⟩
  have texts := congrArg Layout.texts (distinct (inside "<") (inside "&lt;") same)
  exact absurd texts (by decide)

end Layout

end SlidePress
