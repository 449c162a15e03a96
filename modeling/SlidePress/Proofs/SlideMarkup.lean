import SlidePress.Layout.Markup
import SlidePress.Proofs.MarkupGrammar
import SlidePress.Proofs.MarkupTree

/-! The markup of a slide and what is found in it: an element for each shape and each paragraph, and the
texts of those paragraphs that have one. -/

namespace SlidePress

open Xml (Node StartTag WrittenNode tag areNames)

/-! All names are names, and the attributes of each element have different ones. -/

private theorem Color.isSound_fill (color : Color) : color.fill.isSound = true := by
  simp +decide [fill, Node.isSound_tag]

namespace Paragraph
variable (paragraph : Paragraph)

private theorem isSound_properties : paragraph.properties.isSound = true := by
  rw [properties, Node.isSound_tag]
  cases paragraph.bullet <;> cases paragraph.spaceBefore <;>
    simp +decide [Node.isSound_tag, Node.isSound, Xml.areSound]

private theorem isSound_runFormat : paragraph.runFormat.all Node.isSound = true := by
  rw [runFormat, List.all_cons, Color.isSound_fill]
  cases paragraph.font <;> simp +decide [Node.isSound_tag]

/-- The attributes of a run, which either of two elements has. -/
theorem areNames_runAttributes : (areNames "a:rPr" (paragraph.runAttributes.map (·.1)) &&
    areNames "a:endParaRPr" (paragraph.runAttributes.map (·.1))) = true := by
  have keys : paragraph.runAttributes.map (·.1) =
      if paragraph.bold then ["lang", "sz", "b", "dirty"] else ["lang", "sz", "dirty"] := by
    rw [runAttributes]
    cases paragraph.bold <;> rfl
  rw [keys]
  cases paragraph.bold <;> decide

theorem isSound_markup : paragraph.markup.isSound = true := by
  have run := paragraph.areNames_runAttributes
  have names : (areNames "a:p" [] && areNames "a:r" [] && areNames "a:t" []) = true := by decide
  rw [Bool.and_eq_true] at run
  simp only [Bool.and_eq_true] at names
  rw [markup]
  cases paragraph.text.isEmpty <;>
    simp [Node.isSound_tag, names, run, isSound_properties, -List.all_eq_true, isSound_runFormat,
      Node.isSound]

end Paragraph

namespace Shape
variable (shape : Shape) (id : Nat)

private theorem isSound_identity : (shape.identity id).isSound = true := by
  rw [identity]
  cases shape.kind <;> simp +decide [Node.isSound_tag]

private theorem isSound_geometry : shape.geometry.isSound = true := by
  rw [geometry]
  cases shape.fill <;> simp +decide [Node.isSound_tag, Color.isSound_fill]

private theorem isSound_textBody : shape.textBody.isSound = true := by
  simp +decide [textBody, Node.isSound_tag, Paragraph.isSound_markup]

theorem isSound_markup : (shape.markup id).isSound = true := by
  rw [markup]
  cases shape.paragraphs.isEmpty <;>
    simp +decide [Node.isSound_tag, isSound_identity, isSound_geometry, isSound_textBody]

end Shape

namespace Layout

private theorem isSound_shapesMarkup (first : Nat) (shapes : List Shape) :
    (shapesMarkup first shapes).all Node.isSound = true := by
  induction shapes generalizing first with
  | nil => rfl
  | cons shape shapes ih => rw [shapesMarkup, List.all_cons, Shape.isSound_markup, ih, Bool.and_self]

theorem isSound_markup (layout : Layout) : layout.markup.isSound = true := by
  have shapes := isSound_shapesMarkup 2 layout.shapes
  have root : areNames "p:sld" (slideNamespaces.map (·.1)) = true := by decide
  simp +decide [markup, root, shapeTree, inheritedColors, Node.isSound_tag, Color.isSound_fill, shapes]

theorem isPlain_markup (layout : Layout) : layout.markup.isPlain = true :=
  Node.isPlain_of_isSound layout.isSound_markup

/-- The tree of a slide that is read from its text. -/
theorem ofDocument?_document (layout : Layout) : ∃ root, layout.markup.written = [root] ∧
    WrittenNode.ofDocument? layout.document = some root :=
  ⟨_, Node.written_tag .., WrittenNode.ofDocument?_document layout.isPlain_markup (Node.written_tag ..)⟩

/-! What shapes have in common is found for each of them. -/

theorem flatMap_shapesMarkup {β : Type} (found : Node → List β) {own : Shape → List β}
    (each : ∀ shape id, found (Shape.markup shape id) = own shape) (first : Nat) (shapes : List Shape) :
    (shapesMarkup first shapes).flatMap found = shapes.flatMap own := by
  induction shapes generalizing first with
  | nil => rfl
  | cons shape shapes ih => rw [shapesMarkup, List.flatMap_cons, each, ih, List.flatMap_cons]

theorem flatMap_shapesMarkup_ids {β : Type} (found : Node → List β) {own : Nat → List β}
    (each : ∀ shape id, found (Shape.markup shape id) = own id) (first : Nat) (shapes : List Shape) :
    (shapesMarkup first shapes).flatMap found = (List.range' first shapes.length).flatMap own := by
  induction shapes generalizing first with
  | nil => rfl
  | cons shape shapes ih =>
    rw [shapesMarkup, List.flatMap_cons, each, ih, List.length_cons, List.range'_succ, List.flatMap_cons]

end Layout

/-! Elements of a paragraph, of a shape and of a slide. -/

def contentNames : List String := ["p:sp", "p:cNvPr", "a:p", "a:t"]

/-- An element with another name is looked through. -/
theorem found_frame {element name : String} (other : element ∉ contentNames) (sought : name ∈ contentNames)
    (attributes : List (String × String)) (children : List Node) :
    (tag element attributes children).found name = children.flatMap (Node.found name) := by
  refine Node.found_element name element _ children fun same => other ?_
  rw [same]
  exact sought

private theorem Color.found_fill (color : Color) {name : String} (sought : name ∈ contentNames) :
    color.fill.found name = [] := by
  have frame {element : String} (other : element ∉ contentNames) := found_frame other sought
  simp (disch := decide) only [fill, frame, List.flatMap_cons, List.flatMap_nil, List.append_nil]

namespace Paragraph
variable (paragraph : Paragraph)

private theorem found_properties {name : String} (sought : name ∈ contentNames) :
    paragraph.properties.found name = [] := by
  have frame {element : String} (other : element ∉ contentNames) := found_frame other sought
  have sign : (Node.element "a:buChar" [⟨"char", .codePoint '•'⟩] []).found name = [] :=
    Node.found_element name _ _ [] fun same => absurd (same ▸ sought) (by decide)
  rw [properties, frame (by decide)]
  cases paragraph.bullet <;> cases paragraph.spaceBefore <;> simp (disch := decide) [frame, sign]

private theorem found_runFormat {name : String} (sought : name ∈ contentNames) :
    paragraph.runFormat.flatMap (Node.found name) = [] := by
  have frame {element : String} (other : element ∉ contentNames) := found_frame other sought
  rw [runFormat, List.flatMap_cons, Color.found_fill _ sought]
  cases paragraph.font <;> simp (disch := decide) [frame]

def shownTexts : List String := [paragraph.text].filter (· ≠ "")

theorem found_text : (paragraph.markup.found "a:t").map (·.content) = paragraph.shownTexts := by
  have sought : "a:t" ∈ contentNames := by decide
  rw [markup, shownTexts]
  cases empty : paragraph.text.isEmpty with
  | true =>
    simp [Node.found_tag, found_properties _ sought, found_runFormat _ sought, String.isEmpty_iff.mp empty]
  | false =>
    have something : paragraph.text ≠ "" := by
      intro nothing
      rw [nothing] at empty
      contradiction
    simp [Node.found_tag, found_properties _ sought, found_runFormat _ sought, something, Node.found_text,
      WrittenNode.content_text]

theorem found_paragraph : paragraph.markup.found "a:p" = paragraph.markup.written := by
  have sought : "a:p" ∈ contentNames := by decide
  rw [markup]
  cases paragraph.text.isEmpty <;>
    simp [Node.found_tag, Node.written_tag, found_properties _ sought, found_runFormat _ sought,
      Node.found_text]

theorem found_markup {name : String} (other : name ∈ ["p:sp", "p:cNvPr"]) :
    paragraph.markup.found name = [] := by
  have sought : name ∈ contentNames := List.mem_append_left ["a:p", "a:t"] other
  simp only [List.mem_cons, List.not_mem_nil, or_false] at other
  rw [markup]
  obtain rfl | rfl := other <;> cases paragraph.text.isEmpty <;>
    simp [Node.found_tag, found_properties _ sought, found_runFormat _ sought, Node.found_text]

end Paragraph

namespace Shape
variable (shape : Shape) (id : Nat)

private theorem found_geometry {name : String} (sought : name ∈ contentNames) :
    shape.geometry.found name = [] := by
  have frame {element : String} (other : element ∉ contentNames) := found_frame other sought
  rw [geometry, frame (by decide)]
  cases shape.fill with
  | none => simp (disch := decide) [frame]
  | some color => simp (disch := decide) [frame, Color.found_fill color sought]

private theorem found_textBody {name : String} (sought : name ∈ contentNames) :
    shape.textBody.found name = shape.paragraphs.flatMap fun paragraph => paragraph.markup.found name := by
  have frame {element : String} (other : element ∉ contentNames) := found_frame other sought
  rw [textBody, frame (by decide)]
  simp (disch := decide) [frame, List.flatMap_map]

/-- A shape without paragraphs has no body, and nothing is found there either way. -/
theorem found_children {name : String} (sought : name ∈ contentNames) :
    ([shape.identity id, shape.geometry] ++ if shape.paragraphs.isEmpty then [] else
      [shape.textBody]).flatMap (Node.found name) =
        (shape.identity id).found name ++
          shape.paragraphs.flatMap fun paragraph => paragraph.markup.found name := by
  have body : (if shape.paragraphs.isEmpty then [] else [shape.textBody]).flatMap (Node.found name) =
      shape.paragraphs.flatMap fun paragraph => paragraph.markup.found name := by
    cases paragraphs : shape.paragraphs with
    | nil => rfl
    | cons paragraph others =>
      rw [List.isEmpty_cons, if_neg Bool.false_ne_true, List.flatMap_singleton, found_textBody _ sought,
        paragraphs]
  rw [List.flatMap_append, body, List.flatMap_cons, List.flatMap_singleton, found_geometry _ sought,
    List.append_nil]

theorem found_shape : (shape.markup id).found "p:sp" = (shape.markup id).written := by
  have paragraphs : shape.paragraphs.flatMap (fun paragraph => paragraph.markup.found "p:sp") = [] :=
    List.flatMap_eq_nil_iff.mpr fun paragraph _ => paragraph.found_markup (by decide)
  have identity : (shape.identity id).found "p:sp" = [] := by simp [identity, Node.found_tag]
  rw [markup, Node.found_tag, Node.written_tag, found_children _ _ (by decide), identity, paragraphs]
  rfl

theorem found_markup {name : String} (other : name ∈ ["a:p", "a:t"]) :
    (shape.markup id).found name =
      shape.paragraphs.flatMap fun paragraph => paragraph.markup.found name := by
  have sought : name ∈ contentNames := List.mem_append_right ["p:sp", "p:cNvPr"] other
  simp only [List.mem_cons, List.not_mem_nil, or_false] at other
  have identity : (shape.identity id).found name = [] := by
    rw [identity]
    obtain rfl | rfl := other <;> simp [Node.found_tag]
  have root : "p:sp" ≠ name := by obtain rfl | rfl := other <;> decide
  rw [markup, Node.found_tag, if_neg (by simpa using root), found_children _ _ sought, identity,
    List.nil_append]

theorem found_id : ((shape.markup id).found "p:cNvPr").map (·.value "id") = [toString id] := by
  have paragraphs : shape.paragraphs.flatMap (fun paragraph => paragraph.markup.found "p:cNvPr") = [] :=
    List.flatMap_eq_nil_iff.mpr fun paragraph _ => paragraph.found_markup (by decide)
  rw [markup, Node.found_tag, found_children _ _ (by decide), paragraphs, identity]
  simp [Node.found_tag, WrittenNode.value_element]

end Shape

namespace Layout
variable (layout : Layout)

theorem found_markup {name : String} (other : name ∈ ["p:sp", "a:p", "a:t"]) :
    layout.markup.found name = (shapesMarkup 2 layout.shapes).flatMap (Node.found name) := by
  have sought : name ∈ contentNames := by
    simp only [List.mem_cons, List.not_mem_nil, or_false] at other
    obtain rfl | rfl | rfl := other <;> decide
  have background := Color.found_fill layout.background sought
  simp only [List.mem_cons, List.not_mem_nil, or_false] at other
  rw [markup, shapeTree, inheritedColors]
  obtain rfl | rfl | rfl := other <;> simp [Node.found_tag, background]

theorem found_ids : (layout.markup.found "p:cNvPr").map (·.value "id") =
    (List.range' 1 (layout.shapes.length + 1)).map toString := by
  have background := Color.found_fill layout.background (by decide : "p:cNvPr" ∈ contentNames)
  have shapes := flatMap_shapesMarkup_ids (fun node => (node.found "p:cNvPr").map (·.value "id"))
    Shape.found_id 2 layout.shapes
  have found : layout.markup.found "p:cNvPr" =
      .element (.ofTexts "p:cNvPr" [("id", "1"), ("name", "")]) [] ::
        (shapesMarkup 2 layout.shapes).flatMap (Node.found "p:cNvPr") := by
    rw [markup, shapeTree, inheritedColors]
    simp [Node.found_tag, background]
  rw [found, List.map_cons, List.map_flatMap, shapes, WrittenNode.value_element, List.range'_succ,
    List.map_cons, List.map_eq_flatMap]
  rfl

end Layout

end SlidePress
