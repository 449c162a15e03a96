import Mathlib
import SlidePress.Proofs.SlideMarkup
import SlidePress.Proofs.SlideScaling

/-! The structure of a slide does not depend on its texts. From the text of a slide its shapes, its
paragraphs and their texts are read back one for one, whatever the texts look like; and slides that
differ in nothing but texts and names of fonts have the same tags. -/

namespace SlidePress

open Xml (Node StartTag WrittenNode Event Attribute tag)

/-- A tree shows a slide if it has an element for each shape and in it one for each paragraph, in order
and with their texts, and if the identifiers count the group of all shapes and the shapes. -/
structure Xml.WrittenNode.Shows (root : WrittenNode) (layout : Layout) : Prop where
  texts : root.texts "a:t" = layout.texts.filter (· ≠ "")
  shapes : (root.find "p:sp").map (fun shape => (shape.find "a:p").map (·.texts "a:t")) =
    layout.shapes.map fun shape => shape.paragraphs.map Paragraph.shownTexts
  paragraphs : (root.find "a:p").map (·.texts "a:t") =
    layout.shapes.flatMap fun shape => shape.paragraphs.map Paragraph.shownTexts
  ids : (root.find "p:cNvPr").map (·.value "id") =
    (List.range' 1 (layout.shapes.length + 1)).map toString
  distinct : ((root.find "p:cNvPr").map (·.value "id")).Nodup
  shapeIds : (root.find "p:sp").map (fun shape => (shape.find "p:cNvPr").map (·.value "id")) =
    (List.range' 2 layout.shapes.length).map fun id => [toString id]

namespace Paragraph

private theorem texts_markup (paragraph : Paragraph) :
    paragraph.markup.written.map (·.texts "a:t") = [paragraph.shownTexts] := by
  obtain ⟨root, written⟩ : ∃ root, paragraph.markup.written = [root] := ⟨_, Node.written_tag ..⟩
  rw [written, List.map_singleton, WrittenNode.texts, ← Node.found_eq_find written, found_text]

end Paragraph

namespace Shape
variable (shape : Shape) (id : Nat)

private theorem paragraphs_markup : ((shape.markup id).found "a:p").map (·.texts "a:t") =
    shape.paragraphs.map Paragraph.shownTexts := by
  rw [found_markup shape id (by decide), List.map_flatMap, List.map_eq_flatMap]
  refine List.flatMap_congr fun paragraph _ => ?_
  rw [Paragraph.found_paragraph, Paragraph.texts_markup]

private theorem texts_markup : ((shape.markup id).found "a:t").map (·.content) =
    (shape.paragraphs.map (·.text)).filter (· ≠ "") := by
  rw [found_markup shape id (by decide), List.map_flatMap, List.map_eq_flatMap, List.filter_flatMap]
  exact List.flatMap_congr fun paragraph _ => paragraph.found_text

/-- What is read of the one element of a shape. -/
theorem map_written {β : Type} (read : List WrittenNode → β) (name : String) :
    (shape.markup id).written.map (fun root => read (root.find name)) =
      [read ((shape.markup id).found name)] := by
  obtain ⟨root, written⟩ : ∃ root, (shape.markup id).written = [root] := ⟨_, Node.written_tag ..⟩
  rw [Node.found_eq_find written, written]
  rfl

end Shape

namespace Layout

variable (layout : Layout)

private theorem texts_markup :
    (layout.markup.found "a:t").map (·.content) = layout.texts.filter (· ≠ "") := by
  rw [found_markup _ (by decide), List.map_flatMap, texts, List.filter_flatMap]
  exact flatMap_shapesMarkup (fun node => (node.found "a:t").map (·.content)) Shape.texts_markup _ _

private theorem paragraphs_markup : (layout.markup.found "a:p").map (·.texts "a:t") =
    layout.shapes.flatMap fun shape => shape.paragraphs.map Paragraph.shownTexts := by
  rw [found_markup _ (by decide), List.map_flatMap]
  exact flatMap_shapesMarkup (fun node => (node.found "a:p").map (·.texts "a:t"))
    Shape.paragraphs_markup _ _

private theorem shapes_markup :
    (layout.markup.found "p:sp").map (fun shape => (shape.find "a:p").map (·.texts "a:t")) =
      layout.shapes.map fun shape => shape.paragraphs.map Paragraph.shownTexts := by
  rw [found_markup _ (by decide), List.map_flatMap, List.map_eq_flatMap]
  refine flatMap_shapesMarkup
    (fun node => (node.found "p:sp").map fun shape => (shape.find "a:p").map (·.texts "a:t"))
    (fun shape id => ?_) _ _
  rw [Shape.found_shape, Shape.map_written shape id (List.map (·.texts "a:t")), Shape.paragraphs_markup]

private theorem shapeIds_markup :
    (layout.markup.found "p:sp").map (fun shape => (shape.find "p:cNvPr").map (·.value "id")) =
      (List.range' 2 layout.shapes.length).map fun id => [toString id] := by
  rw [found_markup _ (by decide), List.map_flatMap, List.map_eq_flatMap]
  refine flatMap_shapesMarkup_ids
    (fun node => (node.found "p:sp").map fun shape => (shape.find "p:cNvPr").map (·.value "id"))
    (fun shape id => ?_) _ _
  rw [Shape.found_shape, Shape.map_written shape id (List.map (·.value "id")), Shape.found_id]

private theorem shows_markup {root : WrittenNode} (written : layout.markup.written = [root]) :
    root.Shows layout := by
  have found := Node.found_eq_find written
  have ids : (root.find "p:cNvPr").map (·.value "id") =
      (List.range' 1 (layout.shapes.length + 1)).map toString := by rw [← found, found_ids]
  constructor
  · rw [WrittenNode.texts, ← found, texts_markup]
  · rw [← found, shapes_markup]
  · rw [← found, paragraphs_markup]
  · exact ids
  · rw [ids]
    exact List.Nodup.map (fun first second same => Nat.repr_injective same) List.nodup_range'
  · rw [← found, shapeIds_markup]

end Layout

/-! Tags without the names of fonts. -/

namespace Xml

def StartTag.blank (name : String) (tag : StartTag) : StartTag :=
  ⟨tag.name, tag.attributes.map fun item => if item.1 = name.toList then (item.1, []) else item⟩

theorem StartTag.blank_ofTexts (element name value : String) :
    (StartTag.ofTexts element [(name, value)]).blank name = ⟨element.toList, [(name.toList, [])]⟩ := by
  rw [ofTexts, blank, List.map_singleton, List.map_singleton, if_pos rfl]

namespace Event

def isTag : Event → Bool
  | .char _ => false
  | _ => true

def blank (name : String) : Event → Event
  | .opening tag => .opening (tag.blank name)
  | .single tag => .single (tag.blank name)
  | event => event

end Event

/-- The tags among events, with one attribute left empty. -/
def outlineOf (name : String) (events : List Event) : List Event :=
  (events.filter Event.isTag).map (Event.blank name)

def outline (name text : String) : List Event := outlineOf name (events text.toList)

variable {name : String}

theorem outlineOf_append (front back : List Event) :
    outlineOf name (front ++ back) = outlineOf name front ++ outlineOf name back := by
  rw [outlineOf, List.filter_append, List.map_append]
  rfl

private theorem outlineOf_element (tag : StartTag) (inside : List Event) (closed : List Char) :
    outlineOf name (.opening tag :: (inside ++ [.closing closed])) =
      .opening (tag.blank name) :: (outlineOf name inside ++ [.closing closed]) :=
  congrArg (Event.opening (tag.blank name) :: ·) (outlineOf_append inside [.closing closed])

private theorem outlineOf_text (content : String) : outlineOf name (Node.text content).events = [] := by
  have silent : ∀ event ∈ (Node.text content).events, ¬event.isTag = true := by
    intro event member
    obtain ⟨c, -, rfl⟩ := List.mem_map.mp member
    exact Bool.false_ne_true
  rw [outlineOf, List.filter_eq_nil_iff.mpr silent, List.map_nil]

/-- Two nodes with the same tags but for the values of an attribute. -/
def Node.SameTags (name : String) (node other : Node) : Prop :=
  outlineOf name node.events = outlineOf name other.events

namespace Node.SameTags

theorem rfl {node : Node} : SameTags name node node := Eq.refl _

theorem text (content other : String) : SameTags name (.text content) (.text other) := by
  rw [SameTags, outlineOf_text, outlineOf_text]

theorem children {nodes others : List Node} (same : List.Forall₂ (SameTags name) nodes others) :
    outlineOf name (eventsOf nodes) = outlineOf name (eventsOf others) := by
  induction same with
  | nil => exact Eq.refl _
  | cons head _ tail => rw [eventsOf, eventsOf, outlineOf_append, outlineOf_append, head, tail]

/-- Elements with the same attributes have the same tags if their children have. -/
theorem tag {element : String} {attributes changed : List (String × String)} {nodes others : List Node}
    (own : (StartTag.ofTexts element attributes).blank name = (StartTag.ofTexts element changed).blank name)
    (same : List.Forall₂ (SameTags name) nodes others) :
    SameTags name (Xml.tag element attributes nodes) (Xml.tag element changed others) := by
  cases same with
  | nil =>
    rw [SameTags, events_tag_nil, events_tag_nil]
    exact congrArg (fun tag => [Event.single tag]) own
  | cons head tail =>
    have inside := children (.cons head tail)
    rw [SameTags, events_tag_cons, events_tag_cons, outlineOf_element, outlineOf_element, own, inside]

end Node.SameTags

end Xml

/-! Slides that differ in texts and names of fonts only. -/

/-- Neither a text nor a font is there in one of them only. -/
def Paragraph.Alike (paragraph other : Paragraph) : Prop :=
  ∃ text font, other = { paragraph with text, font } ∧ paragraph.text.isEmpty = text.isEmpty ∧
    paragraph.font.isSome = font.isSome

def Shape.Alike (shape other : Shape) : Prop :=
  ∃ paragraphs, other = { shape with paragraphs } ∧
    List.Forall₂ Paragraph.Alike shape.paragraphs paragraphs

def Layout.Alike (layout other : Layout) : Prop :=
  ∃ shapes, other = { layout with shapes } ∧ List.Forall₂ Shape.Alike layout.shapes shapes

theorem Paragraph.Alike.runFormat {paragraph other : Paragraph} (alike : paragraph.Alike other) :
    List.Forall₂ (Node.SameTags "typeface") paragraph.runFormat other.runFormat := by
  obtain ⟨text, font, rfl, -, named⟩ := alike
  have fonts (element font other : String) : Node.SameTags "typeface"
      (tag element [("typeface", font)]) (tag element [("typeface", other)]) :=
    .tag ((StartTag.blank_ofTexts ..).trans (StartTag.blank_ofTexts ..).symm) .nil
  rw [Paragraph.runFormat, Paragraph.runFormat]
  refine .cons .rfl ?_
  cases known : paragraph.font with
  | none =>
    rw [known, eq_comm, Option.isSome_none, Option.isSome_eq_false_iff, Option.isNone_iff_eq_none] at named
    rw [named]
    exact .nil
  | some own =>
    rw [known, eq_comm, Option.isSome_some, Option.isSome_iff_exists] at named
    obtain ⟨new, named⟩ := named
    rw [named]
    exact .cons (fonts _ own new) (.cons (fonts _ own new) .nil)

theorem Paragraph.Alike.markup {paragraph other : Paragraph} (alike : paragraph.Alike other) :
    Node.SameTags "typeface" paragraph.markup other.markup := by
  have format := alike.runFormat
  obtain ⟨text, font, rfl, empty, -⟩ := alike
  rw [Paragraph.markup, Paragraph.markup, ← empty]
  refine .tag rfl (.cons .rfl (.cons ?_ .nil))
  cases paragraph.text.isEmpty with
  | true => exact .tag rfl format
  | false =>
    refine .tag rfl (.cons (.tag rfl format) (.cons ?_ .nil))
    exact .tag rfl (.cons (.text paragraph.text text) .nil)

theorem Shape.Alike.markup {shape other : Shape} (alike : shape.Alike other) (id : Nat) :
    Node.SameTags "typeface" (shape.markup id) (other.markup id) := by
  obtain ⟨paragraphs, rfl, same⟩ := alike
  have bodies : List.Forall₂ (Node.SameTags "typeface") (shape.paragraphs.map Paragraph.markup)
      (paragraphs.map Paragraph.markup) :=
    List.forall₂_map_left_iff.mpr
      (List.forall₂_map_right_iff.mpr (same.imp fun _ _ => Paragraph.Alike.markup))
  have empty : shape.paragraphs.isEmpty = paragraphs.isEmpty := by
    rw [Bool.eq_iff_iff, List.isEmpty_iff_length_eq_zero, List.isEmpty_iff_length_eq_zero, same.length_eq]
  have body : List.Forall₂ (Node.SameTags "typeface")
      (if shape.paragraphs.isEmpty then [] else [shape.textBody])
      (if paragraphs.isEmpty then [] else [{ shape with paragraphs }.textBody]) := by
    rw [empty]
    cases paragraphs.isEmpty with
    | true => exact .nil
    | false => exact .cons (.tag rfl (.cons .rfl (.cons .rfl bodies))) .nil
  exact .tag rfl (.cons .rfl (.cons .rfl body))

theorem Shape.Alike.shapesMarkup {shapes others : List Shape} (alike : List.Forall₂ Shape.Alike shapes others)
    (first : Nat) : List.Forall₂ (Node.SameTags "typeface") (Layout.shapesMarkup first shapes)
      (Layout.shapesMarkup first others) := by
  induction alike generalizing first with
  | nil => exact .nil
  | cons head _ tail => exact .cons (head.markup first) (tail (first + 1))

/-! What can be scaled of two that are alike is alike. -/

theorem Paragraph.Alike.scaled? {paragraph other : Paragraph} (alike : paragraph.Alike other) :
    Option.Rel Alike paragraph.scaled? other.scaled? := by
  obtain ⟨text, font, rfl, empty, named⟩ := alike
  rw [Paragraph.scaled?, Paragraph.scaled?]
  dsimp only
  split
  next spaceBefore size _ _ => exact .some ⟨text, font, rfl, empty, named⟩
  next => exact .none

theorem Shape.Alike.scaled? {shape other : Shape} (alike : shape.Alike other) :
    Option.Rel Alike shape.scaled? other.scaled? := by
  obtain ⟨paragraphs, rfl, same⟩ := alike
  have each : ∀ paragraph other : Paragraph, paragraph.Alike other →
      Option.Rel Paragraph.Alike paragraph.scaled? other.scaled? := fun _ _ => Paragraph.Alike.scaled?
  refine rel_map (fun made made' related => ?_) (rel_mapM each same)
  exact ⟨made', rfl, related⟩

theorem Layout.Alike.scaled? {layout other : Layout} (alike : layout.Alike other) :
    Option.Rel Alike layout.scaled? other.scaled? := by
  obtain ⟨shapes, rfl, same⟩ := alike
  have each : ∀ shape other : Shape, shape.Alike other → Option.Rel Shape.Alike shape.scaled? other.scaled? :=
    fun _ _ => Shape.Alike.scaled?
  refine rel_map (fun made made' related => ?_) (rel_mapM each same)
  exact ⟨made', rfl, related⟩

theorem Paragraph.Scales.text {paragraph scaled : Paragraph} (scales : paragraph.Scales scaled) :
    paragraph.text = scaled.text := by
  obtain ⟨size, spaceBefore, rfl, -⟩ := scales
  rfl

theorem Paragraph.Scales.shownTexts {paragraph scaled : Paragraph} (scales : paragraph.Scales scaled) :
    paragraph.shownTexts = scaled.shownTexts := by
  rw [Paragraph.shownTexts, Paragraph.shownTexts, scales.text]

namespace Layout

variable {layout scaled other : Layout}

/-- The texts are not scaled, so that what shows the one shows the other. -/
theorem Scales.shows (scales : layout.Scales scaled) {root : WrittenNode} (shows : root.Shows scaled) :
    root.Shows layout := by
  have each (shape scaled : Shape) (scales : shape.Scales scaled) :
      shape.paragraphs.map Paragraph.shownTexts = scaled.paragraphs.map Paragraph.shownTexts :=
    scales.map_eq fun _ _ => Paragraph.Scales.shownTexts
  have texts (shape scaled : Shape) (scales : shape.Scales scaled) :
      shape.paragraphs.map (·.text) = scaled.paragraphs.map (·.text) :=
    scales.map_eq fun _ _ => Paragraph.Scales.text
  have shown := scales.map_eq each
  have count : layout.shapes.length = scaled.shapes.length := by
    rw [← List.length_map, shown, List.length_map]
  constructor
  · rw [shows.texts, Layout.texts, Layout.texts, List.flatMap_def, List.flatMap_def, scales.map_eq texts]
  · rw [shows.shapes, shown]
  · rw [shows.paragraphs, List.flatMap_def, List.flatMap_def, shown]
  · rw [shows.ids, count]
  · exact shows.distinct
  · rw [shows.shapeIds, count]

private theorem outline_document (name : String) (layout : Layout) :
    Xml.outline name layout.document = Xml.outlineOf name layout.markup.events := by
  rw [Xml.outline, document, Xml.events_document layout.isPlain_markup]
  rfl

theorem Alike.outline (alike : layout.Alike other) :
    Xml.outline "typeface" layout.document = Xml.outline "typeface" other.document := by
  obtain ⟨shapes, rfl, same⟩ := alike
  rw [outline_document, outline_document]
  change Node.SameTags "typeface" layout.markup { layout with shapes }.markup
  have tree : List.Forall₂ (Node.SameTags "typeface") (shapesMarkup 2 layout.shapes)
      (shapesMarkup 2 shapes) := Shape.Alike.shapesMarkup same 2
  exact .tag rfl (.cons (.tag rfl (.cons .rfl (.cons (.tag rfl (.cons .rfl (.cons .rfl tree))) .nil)))
    (.cons .rfl .nil))

private theorem Alike.outline_toXml? (alike : layout.Alike other) :
    layout.toXml?.map (Xml.outline "typeface") = other.toXml?.map (Xml.outline "typeface") := by
  rw [toXml?, toXml?, Option.map_map, Option.map_map]
  refine map_eq_of_rel (fun layout other alike => ?_) alike.scaled?
  rw [Function.comp_apply, Function.comp_apply]
  exact Alike.outline alike

/-- A slide has a text exactly if its measures fit, and this is the text of a tree, whatever the texts on the
slide are. The tree shows the slide, and its tags are those of all slides that are alike. -/
theorem toXml_structure (layout : Layout) :
    (layout.toXml?.isSome = true ↔ layout.Fits) ∧
    (∀ text ∈ layout.toXml?, ∃ root, WrittenNode.ofDocument? text = some root ∧ root.Shows layout) ∧
    ∀ other, layout.Alike other →
      layout.toXml?.map (Xml.outline "typeface") = other.toXml?.map (Xml.outline "typeface") := by
  refine ⟨isSome_toXml?_iff, fun text made => ?_, fun other alike => alike.outline_toXml?⟩
  obtain ⟨scaled, scales, rfl⟩ := toXml?_eq_some_iff.mp made
  obtain ⟨root, written, read⟩ := scaled.ofDocument?_document
  exact ⟨root, read, scales.shows (scaled.shows_markup written)⟩

theorem toXml_structure_tags_for_text :
    (oneText "a" "Arial").toXml?.isSome = true ∧ (oneText "a" "Arial").Alike (oneText "</a:t><p:sp>" "\"") ∧
      (oneText "a" "Arial").toXml?.map (Xml.outline "typeface") =
        (oneText "</a:t><p:sp>" "\"").toXml?.map (Xml.outline "typeface") := by
  have alike : (oneText "a" "Arial").Alike (oneText "</a:t><p:sp>" "\"") := by
    refine ⟨_, rfl, .cons ⟨_, rfl, .cons ⟨"</a:t><p:sp>", some "\"", rfl, ?_, rfl⟩ .nil⟩ .nil⟩
    decide
  obtain ⟨written, -, same⟩ := toXml_structure (oneText "a" "Arial")
  exact ⟨written.mpr (fits_oneText "a" "Arial"), alike, same _ alike⟩

/-- A slide of which the measures do not fit has no text that could show it. -/
theorem large_size_shows_nothing : ¬ ∀ layout : Layout, ∃ text, layout.toXml? = some text ∧
    ∃ root, WrittenNode.ofDocument? text = some root ∧ root.Shows layout := by
  intro always
  obtain ⟨text, made, -⟩ := always oversized
  rw [toXml?_oversized] at made
  cases made

end Layout

end SlidePress
