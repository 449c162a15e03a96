import SlidePress.Proofs.PackageClosure

/-! What is read of the parts that a deck writes, for any number of slides. -/

namespace SlidePress
open Xml (Node StartTag tag isPlainName)

private theorem indented_startTags (node : Node) : (indented node).flatMap Node.startTags = node.startTags := by
  simp [indented, Node.startTags]

private theorem indented_isPlain (node : Node) : (indented node).all Node.isPlain = node.isPlain := by
  simp [indented, Node.isPlain]

private theorem writtenTags_document (element : String) {root : Node} (plain : root.isPlain = true) :
    writtenTags element (Xml.document root) = root.startTags.filter (·.name == element.toList) := by
  rw [writtenTags, Xml.startTags_document plain]

private theorem filter_ofTexts {α : Type} (name : String) (items : List α)
    (attributes : α → List (String × String)) :
    (items.map fun item => StartTag.ofTexts name (attributes item)).filter (·.name == name.toList) =
      items.map fun item => .ofTexts name (attributes item) := by
  refine List.filter_eq_self.mpr fun read member => ?_
  obtain ⟨item, -, rfl⟩ := List.mem_map.mp member
  rw [StartTag.ofTexts_name, beq_self_eq_true]

namespace Relationship

theorem isPlain_markup (item : Relationship) : item.markup.isPlain = true := by
  have names : (isPlainName "Relationship" && ["Id", "Type", "Target"].all isPlainName) = true := by
    decide
  rw [markup, Node.isPlain_tag, List.all_nil, Bool.and_true]
  exact names

private theorem isPlain_listMarkup (items : List Relationship) : (listMarkup items).isPlain = true := by
  have names : (isPlainName "Relationships" && isPlainName "xmlns") = true := by decide
  simp only [listMarkup, Node.isPlain_tag, List.all_append, List.all_flatMap, indented_isPlain,
    isPlain_markup, List.all_cons, List.all_nil, Node.isPlain, Bool.and_true, names]
  simp

private theorem startTags_listMarkup (items : List Relationship) : (listMarkup items).startTags =
    .ofTexts "Relationships" [("xmlns", "http://schemas.openxmlformats.org/package/2006/relationships")] ::
      items.map fun item => .ofTexts "Relationship" [("Id", relationshipId item.id),
        ("Type", item.role.uri), ("Target", item.target)] := by
  simp only [listMarkup, markup, Node.startTags_tag, List.flatMap_append, List.flatMap_assoc,
    indented_startTags, List.flatMap_cons, List.flatMap_nil, Node.startTags, List.append_nil,
    List.map_eq_flatMap]

end Relationship

/-- The relationships of a part are read as they were meant. -/
theorem writtenRelationships_part (items : List Relationship) :
    writtenRelationships (Relationship.part items) =
      items.map fun item => ⟨relationshipId item.id, item.role.uri, item.target⟩ := by
  have others : ("Relationships" == "Relationship") = false := by decide
  rw [writtenRelationships, Relationship.part, writtenTags_document _ (Relationship.isPlain_listMarkup items),
    Relationship.startTags_listMarkup]
  rw [List.filter_cons, StartTag.ofTexts_name, others, if_neg Bool.false_ne_true, filter_ofTexts,
    List.map_map]
  refine List.map_congr_left fun item _ => ?_
  simp only [Function.comp_apply, StartTag.value, StartTag.ofTexts_value?]
  rfl

namespace ContentType

theorem isPlain_markup (entry : ContentType) : entry.markup.isPlain = true := by
  have names : (isPlainName "Override" && ["PartName", "ContentType"].all isPlainName) = true := by
    decide
  rw [markup, Node.isPlain_tag, List.all_nil, Bool.and_true]
  exact names

private theorem isPlain_listMarkup (count : Nat) : (listMarkup count).isPlain = true := by
  have names : (isPlainName "Types" && isPlainName "xmlns" && defaults.all Node.isPlain) = true := by
    decide
  simp only [Bool.and_eq_true] at names
  simp only [listMarkup, Node.isPlain_tag, List.all_append, List.all_flatMap, indented_isPlain,
    List.all_map, Function.comp_def, isPlain_markup, List.all_cons, List.all_nil, Node.isPlain, names]
  simp

private theorem startTags_listMarkup (count : Nat) : (listMarkup count).startTags =
    .ofTexts "Types" [("xmlns", "http://schemas.openxmlformats.org/package/2006/content-types")] ::
      (defaults.flatMap Node.startTags ++ (fixed ++ slides count).map fun entry =>
        .ofTexts "Override" [("PartName", entry.partName), ("ContentType", entry.type)]) := by
  simp only [listMarkup, markup, Node.startTags_tag, List.flatMap_append, List.flatMap_assoc,
    indented_startTags, List.flatMap_cons, List.flatMap_nil, Node.startTags, List.append_nil,
    List.map_eq_flatMap]

end ContentType

/-- The list of contents is read as it was meant. -/
theorem writtenOverrides_part (count : Nat) :
    writtenOverrides (ContentType.part count) = ContentType.fixed ++ ContentType.slides count := by
  have others : ("Types" == "Override") = false := by decide
  have defaults : (ContentType.defaults.flatMap Node.startTags).filter (·.name == "Override".toList) = [] := by
    decide
  rw [writtenOverrides, ContentType.part, writtenTags_document _ (ContentType.isPlain_listMarkup count),
    ContentType.startTags_listMarkup, List.filter_cons, StartTag.ofTexts_name, others,
    if_neg Bool.false_ne_true, List.filter_append, defaults, List.nil_append, filter_ofTexts, List.map_map]
  refine (List.map_congr_left fun entry _ => ?_).trans (List.map_id _)
  simp only [Function.comp_apply, StartTag.value, StartTag.ofTexts_value?]
  rfl

namespace Deck
variable (count : Nat) (width height : Length)

def masterTag : StartTag := .ofTexts "p:sldMasterId" [("id", "2147483648"), ("r:id", "rId1")]

def slideTag (number : Nat) : StartTag :=
  .ofTexts "p:sldId" [("id", toString (slideId number)),
    ("r:id", relationshipId (slideRelationship number))]

def slideTags : List StartTag := (List.range' 1 count).map slideTag

def layoutTag : StartTag := .ofTexts "p:sldLayoutId" [("id", "2147483649"), ("r:id", "rId1")]

/-- The other tags of a presentation; there is no list of slides without slides. -/
def rootTags : List StartTag :=
  [.ofTexts "p:presentation" (slideNamespaces ++ [("saveSubsetFonts", "1")]), .ofTexts "p:sldMasterIdLst" []]

def slideListTags : List StartTag := if count = 0 then [] else [.ofTexts "p:sldIdLst" []]

def sizeTags : List StartTag := [
  .ofTexts "p:sldSz" [("cx", toString width), ("cy", toString height)],
  .ofTexts "p:notesSz" [("cx", "6858000"), ("cy", "9144000")]]

private theorem isPlain_slideList : (slideList count).all Node.isPlain = true := by
  have names : ["p:sldIdLst", "p:sldId", "id", "r:id"].all isPlainName = true := by decide
  simp only [List.all_cons, List.all_nil, Bool.and_eq_true] at names
  rw [slideList]
  split
  · rfl
  · simp [Node.isPlain_tag, names]

theorem isPlain_presentationMarkup : (presentationMarkup count width height).isPlain = true := by
  have root : isPlainName "p:presentation" = true := by decide
  have attributes : (slideNamespaces ++ [("saveSubsetFonts", "1")]).all (isPlainName ·.1) = true := by
    decide
  have masters : (tag "p:sldMasterIdLst" []
      [tag "p:sldMasterId" [("id", "2147483648"), ("r:id", "rId1")]]).isPlain = true := by decide
  have names : ["p:sldSz", "cx", "cy", "p:notesSz"].all isPlainName = true := by decide
  simp only [List.all_cons, List.all_nil, Bool.and_eq_true] at names
  rw [presentationMarkup, Node.isPlain_tag, root, attributes, List.all_append, List.all_append,
    isPlain_slideList]
  simp only [List.all_cons, List.all_nil, masters, Node.isPlain_tag, names, Bool.and_self]

private theorem startTags_slideList :
    (slideList count).flatMap Node.startTags = slideListTags count ++ slideTags count := by
  rw [slideList, slideListTags]
  split
  next none => rw [none]; rfl
  next =>
    simp only [List.flatMap_cons, Node.startTags_tag, List.flatMap_nil, List.append_nil,
      List.flatMap_map, ← List.map_eq_flatMap]
    rfl

private theorem startTags_presentationMarkup : (presentationMarkup count width height).startTags =
    rootTags ++ masterTag :: (slideListTags count ++ slideTags count ++ sizeTags width height) := by
  rw [presentationMarkup, Node.startTags_tag, List.flatMap_append, List.flatMap_append,
    startTags_slideList]
  simp only [List.flatMap_cons, Node.startTags_tag, List.flatMap_nil, List.append_nil]
  rfl

def frameElements : List String :=
  ["p:presentation", "p:sldMasterIdLst", "p:sldIdLst", "p:sldSz", "p:notesSz"]

/-- The other elements are none of those that are looked for, and do not refer to anything. -/
theorem silent_tag {read : StartTag}
    (member : read ∈ rootTags ++ (slideListTags count ++ sizeTags width height)) :
    ∃ name ∈ frameElements, ∃ attributes, read = .ofTexts name attributes ∧
      attributes.lookup "r:id" = none := by
  have list : read ∈ slideListTags count → read = .ofTexts "p:sldIdLst" [] := by
    rw [slideListTags]
    split <;> simp
  rw [List.mem_append, List.mem_append] at member
  obtain root | slides | size := member
  · simp only [rootTags, List.mem_cons, List.not_mem_nil, or_false] at root
    obtain rfl | rfl := root
    · exact ⟨_, by decide, _, rfl, by decide +kernel⟩
    · exact ⟨_, by decide, _, rfl, rfl⟩
  · exact ⟨_, by decide, _, list slides, rfl⟩
  · simp only [sizeTags, List.mem_cons, List.not_mem_nil, or_false] at size
    obtain rfl | rfl := size
    · exact ⟨_, by decide, _, rfl, rfl⟩
    · exact ⟨_, by decide, _, rfl, rfl⟩

/-- What is looked for among the references of a presentation. -/
theorem filter_presentationMarkup {p : StartTag → Bool}
    (others : ∀ read ∈ rootTags ++ (slideListTags count ++ sizeTags width height), p read = false) :
    (presentationMarkup count width height).startTags.filter p =
      (masterTag :: slideTags count).filter p := by
  have silent : ∀ tags ⊆ rootTags ++ (slideListTags count ++ sizeTags width height),
      tags.filter p = [] := by
    intro tags inside
    refine List.filter_eq_nil_iff.mpr fun read member => ?_
    rw [others read (inside member)]
    exact Bool.false_ne_true
  rw [startTags_presentationMarkup, List.filter_append, silent rootTags (by simp), List.nil_append,
    List.filter_cons, List.filter_append, List.filter_append, silent (slideListTags count) (by simp),
    silent (sizeTags width height) (by simp), List.nil_append, List.append_nil, List.filter_cons]

private theorem writtenTags_presentation {element : String} (other : element ∉ frameElements) :
    writtenTags element (Xml.document (presentationMarkup count width height)) =
      (masterTag :: slideTags count).filter (·.name == element.toList) := by
  rw [writtenTags_document _ (isPlain_presentationMarkup count width height)]
  refine filter_presentationMarkup count width height fun read member => ?_
  obtain ⟨name, known, attributes, rfl, -⟩ := silent_tag count width height member
  rw [StartTag.ofTexts_name, beq_eq_false_iff_ne]
  exact fun same => other (same ▸ known)

theorem references_presentation : (Xml.startTags
    (Xml.document (presentationMarkup count width height)).toList).filter (·.value? "r:id" |>.isSome) =
      masterTag :: slideTags count := by
  rw [Xml.startTags_document (isPlain_presentationMarkup count width height), filter_presentationMarkup]
  · refine List.filter_eq_self.mpr fun read member => ?_
    obtain rfl | slide := List.mem_cons.mp member
    · decide
    · obtain ⟨number, -, rfl⟩ := List.mem_map.mp slide
      rw [slideTag, StartTag.ofTexts_value?]
      rfl
  · intro read member
    obtain ⟨name, -, attributes, rfl, silent⟩ := silent_tag count width height member
    rw [StartTag.ofTexts_value?, silent]
    rfl

theorem writtenTags_masterIds : writtenTags "p:sldMasterId"
    (Xml.document (presentationMarkup count width height)) = [masterTag] := by
  have others : (slideTags count).filter (·.name == "p:sldMasterId".toList) = [] := by
    refine List.filter_eq_nil_iff.mpr fun read member => ?_
    obtain ⟨number, -, rfl⟩ := List.mem_map.mp member
    rw [slideTag, StartTag.ofTexts_name]
    decide
  rw [writtenTags_presentation count width height (by decide), List.filter_cons, others, masterTag,
    StartTag.ofTexts_name, beq_self_eq_true, if_pos rfl]

theorem writtenTags_slideIds : writtenTags "p:sldId"
    (Xml.document (presentationMarkup count width height)) = slideTags count := by
  have other : (masterTag.name == "p:sldId".toList) = false := by decide
  rw [writtenTags_presentation count width height (by decide), List.filter_cons, other,
    if_neg Bool.false_ne_true]
  exact filter_ofTexts "p:sldId" _ _

private theorem isPlain_slideMaster : Master.slideMaster.isPlain = true := by decide

theorem references_slideMaster : (Xml.startTags (Xml.document Master.slideMaster).toList).filter
    (·.value? "r:id" |>.isSome) = [layoutTag] := by
  rw [Xml.startTags_document isPlain_slideMaster]
  decide

theorem writtenTags_layoutIds :
    writtenTags "p:sldLayoutId" (Xml.document Master.slideMaster) = [layoutTag] := by
  rw [writtenTags_document _ isPlain_slideMaster]
  decide

end Deck

/-! Where a text and the time of writing stand in what is written. -/

theorem Xml.charsOf_append (above below : List Node) :
    Xml.charsOf (above ++ below) = Xml.charsOf above ++ Xml.charsOf below := by
  induction above with
  | nil => rfl
  | cons node above ih => rw [List.cons_append, Xml.charsOf, ih, Xml.charsOf, List.append_assoc]

private theorem Xml.chars_around (name : String) (attributes : List Xml.Attribute) (above below : List Node)
    (node : Node) : (Node.element name attributes (above ++ node :: below)).chars =
      '<' :: name.toList ++ Xml.attributeChars attributes ++ '>' :: Xml.charsOf above ++ node.chars ++
        (Xml.charsOf below ++ '<' :: '/' :: name.toList ++ ['>']) := by
  have inside : Xml.charsOf (above ++ node :: below) =
      Xml.charsOf above ++ (node.chars ++ Xml.charsOf below) := charsOf_append above (node :: below)
  cases children : above ++ node :: below with
  | nil => simp at children
  | cons child others =>
    rw [children, Xml.charsOf] at inside
    rw [Node.chars, inside]
    simp

/-- The text of an element stands in a document as it is escaped, whatever is around it. -/
theorem Xml.document_around (name element : String) (attributes own : List (String × String))
    (above below : List Node) : ∃ front back : String, ∀ content : String,
      Xml.document (tag name attributes (above ++ tag element own [.text content] :: below)) =
        front ++ String.ofList (Xml.escape content.toList) ++ back := by
  let opening (name : String) (items : List Xml.Attribute) : List Char :=
    '<' :: name.toList ++ Xml.attributeChars items ++ ['>']
  let closing (name : String) : List Char := '<' :: '/' :: name.toList ++ ['>']
  obtain ⟨items, whole⟩ : ∃ items, ∀ children, tag name attributes children = .element name items children :=
    ⟨_, fun _ => rfl⟩
  obtain ⟨given, part⟩ : ∃ given, ∀ children, tag element own children = .element element given children :=
    ⟨_, fun _ => rfl⟩
  refine ⟨String.ofList (Xml.declaration.toList ++ opening name items ++ Xml.charsOf above ++
    opening element given), String.ofList (closing element ++ Xml.charsOf below ++ closing name),
    fun content => ?_⟩
  have inner : (tag element own [.text content]).chars =
      opening element given ++ Xml.escape content.toList ++ closing element := by
    simp [part, Node.chars, Xml.charsOf, opening, closing]
  rw [Xml.document, whole, chars_around, inner]
  simp [opening, closing, String.append_assoc]

theorem Properties.corePart_eq (title : String) : ∃ front back : String, ∀ created : String,
    Properties.corePart title created = front ++ String.ofList (Xml.escape created.toList) ++ back := by
  let above : List Node := indented (tag "dc:title" [] [.text title]) ++
    indented (tag "dc:creator" [] [.text Properties.creator]) ++ [.text "\n    "]
  let below : List Node := indented (tag "cp:revision" [] [.text "1"]) ++ [.text "\n"]
  obtain ⟨front, back, around⟩ := Xml.document_around "cp:coreProperties" "dcterms:created" [
    ("xmlns:cp", "http://schemas.openxmlformats.org/package/2006/metadata/core-properties"),
    ("xmlns:dc", "http://purl.org/dc/elements/1.1/"),
    ("xmlns:dcterms", "http://purl.org/dc/terms/"),
    ("xmlns:dcmitype", "http://purl.org/dc/dcmitype/"),
    ("xmlns:xsi", "http://www.w3.org/2001/XMLSchema-instance")]
    [("xsi:type", "dcterms:W3CDTF")] above below
  refine ⟨front, back, fun created => ?_⟩
  rw [← around, Properties.corePart, Properties.coreMarkup]
  simp [indented, above, below]

end SlidePress
