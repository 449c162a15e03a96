import SlidePress.Proofs.DeckMarkup
import SlidePress.Proofs.DeckParts
import SlidePress.Proofs.SlideScaling

/-! The package of a deck is closed, whatever the number of its slides. -/

namespace SlidePress

/-- Under keys of its own, an item is found by its key. -/
theorem find?_key {α β : Type} [BEq β] [LawfulBEq β] {key : α → β} {items : List α}
    (distinct : (items.map key).Nodup) {item : α} (member : item ∈ items) :
    items.find? (key · == key item) = some item := by
  have known : (items.find? (key · == key item)).isSome = true :=
    List.find?_isSome.mpr ⟨item, member, beq_self_eq_true _⟩
  obtain ⟨found, search⟩ := Option.isSome_iff_exists.mp known
  have same : key found = key item := by simpa using List.find?_some search
  rw [search, List.inj_on_of_nodup_map distinct (List.mem_of_find?_eq_some search) member same]

theorem Package.text?_of_mem {package : Package} (distinct : package.names.Nodup) {part : Part}
    (member : part ∈ package.parts) : package.text? part.name = some part.text := by
  rw [Package.text?, find?_key distinct member, Option.map_some]

namespace Deck
variable (deck : Written) (created : String)

/-! The package of a deck by the texts of its parts. -/

theorem nodup_names : (deck.package created).names.Nodup := by
  rw [names_package]
  exact nodup_partNames deck.slideCount

/-- The text of a part that does not depend on what is on the slides. -/
theorem text?_frame {part : Part} (member : part ∈ frameParts deck.sheet deck.slideCount created) :
    (deck.package created).text? part.name = some part.text :=
  Package.text?_of_mem (nodup_names deck created) (List.mem_append_left _ member)

private theorem text?_contents : (deck.package created).text? Package.contentsName =
    some (ContentType.part deck.slideCount) := by
  have member : ⟨Package.contentsName, ContentType.part deck.slideCount⟩ ∈
      frameParts deck.sheet deck.slideCount created := List.mem_cons_self
  exact text?_frame deck created member

theorem text?_presentation : (deck.package created).text? Package.presentationName =
    some (Xml.document (presentationMarkup deck.slideCount deck.sheet.slideWidth deck.sheet.slideHeight)) := by
  have member : ⟨Package.presentationName, Xml.document
      (presentationMarkup deck.slideCount deck.sheet.slideWidth deck.sheet.slideHeight)⟩ ∈
        frameParts deck.sheet deck.slideCount created := by
    simp [frameParts, Package.presentationName]
  exact text?_frame deck created member

private theorem text?_presentationRelationships :
    (deck.package created).text? (Part.relationshipsName Package.presentationName) =
      some (Relationship.part (presentationRelationships deck.slideCount)) := by
  have name : Part.relationshipsName Package.presentationName = "ppt/_rels/presentation.xml.rels" := by
    decide
  have member : ⟨"ppt/_rels/presentation.xml.rels",
      Relationship.part (presentationRelationships deck.slideCount)⟩ ∈
        frameParts deck.sheet deck.slideCount created := by
    simp [frameParts]
  rw [name]
  exact text?_frame deck created member

private theorem text?_slideMaster : (deck.package created).text? Package.masterName =
    some (Xml.document Master.slideMaster) := by
  have member : ⟨Package.masterName, Xml.document Master.slideMaster⟩ ∈
      frameParts deck.sheet deck.slideCount created := by
    simp [frameParts, Package.masterName]
  exact text?_frame deck created member

private theorem text?_masterRelationships :
    (deck.package created).text? (Part.relationshipsName Package.masterName) =
      some (Relationship.part masterRelationships) := by
  have name : Part.relationshipsName Package.masterName =
      "ppt/slideMasters/_rels/slideMaster1.xml.rels" := by decide
  have member : ⟨"ppt/slideMasters/_rels/slideMaster1.xml.rels", Relationship.part masterRelationships⟩ ∈
      frameParts deck.sheet deck.slideCount created := by
    simp [frameParts]
  rw [name]
  exact text?_frame deck created member

private theorem overrides_package : (deck.package created).overrides =
    ContentType.fixed ++ ContentType.slides deck.slideCount := by
  rw [Package.overrides, text?_contents, Option.getD_some, writtenOverrides_part]

theorem relationshipsOf_presentation :
    (deck.package created).relationshipsOf Package.presentationName =
      (presentationRelationships deck.slideCount).map
        fun item => ⟨relationshipId item.id, item.role.uri, item.target⟩ := by
  rw [Package.relationshipsOf, text?_presentationRelationships, Option.getD_some, writtenRelationships_part]

private theorem relationshipsOf_master : (deck.package created).relationshipsOf Package.masterName =
    masterRelationships.map fun item => ⟨relationshipId item.id, item.role.uri, item.target⟩ := by
  rw [Package.relationshipsOf, text?_masterRelationships, Option.getD_some, writtenRelationships_part]

private theorem resolves_presentation : (deck.package created).Resolves Package.presentationName := by
  have name : Part.relationshipsName Package.presentationName = "ppt/_rels/presentation.xml.rels" := by
    decide
  refine ⟨_, text?_presentation deck created, fun read known id value => ?_⟩
  have reference : read ∈ masterTag :: slideTags deck.slideCount := by
    rw [← references_presentation deck.slideCount deck.sheet.slideWidth deck.sheet.slideHeight]
    exact List.mem_filter.mpr ⟨known, by rw [value]; rfl⟩
  rw [relationshipsOf_presentation, overrides_package, name]
  obtain rfl | slide := List.mem_cons.mp reference
  · obtain rfl : "rId1" = id := by
      rw [masterTag, Xml.StartTag.ofTexts_value?] at value
      exact Option.some.inj value
    refine ⟨_, .head _, rfl, _, List.mem_map.mpr ⟨_, .head _, rfl⟩, by decide, rfl, ?_⟩
    exact List.mem_append_left _ (by decide)
  · obtain ⟨number, inside, rfl⟩ := List.mem_map.mp slide
    obtain rfl : relationshipId (slideRelationship number) = id := by
      rw [slideTag, Xml.StartTag.ofTexts_value?] at value
      exact Option.some.inj value
    have item : ⟨slideRelationship number, .slide, s!"slides/slide{number}.xml"⟩ ∈
        presentationRelationships deck.slideCount :=
      List.mem_append_right _ (List.mem_map_of_mem inside)
    have entry : ⟨s!"/ppt/slides/slide{number}.xml", ContentType.officeType "presentationml.slide"⟩ ∈
        ContentType.slides deck.slideCount := List.mem_map_of_mem inside
    refine ⟨_, .tail _ (.head _), rfl, _, List.mem_map.mpr ⟨_, item, rfl⟩, rfl, rfl, ?_⟩
    rw [targetName_slide, ← partName_slide]
    exact List.mem_append_right _ entry

private theorem resolves_slideMaster : (deck.package created).Resolves Package.masterName := by
  refine ⟨_, text?_slideMaster deck created, fun read known id value => ?_⟩
  have reference : read ∈ [layoutTag] := by
    rw [← references_slideMaster]
    exact List.mem_filter.mpr ⟨known, by rw [value]; rfl⟩
  obtain rfl := List.mem_singleton.mp reference
  obtain rfl : "rId1" = id := by
    rw [layoutTag, Xml.StartTag.ofTexts_value?] at value
    exact Option.some.inj value
  rw [relationshipsOf_master, overrides_package]
  refine ⟨_, .tail _ (.tail _ (.head _)), rfl, _, List.mem_map.mpr ⟨_, .head _, rfl⟩, by decide,
    rfl, ?_⟩
  exact List.mem_append_left _ (by decide)

private theorem closed_package : (deck.package created).Closed where
  names := nodup_names deck created
  targets := by
    intro part member holds item written
    obtain ⟨list, known, rfl⟩ := part_eq_of_holdsRelationships deck created member holds
    rw [writtenRelationships_part] at written
    obtain ⟨relationship, inside, rfl⟩ := List.mem_map.mp written
    rw [names_package]
    exact target_mem_partNames known inside
  ids := by
    intro part member holds
    obtain ⟨list, known, rfl⟩ := part_eq_of_holdsRelationships deck created member holds
    rw [writtenRelationships_part, List.map_map]
    exact nodup_relationshipIds known
  presentation := resolves_presentation deck created
  master := resolves_slideMaster deck created
  contents := by
    rw [overrides_package, names_package]
    exact overrides_perm deck.slideCount

/-! The numbers of slides, master and layout. -/

private theorem numbers_slides : (deck.package created).numbers Package.presentationName "p:sldId" =
    (List.range' 1 deck.slideCount).map fun number => some (slideId number) := by
  rw [Package.numbers, text?_presentation, Option.getD_some, writtenTags_slideIds, slideTags, List.map_map]
  refine List.map_congr_left fun number _ => ?_
  rw [Function.comp_apply, slideTag, Xml.StartTag.ofTexts_value?]
  exact Nat.toNat?_repr (slideId number)

private theorem numbers_masters : (deck.package created).numbers Package.presentationName "p:sldMasterId" =
    [some 2147483648] := by
  have written : "2147483648" = Nat.repr 2147483648 := by decide
  rw [Package.numbers, text?_presentation, Option.getD_some, writtenTags_masterIds, List.map_singleton,
    masterTag, Xml.StartTag.ofTexts_value?, written]
  exact congrArg ([·]) (Nat.toNat?_repr 2147483648)

private theorem numbers_layouts : (deck.package created).numbers Package.masterName "p:sldLayoutId" =
    [some 2147483649] := by
  have written : "2147483649" = Nat.repr 2147483649 := by decide
  rw [Package.numbers, text?_slideMaster, Option.getD_some, writtenTags_layoutIds, List.map_singleton,
    layoutTag, Xml.StartTag.ofTexts_value?, written]
  exact congrArg ([·]) (Nat.toNat?_repr 2147483649)

private theorem numbered_package : (deck.package created).Numbered deck.slideCount := by
  refine ⟨(List.range' 1 deck.slideCount).map slideId, _, _, ?_,
    numbers_masters deck created, numbers_layouts deck created, ?_, ?_, ?_, ?_⟩
  · rw [numbers_slides, List.map_map]
    rfl
  · rw [List.length_map, List.length_range']
  · exact List.Nodup.map (fun first second same => Nat.add_left_cancel same) List.nodup_range'
  · intro id member
    obtain ⟨number, inside, rfl⟩ := List.mem_map.mp member
    have bounds := List.mem_range'_1.mp inside
    rw [slideId]
    omega
  · -- The number of the last slide that the bound allows is just below that of the master.
    intro few id member
    obtain ⟨number, inside, rfl⟩ := List.mem_map.mp member
    have bounds := List.mem_range'_1.mp inside
    have limit : Nat.pow 2 31 = 2147483648 := rfl
    rw [slideId]
    omega

/-! The deck whose slides have been written. -/

variable {deck : Deck}

theorem written?_eq_some_iff {written : Written} : deck.written? = some written ↔
    written.sheet = deck.sheet ∧
      List.Forall₂ (fun slide text => slide.toXml? = some text) deck.slides written.slides := by
  rw [written?, Option.map_eq_some_iff]
  simp only [mapM_eq_some_iff]
  constructor
  · rintro ⟨slides, each, rfl⟩
    exact ⟨rfl, each⟩
  · rintro ⟨same, each⟩
    exact ⟨written.slides, each, by rw [← same]⟩

theorem isSome_written?_iff : deck.written?.isSome = true ↔ ∀ slide ∈ deck.slides, slide.Fits := by
  simp only [written?, Option.isSome_map, isSome_mapM_iff, Layout.isSome_toXml?_iff]

theorem package?_eq_some_iff {created : String} {package : Package} : deck.package? created = some package ↔
    ∃ written, deck.written? = some written ∧ written.package created = package := by
  rw [package?, Option.map_eq_some_iff]

theorem map_some_slides {written : Written} (made : deck.written? = some written) :
    written.slides.map some = deck.slides.map Layout.toXml? := by
  rw [← List.forall₂_eq_eq_eq, List.forall₂_map_left_iff, List.forall₂_map_right_iff]
  exact ((written?_eq_some_iff.mp made).2.imp fun _ _ => Eq.symm).flip

/-- The text of a slide that has been written. -/
theorem getElem?_written {written : Written} (made : deck.written? = some written) {index : Nat}
    {slide : Layout} (known : deck.slides[index]? = some slide) :
    ∃ text, slide.toXml? = some text ∧ written.slides[index]? = some text := by
  have texts := congrArg (·[index]?) (map_some_slides made)
  simp only [List.getElem?_map, known, Option.map_some, Option.map_eq_some_iff] at texts
  obtain ⟨text, found, own⟩ := texts
  exact ⟨text, own.symm, found⟩

theorem slideCount_of_written? {written : Written} (made : deck.written? = some written) :
    written.slideCount = deck.slideCount :=
  (written?_eq_some_iff.mp made).2.length_eq.symm

/-- A deck has a package exactly if the measures of its slides fit. Nothing in the package points to what is
not there, and its slides have numbers of their own. -/
theorem package_closed_and_numbered (deck : Deck) (created : String) :
    ((deck.package? created).isSome = true ↔ ∀ slide ∈ deck.slides, slide.Fits) ∧
    ∀ package ∈ deck.package? created, package.Closed ∧ package.Numbered deck.slideCount := by
  refine ⟨by rw [package?, Option.isSome_map, isSome_written?_iff], fun package made => ?_⟩
  obtain ⟨written, known, rfl⟩ := package?_eq_some_iff.mp made
  rw [← slideCount_of_written? known]
  exact ⟨closed_package written created, numbered_package written created⟩

theorem package_closed_and_numbered_two_slides :
    ∃ package, Deck.package? ⟨⟨"", 1, 1⟩, [⟨⟨0, 0, 0⟩, []⟩, ⟨⟨0, 0, 0⟩, []⟩]⟩ "" = some package ∧
    ∃ (ids : List Nat) (master layout : Nat),
      package.numbers Package.presentationName "p:sldId" = ids.map some ∧
      package.numbers Package.presentationName "p:sldMasterId" = [some master] ∧
      package.numbers Package.masterName "p:sldLayoutId" = [some layout] ∧
      ids.length = 2 ∧ ∀ id ∈ ids, 256 ≤ id ∧ id < master ∧ id < layout := by
  obtain ⟨written, numbered⟩ :=
    package_closed_and_numbered ⟨⟨"", 1, 1⟩, [⟨⟨0, 0, 0⟩, []⟩, ⟨⟨0, 0, 0⟩, []⟩]⟩ ""
  have empty : ∀ slide ∈ [(⟨⟨0, 0, 0⟩, []⟩ : Layout), ⟨⟨0, 0, 0⟩, []⟩], slide.Fits := by
    intro slide member shape inside
    obtain rfl : slide = ⟨⟨0, 0, 0⟩, []⟩ := by simpa using member
    cases inside
  obtain ⟨package, made⟩ := Option.isSome_iff_exists.mp (written.mpr empty)
  obtain ⟨-, ids, master, layout, slides, masters, layouts, length, -, above, below⟩ := numbered package made
  have few : 2 ≤ Nat.pow 2 31 - 256 := by decide
  exact ⟨package, made, ids, master, layout, slides, masters, layouts, length,
    fun id member => ⟨above id member, below few id member⟩⟩

end Deck

end SlidePress
