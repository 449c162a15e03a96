import Mathlib
import SlidePress.Proofs.PartNames

/-! The parts of a deck by their names: which there are, where their relationships lead to, and what
the list of contents tells of. All of it is about the number of slides alone. -/

namespace SlidePress

namespace Deck

def frameNames : List String := [
  "[Content_Types].xml", "_rels/.rels", "docProps/app.xml", "docProps/core.xml", "ppt/presentation.xml",
  "ppt/_rels/presentation.xml.rels", "ppt/slideMasters/slideMaster1.xml",
  "ppt/slideMasters/_rels/slideMaster1.xml.rels", "ppt/slideLayouts/slideLayout1.xml",
  "ppt/slideLayouts/_rels/slideLayout1.xml.rels", "ppt/theme/theme1.xml"]

def slidePartNames (number : Nat) : List String := [slideRelationshipsName number, slideName number]

def partNames (count : Nat) : List String := frameNames ++ (List.range' 1 count).flatMap slidePartNames

private theorem mem_slidePartNames {number : Nat} {name : String} :
    name ∈ slidePartNames number ↔ name = slideRelationshipsName number ∨ name = slideName number := by
  rw [slidePartNames, List.mem_pair]

private theorem names_slidesParts (first : Nat) (slides : List String) :
    (slidesParts first slides).map (·.name) = (List.range' first slides.length).flatMap slidePartNames := by
  induction slides generalizing first with
  | nil => rfl
  | cons slide slides ih =>
    rw [slidesParts, List.map_append, ih, List.length_cons, List.range'_succ, List.flatMap_cons,
      slidePartNames, ← slideRelationshipsName_eq, ← slideName_eq]
    rfl

variable (deck : Written) (created : String)

theorem names_package : (deck.package created).names = partNames deck.slideCount := by
  rw [Package.names, Written.package, List.map_append, names_slidesParts]
  rfl

/-! No two parts have one name. -/

theorem slideFile_injective : Function.Injective slideFile := by
  intro first second same
  have numbers : "slide" ++ first.repr = "slide" ++ second.repr := (String.append_left_inj ".xml").mp same
  exact Nat.repr_injective ((String.append_right_inj "slide").mp numbers)

theorem slideName_injective : Function.Injective slideName := by
  intro first second same
  exact slideFile_injective ((String.append_right_inj _).mp same)

theorem slideRelationshipsName_injective : Function.Injective slideRelationshipsName := by
  intro first second same
  have files : slideFile first ++ ".rels" = slideFile second ++ ".rels" :=
    (String.append_right_inj _).mp same
  exact slideFile_injective ((String.append_left_inj _).mp files)

private theorem slideName_ne_slideRelationshipsName (first second : Nat) :
    slideName first ≠ slideRelationshipsName second := by
  intro same
  have holds := holdsRelationships_slideRelationshipsName second
  rw [← same, holdsRelationships_slideName] at holds
  exact Bool.false_ne_true holds

private theorem disjoint_slidePartNames {first second : Nat} (other : first ≠ second) :
    (slidePartNames first).Disjoint (slidePartNames second) := by
  intro name left right
  obtain rfl | rfl := mem_slidePartNames.mp left
  · obtain same | same := mem_slidePartNames.mp right
    · exact other (slideRelationshipsName_injective same)
    · exact slideName_ne_slideRelationshipsName second first same.symm
  · obtain same | same := mem_slidePartNames.mp right
    · exact slideName_ne_slideRelationshipsName first second same
    · exact other (slideName_injective same)

/-- The parts of the slides have a folder of their own. -/
theorem slidePartNames_not_mem_frameNames {number : Nat} {name : String}
    (member : name ∈ slidePartNames number) : name ∉ frameNames := by
  have elsewhere : ∀ name ∈ frameNames,
      (Part.steps name).take 2 ≠ ["ppt".toList, "slides".toList] := by decide
  intro frame
  apply elsewhere name frame
  obtain rfl | rfl := mem_slidePartNames.mp member
  · rw [steps_slideRelationshipsName]
    rfl
  · rw [steps_slideName]
    rfl

theorem nodup_partNames (count : Nat) : (partNames count).Nodup := by
  have slides : ((List.range' 1 count).flatMap slidePartNames).Nodup := by
    refine List.nodup_flatMap.mpr ⟨fun number _ => ?_, ?_⟩
    · simpa [slidePartNames] using (slideName_ne_slideRelationshipsName number number).symm
    · exact (List.nodup_range' 1).imp disjoint_slidePartNames
  refine List.nodup_append'.mpr ⟨by decide, slides, ?_⟩
  intro name frame slide
  obtain ⟨number, -, member⟩ := List.mem_flatMap.mp slide
  exact slidePartNames_not_mem_frameNames member frame

/-! The parts that hold relationships. -/

/-- The relationships that each part has, under the name of the part that holds them. -/
def relationshipLists (count : Nat) : List (String × List Relationship) := [
  ("_rels/.rels", packageRelationships),
  ("ppt/_rels/presentation.xml.rels", presentationRelationships count),
  ("ppt/slideMasters/_rels/slideMaster1.xml.rels", masterRelationships),
  ("ppt/slideLayouts/_rels/slideLayout1.xml.rels", layoutRelationships)] ++
  (List.range' 1 count).map fun number => (slideRelationshipsName number, slideRelationships)

/-- Only the relationships of the presentation and of the slides depend on the number of slides. -/
theorem mem_relationshipLists {count : Nat} {list : String × List Relationship}
    (member : list ∈ relationshipLists count) : list ∈ relationshipLists 0 ∨
      list = ("ppt/_rels/presentation.xml.rels", presentationRelationships count) ∨
      ∃ number, list = (slideRelationshipsName number, slideRelationships) := by
  obtain fixed | slide := List.mem_append.mp member
  · simp only [List.mem_cons, List.not_mem_nil, or_false] at fixed
    obtain rfl | rfl | rfl | rfl := fixed
    · exact .inl (by simp [relationshipLists])
    · exact .inr (.inl rfl)
    · exact .inl (by simp [relationshipLists])
    · exact .inl (by simp [relationshipLists])
  · obtain ⟨number, -, rfl⟩ := List.mem_map.mp slide
    exact .inr (.inr ⟨number, rfl⟩)

private theorem mem_slidesParts {first : Nat} {slides : List String} {part : Part}
    (member : part ∈ slidesParts first slides) : ∃ number ∈ List.range' first slides.length,
      part = ⟨slideRelationshipsName number, Relationship.part slideRelationships⟩ ∨
        part.name = slideName number := by
  induction slides generalizing first with
  | nil => exact absurd member List.not_mem_nil
  | cons slide slides ih =>
    rw [List.length_cons, List.range'_succ]
    rw [slidesParts, slideParts, slideRelationshipsName_eq, slideName_eq] at member
    simp only [List.cons_append, List.nil_append, List.mem_cons] at member
    obtain rfl | rfl | later := member
    · exact ⟨first, List.mem_cons_self, .inl rfl⟩
    · exact ⟨first, List.mem_cons_self, .inr rfl⟩
    · obtain ⟨number, known, found⟩ := ih later
      exact ⟨number, List.mem_cons_of_mem _ known, found⟩

def describedNames : List String := [
  "docProps/app.xml", "docProps/core.xml", "ppt/presentation.xml", "ppt/slideMasters/slideMaster1.xml",
  "ppt/slideLayouts/slideLayout1.xml", "ppt/theme/theme1.xml"]

private theorem holdsRelationships_frame : ∀ name ∈ Package.contentsName :: describedNames,
    ¬Part.holdsRelationships name = true := by
  decide

private theorem part_eq_of_mem_frameParts {sheet : Sheet} {count : Nat} {part : Part}
    (member : part ∈ frameParts sheet count created)
    (holds : Part.holdsRelationships part.name = true) :
    ∃ list ∈ relationshipLists count, part = ⟨list.1, Relationship.part list.2⟩ := by
  -- The names decide whether a part holds relationships; what the texts are does not matter to that.
  have silent (known : part.name ∈ Package.contentsName :: describedNames) :
      ∃ list ∈ relationshipLists count, part = ⟨list.1, Relationship.part list.2⟩ :=
    absurd holds (holdsRelationships_frame part.name known)
  simp only [frameParts, List.mem_cons, List.not_mem_nil, or_false] at member
  obtain rfl | rfl | rfl | rfl | rfl | rfl | rfl | rfl | rfl | rfl | rfl := member
  · exact silent (by simp [Package.contentsName])
  · exact ⟨("_rels/.rels", packageRelationships), by simp [relationshipLists], rfl⟩
  · exact silent (by simp [describedNames])
  · exact silent (by simp [describedNames])
  · exact silent (by simp [describedNames])
  · exact ⟨("ppt/_rels/presentation.xml.rels", presentationRelationships count),
      by simp [relationshipLists], rfl⟩
  · exact silent (by simp [describedNames])
  · exact ⟨("ppt/slideMasters/_rels/slideMaster1.xml.rels", masterRelationships),
      by simp [relationshipLists], rfl⟩
  · exact silent (by simp [describedNames])
  · exact ⟨("ppt/slideLayouts/_rels/slideLayout1.xml.rels", layoutRelationships),
      by simp [relationshipLists], rfl⟩
  · exact silent (by simp [describedNames])

theorem part_eq_of_holdsRelationships {part : Part} (member : part ∈ (deck.package created).parts)
    (holds : Part.holdsRelationships part.name = true) :
    ∃ list ∈ relationshipLists deck.slideCount, part = ⟨list.1, Relationship.part list.2⟩ := by
  rw [Written.package, List.mem_append] at member
  obtain frame | slide := member
  · exact part_eq_of_mem_frameParts created frame holds
  · obtain ⟨number, known, rfl | named⟩ := mem_slidesParts slide
    · exact ⟨(slideRelationshipsName number, slideRelationships),
        List.mem_append_right _ (List.mem_map_of_mem known), rfl⟩
    · rw [named, holdsRelationships_slideName] at holds
      exact absurd holds Bool.false_ne_true

/-! Where the relationships lead to. -/

private theorem frame_mem_partNames {name : String} (member : name ∈ frameNames) (count : Nat) :
    name ∈ partNames count :=
  List.mem_append_left _ member

private theorem slideName_mem_partNames {number count : Nat} (member : number ∈ List.range' 1 count) :
    slideName number ∈ partNames count :=
  List.mem_append_right _ (List.mem_flatMap.mpr ⟨number, member, mem_slidePartNames.mpr (.inr rfl)⟩)

/-- What the relationships lead to that do not depend on the slides. -/
theorem target_mem_frameNames : ∀ list ∈ relationshipLists 0, ∀ item ∈ list.2,
    Part.targetName list.1 item.target ∈ frameNames := by
  decide

theorem target_mem_partNames {count : Nat} {list : String × List Relationship}
    (member : list ∈ relationshipLists count) {item : Relationship} (known : item ∈ list.2) :
    Part.targetName list.1 item.target ∈ partNames count := by
  obtain fixed | rfl | ⟨number, rfl⟩ := mem_relationshipLists member
  · exact frame_mem_partNames (target_mem_frameNames list fixed item known) count
  · obtain fixed | slide := List.mem_append.mp known
    · have presentation : ("ppt/_rels/presentation.xml.rels", presentationRelationships 0) ∈
          relationshipLists 0 := by simp [relationshipLists]
      exact frame_mem_partNames
        (target_mem_frameNames _ presentation item (List.mem_append_left _ fixed)) count
    · obtain ⟨number, inside, rfl⟩ := List.mem_map.mp slide
      rw [targetName_slide]
      exact slideName_mem_partNames inside
  · obtain rfl := List.mem_singleton.mp known
    rw [targetName_layout]
    exact frame_mem_partNames (by decide) count

/-! Identifiers. -/

theorem relationshipId_injective : Function.Injective relationshipId := by
  intro first second same
  exact Nat.repr_injective ((String.append_right_inj "rId").mp same)

/-- The identifiers of a presentation are those from the first on, without a gap. -/
theorem ids_presentationRelationships (count : Nat) :
    (presentationRelationships count).map (·.id) = List.range' 1 (count + 2) := by
  have slides : (List.range' 1 count).map slideRelationship = List.range' 3 count := by
    refine (List.map_congr_left fun number _ => Nat.add_comm number 2).trans ?_
    exact List.map_add_range' 1 count 1
  rw [presentationRelationships, List.map_append, List.map_map, List.range'_succ, List.range'_succ, ← slides]
  rfl

theorem nodup_relationshipIds {count : Nat} {list : String × List Relationship}
    (member : list ∈ relationshipLists count) : (list.2.map fun item => relationshipId item.id).Nodup := by
  have fixedDistinct : ∀ list ∈ relationshipLists 0, (list.2.map (·.id)).Nodup := by decide
  have distinct : (list.2.map (·.id)).Nodup := by
    obtain fixed | rfl | ⟨number, rfl⟩ := mem_relationshipLists member
    · exact fixedDistinct list fixed
    · exact ids_presentationRelationships count ▸ List.nodup_range'
    · exact List.nodup_singleton 1
  have written := distinct.map relationshipId_injective
  rwa [List.map_map] at written

/-! The list of contents. -/

theorem partName_slide (number : Nat) : s!"/ppt/slides/slide{number}.xml" = "/" ++ slideName number := by
  have front : "/ppt/slides/slide" = "/" ++ "ppt/slides/slide" := by decide
  refine (congrArg (· ++ number.repr ++ ".xml") front).trans ?_
  rw [← slideName_eq, String.append_assoc, String.append_assoc]
  rfl

private theorem partNames_slides (count : Nat) :
    (ContentType.slides count).map (·.partName) = (List.range' 1 count).map fun number => "/" ++ slideName number := by
  rw [ContentType.slides, List.map_map]
  exact List.map_congr_left fun number _ => partName_slide number

def isDescribed (name : String) : Bool := !Part.holdsRelationships name && name != Package.contentsName

private theorem filter_slidePartNames (number : Nat) :
    (slidePartNames number).filter isDescribed = [slideName number] := by
  have relationships : isDescribed (slideRelationshipsName number) = false := by
    rw [isDescribed, holdsRelationships_slideRelationshipsName]
    rfl
  have listed : Package.contentsName ∈ frameNames := by decide
  have slide : slideName number ∈ slidePartNames number := mem_slidePartNames.mpr (.inr rfl)
  have other : slideName number ≠ Package.contentsName :=
    fun same => slidePartNames_not_mem_frameNames slide (same ▸ listed)
  have described : isDescribed (slideName number) = true := by
    rw [isDescribed, holdsRelationships_slideName, Bool.not_false, Bool.true_and, bne_iff_ne]
    exact other
  rw [slidePartNames, List.filter_cons, relationships, if_neg Bool.false_ne_true, List.filter_cons,
    described, if_pos rfl, List.filter_nil]

private theorem filter_partNames (count : Nat) :
    (partNames count).filter isDescribed = describedNames ++ (List.range' 1 count).map slideName := by
  have frame : frameNames.filter isDescribed = describedNames := by decide
  rw [partNames, List.filter_append, frame, List.filter_flatMap, List.map_eq_flatMap]
  simp only [filter_slidePartNames]

theorem overrides_perm (count : Nat) :
    ((ContentType.fixed ++ ContentType.slides count).map (·.partName)).Perm
      (((partNames count).filter isDescribed).map ("/" ++ ·)) := by
  have frame : (ContentType.fixed.map (·.partName)).Perm (describedNames.map ("/" ++ ·)) := by
    decide
  rw [filter_partNames, List.map_append, List.map_append, partNames_slides, List.map_map]
  exact frame.append_right _

end Deck

end SlidePress
