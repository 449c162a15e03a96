import SlidePress.Conversion.Run
import SlidePress.Proofs.PathParents
import SlidePress.Proofs.PictureNames

/-! How the names of pictures end. The ending of drawings is in none of them, wherever it has been in the
name of the drawing. That of pictures is at the end unless a drawing has its ending inside its name and
goes on with something else. -/

namespace SlidePress.Conversion

/-! ### Names -/

theorem pictureName_of_not_occurs {name : String} (absent : ¬ drawingEnding <:+: name.toList) :
    (pictureName name).toList = name.toList ++ pictureEnding := by
  rw [pictureName, if_neg (mt Text.occursIn_iff.mp absent), String.toList_ofList]

theorem not_infix_pictureName (name : String) : ¬ drawingEnding <:+: (pictureName name).toList := by
  by_cases occurs : drawingEnding <:+: name.toList
  · rw [pictureName_of_occurs occurs]
    exact Text.not_infix_replaceAll (by decide) (by decide) (by decide) (by decide) name.toList
  · rw [pictureName_of_not_occurs occurs]
    exact Text.not_infix_append (by decide) (by decide) (by decide) occurs

private theorem pictureName_ne (name : String) : pictureName name ≠ name := by
  intro same
  have absent := not_infix_pictureName name
  rw [same] at absent
  have longer := pictureName_of_not_occurs absent
  rw [same, List.self_eq_append_right] at longer
  cases longer

private theorem suffix_pictureName_iff (name : String) :
    pictureEnding <:+ (pictureName name).toList ↔
      (drawingEnding <:+: name.toList →
        drawingEnding <:+ name.toList ∨ pictureEnding <:+ name.toList) := by
  by_cases occurs : drawingEnding <:+: name.toList
  · rw [pictureName_of_occurs occurs, forall_prop_of_true occurs]
    exact Text.suffix_replaceAll_iff (by decide) (by decide) (by decide) name.toList
  · rw [pictureName_of_not_occurs occurs]
    exact iff_of_true (List.suffix_append name.toList pictureEnding) fun found => absurd found occurs

/-! ### Paths -/

section

variable {drawing : Path} {name : String} (named : drawing.name? = some name)
include named

theorem name?_picturePath : (picturePath drawing).name? = some (pictureName name) := by
  obtain ⟨folder, found, -⟩ := picturePath_eq_join named
  rw [Path.name?_eq_some_iff, picturePath_steps named found, List.getLast?_concat]

/-- A picture stands in the folder of its drawing and is not the drawing. -/
theorem picturePath_beside : (picturePath drawing).steps ≠ drawing.steps ∧
    (picturePath drawing).parent?.map (·.steps) = drawing.parent?.map (·.steps) := by
  have named' := name?_picturePath named
  obtain ⟨folder, found, -⟩ := picturePath_eq_join named
  obtain ⟨folder', found', -⟩ := picturePath_eq_join named'
  have own := Path.steps_of_name? named found
  have steps := Path.steps_of_name? named' found'
  rw [picturePath_steps named found] at steps
  constructor
  · intro same
    rw [picturePath_steps named found, own, List.append_cancel_left_eq] at same
    exact pictureName_ne name (by simpa using same)
  · rw [found, found', Option.map_some, Option.map_some, List.append_cancel_right steps]

end

/-- No picture of drawings whose names have the ending of drawings in them is one of these drawings. -/
theorem picturePath_ne {drawings : List Path}
    (drawn : ∀ drawing ∈ drawings, ∃ name, drawing.name? = some name ∧ drawingEnding <:+: name.toList)
    {drawing source : Path} (inside : drawing ∈ drawings) (inside' : source ∈ drawings) :
    (picturePath drawing).steps ≠ source.steps := by
  intro same
  obtain ⟨name, named, -⟩ := drawn drawing inside
  obtain ⟨other, named', occurs⟩ := drawn source inside'
  have last := Path.name?_eq_some_iff.mp (name?_picturePath named)
  rw [same, Path.name?_eq_some_iff.mp named', Option.some.injEq, Step.name.injEq] at last
  rw [last] at occurs
  exact not_infix_pictureName name occurs

/-- The name of a picture ends as those of pictures do exactly if that of its drawing has the ending of
drawings nowhere, or has one of the two endings at its end. -/
theorem picture_named_png_iff {drawing : Path} {name : String} (named : drawing.name? = some name) :
    ∃ picture, (picturePath drawing).name? = some picture ∧
      (pictureEnding <:+ picture.toList ↔
        (drawingEnding <:+: name.toList →
          drawingEnding <:+ name.toList ∨ pictureEnding <:+ name.toList)) :=
  ⟨pictureName name, name?_picturePath named, suffix_pictureName_iff name⟩

/-- The ending of drawings stands inside a name that goes on with the other ending. -/
theorem picture_named_png_of_inner_ending :
    (⟨"images/a.svg.png"⟩ : Path).name? = some "a.svg.png" ∧ drawingEnding <:+: "a.svg.png".toList ∧
      ∃ picture, (picturePath ⟨"images/a.svg.png"⟩).name? = some picture ∧
        pictureEnding <:+ picture.toList := by
  have named : (⟨"images/a.svg.png"⟩ : Path).name? = some "a.svg.png" := by decide +kernel
  have occurs : drawingEnding <:+: "a.svg.png".toList := by decide +kernel
  have ends : pictureEnding <:+ "a.svg.png".toList := by decide +kernel
  obtain ⟨picture, found, exact⟩ := picture_named_png_iff named
  exact ⟨named, occurs, picture, found, exact.mpr fun _ => .inr ends⟩

/-- A compressed drawing has a picture that is none by its name, and nothing can be read from that. -/
theorem compressed_drawing_not_named_png :
    (¬ ∀ (drawing : Path) (name : String), drawing.name? = some name →
      ∃ picture, (picturePath drawing).name? = some picture ∧ pictureEnding <:+ picture.toList) ∧
    picturePath ⟨"a.svgz"⟩ = ⟨"a.pngz"⟩ ∧
    ∀ tree, pictureDimensions tree (picturePath ⟨"a.svgz"⟩) = none := by
  refine ⟨fun always => ?_, by decide +kernel, fun tree => ?_⟩
  · obtain ⟨picture, found, ends⟩ := always ⟨"a.svgz"⟩ "a.svgz" (by decide +kernel)
    have other : (picturePath ⟨"a.svgz"⟩).name? = some "a.pngz" := by decide +kernel
    rw [other, Option.some.injEq] at found
    subst found
    revert ends
    decide +kernel
  · have unknown : (picturePath ⟨"a.svgz"⟩).ending?.bind Picture.Format.ofEnding? = none := by
      decide +kernel
    rw [pictureDimensions, unknown]
    rfl

end SlidePress.Conversion
