import SlidePress.Proofs.PackageClosure

/-! The names of parts by their steps, and those of the two parts of a slide by its number. -/

namespace SlidePress

namespace Part

private theorem ofSteps_steps (name : String) : ofSteps (steps name) = name := by
  rw [ofSteps, steps, List.intercalate_splitOn, String.ofList_toList]

private theorem steps_file (folder : String) {file : String} (whole : '/' ∉ file.toList) :
    steps (folder ++ "/" ++ file) = steps folder ++ [file.toList] := by
  have written : (folder ++ "/" ++ file).toList = folder.toList ++ '/' :: file.toList := by simp
  rw [steps, written, List.splitOn_append_cons_self, List.splitOn_eq_singleton whole, steps]

private theorem targetName_relative (relationships : String) {target : String}
    (relative : (steps target).head? ≠ some []) :
    targetName relationships target =
      ofSteps ((steps target).foldl follow (steps relationships).dropLast.dropLast) := by
  unfold targetName
  split
  next path root => exact absurd (by rw [root]; rfl) relative
  next => rfl

private theorem holdsRelationships_rels (front : String) : holdsRelationships (front ++ ".rels") = true := by
  rw [holdsRelationships, Text.endsWith, String.toList_append, List.reverse_append, Text.startsWith]
  rfl

private theorem holdsRelationships_xml (front : String) : holdsRelationships (front ++ ".xml") = false := by
  rw [holdsRelationships, Text.endsWith, String.toList_append, List.reverse_append, Text.startsWith]
  rfl

end Part

namespace Deck
variable (number : Nat)

def slideFile : String := "slide" ++ number.repr ++ ".xml"

def slideName : String := "ppt/slides" ++ "/" ++ slideFile number

def slideRelationshipsName : String := "ppt/slides/_rels" ++ "/" ++ (slideFile number ++ ".rels")

private theorem folder_slideFile (folder : String) :
    folder ++ "/" ++ slideFile number = folder ++ "/" ++ "slide" ++ number.repr ++ ".xml" := by
  simp only [slideFile, String.append_assoc]

private theorem slideTarget_eq : s!"slides/slide{number}.xml" = "slides" ++ "/" ++ slideFile number := by
  have front : "slides/slide" = "slides" ++ "/" ++ "slide" := by decide
  exact (congrArg (· ++ number.repr ++ ".xml") front).trans (folder_slideFile number "slides").symm

theorem slideName_eq : s!"ppt/slides/slide{number}.xml" = slideName number := by
  have front : "ppt/slides/slide" = "ppt/slides" ++ "/" ++ "slide" := by decide
  exact (congrArg (· ++ number.repr ++ ".xml") front).trans (folder_slideFile number "ppt/slides").symm

theorem slideRelationshipsName_eq :
    s!"ppt/slides/_rels/slide{number}.xml.rels" = slideRelationshipsName number := by
  have front : "ppt/slides/_rels/slide" = "ppt/slides/_rels" ++ "/" ++ "slide" := by decide
  have back : ".xml.rels" = ".xml" ++ ".rels" := by decide
  calc s!"ppt/slides/_rels/slide{number}.xml.rels"
    _ = "ppt/slides/_rels" ++ "/" ++ "slide" ++ number.repr ++ (".xml" ++ ".rels") :=
      congrArg₂ (· ++ number.repr ++ ·) front back
    _ = "ppt/slides/_rels" ++ "/" ++ "slide" ++ number.repr ++ ".xml" ++ ".rels" :=
      String.append_assoc.symm
    _ = "ppt/slides/_rels" ++ "/" ++ slideFile number ++ ".rels" :=
      congrArg (· ++ ".rels") (folder_slideFile number "ppt/slides/_rels").symm
    _ = slideRelationshipsName number := String.append_assoc

/-- A number is written without a slash. -/
theorem slash_not_mem_slideFile : '/' ∉ (slideFile number).toList := by
  intro member
  simp only [slideFile, String.toList_append, List.mem_append, Nat.toList_repr] at member
  obtain (front | digit) | back := member
  · exact absurd front (by decide)
  · exact absurd (Nat.isDigit_of_mem_toDigits (by decide) (by decide) digit) (by decide)
  · exact absurd back (by decide)

theorem steps_slideName :
    Part.steps (slideName number) = ["ppt".toList, "slides".toList, (slideFile number).toList] := by
  have folder : Part.steps "ppt/slides" = ["ppt".toList, "slides".toList] := by decide
  rw [slideName, Part.steps_file _ (slash_not_mem_slideFile number), folder]
  rfl

private theorem follow_slideFile (place : List (List Char)) :
    Part.follow place (slideFile number).toList = place ++ [(slideFile number).toList] := by
  have long : 3 ≤ (slideFile number).toList.length := by
    simp only [slideFile, String.toList_append, List.length_append]
    have front : "slide".toList.length = 5 := by decide
    omega
  have here : (slideFile number).toList ≠ ['.'] := fun same => by simp [same] at long
  have above : (slideFile number).toList ≠ ['.', '.'] := fun same => by simp [same] at long
  rw [Part.follow, if_neg here, if_neg above]

theorem steps_slideRelationshipsName :
    Part.steps (slideRelationshipsName number) =
      ["ppt".toList, "slides".toList, "_rels".toList, (slideFile number ++ ".rels").toList] := by
  have whole : '/' ∉ (slideFile number ++ ".rels").toList := by
    rw [String.toList_append, List.mem_append, not_or]
    exact ⟨slash_not_mem_slideFile number, by decide⟩
  have folder : Part.steps "ppt/slides/_rels" = ["ppt".toList, "slides".toList, "_rels".toList] := by
    decide
  have path := Part.steps_file "ppt/slides/_rels" whole
  rw [folder] at path
  exact path

/-- The relationship of the presentation to a slide leads to the part of that slide. -/
theorem targetName_slide :
    Part.targetName "ppt/_rels/presentation.xml.rels" s!"slides/slide{number}.xml" =
      slideName number := by
  have parent : (Part.steps "ppt/_rels/presentation.xml.rels").dropLast.dropLast = ["ppt".toList] := by
    decide
  have path : Part.steps s!"slides/slide{number}.xml" =
      ["slides".toList, (slideFile number).toList] := by
    have folder : Part.steps "slides" = ["slides".toList] := by decide
    rw [slideTarget_eq, Part.steps_file _ (slash_not_mem_slideFile number), folder]
    rfl
  have down : Part.follow ["ppt".toList] "slides".toList = ["ppt".toList, "slides".toList] := by
    decide
  have relative : (Part.steps s!"slides/slide{number}.xml").head? ≠ some [] := by
    rw [path]
    exact fun same => absurd (Option.some.inj same) (by decide)
  rw [Part.targetName_relative _ relative, parent, path, List.foldl_cons, down, List.foldl_cons,
    follow_slideFile, List.foldl_nil, ← Part.ofSteps_steps (slideName number), steps_slideName]
  rfl

/-- Every slide has the one layout. -/
theorem targetName_layout :
    Part.targetName (slideRelationshipsName number) "../slideLayouts/slideLayout1.xml" =
      "ppt/slideLayouts/slideLayout1.xml" := by
  have parent : (Part.steps (slideRelationshipsName number)).dropLast.dropLast =
      ["ppt".toList, "slides".toList] := by
    rw [steps_slideRelationshipsName]
    rfl
  rw [Part.targetName_relative _ (by decide), parent]
  decide

theorem holdsRelationships_slideName : Part.holdsRelationships (slideName number) = false := by
  have written : slideName number = "ppt/slides" ++ "/" ++ "slide" ++ number.repr ++ ".xml" :=
    folder_slideFile number "ppt/slides"
  rw [written, Part.holdsRelationships_xml]

theorem holdsRelationships_slideRelationshipsName :
    Part.holdsRelationships (slideRelationshipsName number) = true := by
  have written : slideRelationshipsName number =
      "ppt/slides/_rels" ++ "/" ++ slideFile number ++ ".rels" := String.append_assoc.symm
  rw [written, Part.holdsRelationships_rels]

end Deck

end SlidePress
