import SlidePress.Conversion.Drawings
import SlidePress.Proofs.PathPlaces
import SlidePress.Proofs.TextReplacing

/-! Which drawings have the same picture. The name of a picture does not tell what was an ending of
drawings in the name of its drawing from what was one of pictures there already. -/

namespace SlidePress

namespace Text

variable {old new text : List Char}

private theorem mem_replaceAll (nonempty : old ≠ []) {char : Char} (found : char ∈ replaceAll old new text) :
    char ∈ new ∨ char ∈ text := by
  induction text using replacing_induction nonempty with
  | nil => exact absurd found List.not_mem_nil
  | occurrence rest ih =>
    rw [replaceAll_append nonempty, List.mem_append] at found
    rcases found with written | kept
    · exact .inl written
    · exact (ih kept).imp_right (List.mem_append_right old)
  | other first text absent ih =>
    rw [replaceAll_cons absent, List.mem_cons] at found
    rcases found with rfl | later
    · exact .inr List.mem_cons_self
    · exact (ih later).imp_right (List.mem_cons_of_mem first)

private theorem infix_replaceAll (nonempty : old ≠ []) (occurs : old <:+: text) :
    new <:+: replaceAll old new text := by
  induction text using replacing_induction nonempty with
  | nil => exact absurd (List.infix_nil.mp occurs) nonempty
  | occurrence rest ih =>
    rw [replaceAll_append nonempty]
    exact (List.prefix_append new _).isInfix
  | other first text absent ih =>
    rw [replaceAll_cons absent]
    exact List.infix_cons ((List.infix_cons_iff.mp occurs).elim (fun front => absurd front absent) ih)

end Text

namespace Conversion

/-- A name with each ending of pictures in it taken for one of drawings. -/
def drawingName (name : String) : String :=
  String.ofList (Text.replaceAll pictureEnding drawingEnding name.toList)

theorem pictureName_of_occurs {name : String} (occurs : drawingEnding <:+: name.toList) :
    (pictureName name).toList = Text.replaceAll drawingEnding pictureEnding name.toList := by
  rw [pictureName, if_pos (Text.occursIn_iff.mpr occurs), String.toList_ofList]

private theorem infix_pictureName (name : String) : pictureEnding <:+: (pictureName name).toList := by
  by_cases occurs : drawingEnding <:+: name.toList
  · rw [pictureName_of_occurs occurs]
    exact Text.infix_replaceAll (by decide) occurs
  · rw [pictureName, if_neg (mt Text.occursIn_iff.mp occurs), String.toList_ofList]
    exact (List.suffix_append _ _).isInfix

private theorem isName_pictureName {name : String} (step : Path.IsName name.toList) :
    Path.IsName (pictureName name).toList := by
  have inside : 'p' ∈ (pictureName name).toList := (infix_pictureName name).subset (by decide)
  refine ⟨?_, ?_, ?_⟩
  · refine eq_false_of_ne_true fun idle => ?_
    rw [Path.isIdle, Bool.or_eq_true, List.isEmpty_iff, beq_iff_eq] at idle
    rcases idle with empty | dot
    · rw [empty] at inside
      exact List.not_mem_nil inside
    · rw [dot] at inside
      exact absurd inside (by decide)
  · intro up
    rw [up] at inside
    exact absurd inside (by decide)
  · intro slash
    rw [pictureName, String.toList_ofList] at slash
    split at slash
    · rcases Text.mem_replaceAll (by decide) slash with written | kept
      · exact absurd written (by decide)
      · exact step.uncut kept
    · rcases List.mem_append.mp slash with kept | written
      · exact step.uncut kept
      · exact absurd written (by decide)

/-- Two names give the same name of a picture exactly if they are the same with all endings of pictures
taken for endings of drawings. -/
theorem pictureName_eq_iff {first second : String} (occurs : drawingEnding <:+: first.toList)
    (occurs' : drawingEnding <:+: second.toList) :
    pictureName first = pictureName second ↔ drawingName first = drawingName second := by
  rw [← String.toList_inj, pictureName_of_occurs occurs, pictureName_of_occurs occurs', drawingName,
    drawingName, String.ofList_inj]
  exact Text.replaceAll_eq_replaceAll_iff (by decide) (by decide) (by decide) (by decide) _ _

/-- The picture is in the folder of its drawing. -/
theorem picturePath_eq_join {drawing : Path} {name : String} (named : drawing.name? = some name) :
    ∃ folder, drawing.parent? = some folder ∧ picturePath drawing = folder.join ⟨pictureName name⟩ := by
  obtain ⟨folder, found, joined⟩ := Path.withName_eq_join named
  refine ⟨folder, found, ?_⟩
  rw [picturePath, named, Option.getD_some, joined]

theorem picturePath_steps {drawing folder : Path} {name : String} (named : drawing.name? = some name)
    (found : drawing.parent? = some folder) :
    (picturePath drawing).steps = folder.steps ++ [.name (pictureName name)] := by
  obtain ⟨parent, known, written⟩ := picturePath_eq_join named
  obtain rfl := Option.some.inj (found.symm.trans known)
  rw [written, Path.steps_join (isName_pictureName (Path.isName_of_name? named))]

/-- Whether a path is that of a drawing with a name in a folder, which is known by its steps. -/
structure IsDrawing (folder : List Step) (name : String) (drawing : Path) : Prop where
  named : drawing.name? = some name
  inside : drawing.parent?.map (·.steps) = some folder
  ending : drawingEnding <:+ name.toList

private theorem steps_picturePath {folder : List Step} {name : String} {drawing : Path}
    (drawn : IsDrawing folder name drawing) :
    (picturePath drawing).steps = folder ++ [.name (pictureName name)] := by
  obtain ⟨parent, found, -⟩ := picturePath_eq_join drawn.named
  have inside := drawn.inside
  rw [found, Option.map_some, Option.some.injEq] at inside
  rw [picturePath_steps drawn.named found, inside]

/-- Two drawings in one folder have the same picture exactly if their names are the same with all
endings of pictures taken for endings of drawings. -/
theorem picturePath_steps_eq_iff {folder : List Step} {name other : String} {first second : Path}
    (one : IsDrawing folder name first) (two : IsDrawing folder other second) :
    (picturePath first).steps = (picturePath second).steps ↔ drawingName name = drawingName other := by
  rw [steps_picturePath one, steps_picturePath two,
    ← pictureName_eq_iff one.ending.isInfix two.ending.isInfix]
  simp

/-! ### Places

What stands at other places does not matter for where a picture is, only which folders there are. -/

/-- The place of a file, if that is what has been found. -/
def filePlace? : Except Fault (Option (Location × Bool)) → Option Location
  | .ok (some (place, false)) => some place
  | _ => none

/-- The place of the picture of a drawing, if there can be one. -/
def picturePlace? (tree : FileTree) (drawing : Path) : Option Location :=
  filePlace? (tree.newPlace (picturePath drawing))

theorem picturePlace?_eq_some_iff {tree : FileTree} {drawing : Path} {place : Location} :
    picturePlace? tree drawing = some place ↔
      tree.newPlace (picturePath drawing) = .ok (some (place, false)) := by
  have exact (found : Except Fault (Option (Location × Bool))) :
      filePlace? found = some place ↔ found = .ok (some (place, false)) := by
    unfold filePlace?
    split
    · simp
    next other => exact iff_of_false (by simp) fun found => other place found
  exact exact _

theorem picturePlace?_eq {older newer : FileTree} (same : older.SameFolders newer) (drawing : Path) :
    picturePlace? newer drawing = picturePlace? older drawing := by
  refine Option.ext fun place => ?_
  rw [picturePlace?_eq_some_iff, picturePlace?_eq_some_iff]
  exact ⟨same.symm.newPlace, same.newPlace⟩

/-- The name of a picture is the last piece of its path, also where a drawing has no name. -/
theorem pieces_picturePath (drawing : Path) :
    Path.IsName (pictureName (drawing.name?.getD "")).toList ∧ ∃ front,
      Text.pieces '/' (picturePath drawing).text.toList =
        front ++ [(pictureName (drawing.name?.getD "")).toList] := by
  cases named : drawing.name? with
  | some name =>
    obtain ⟨folder, -, written⟩ := picturePath_eq_join named
    have step := isName_pictureName (Path.isName_of_name? named)
    obtain ⟨front, parts, -⟩ := Path.pieces_join step.uncut folder
    exact ⟨step, front, by rw [written, parts, Option.getD_some]⟩
  | none =>
    have step : Path.IsName (pictureName "").toList := ⟨by decide, by decide, by decide⟩
    have written : picturePath drawing = drawing.join ⟨pictureName ""⟩ := by
      rw [picturePath, named, Path.withName, named]
      rfl
    obtain ⟨front, parts, -⟩ := Path.pieces_join step.uncut drawing
    exact ⟨step, front, by rw [written, parts, Option.getD_none]⟩

theorem picturePlace?_of_locate {tree : FileTree} {drawing : Path} {place : Location}
    (located : tree.locate (picturePath drawing) = .ok place) :
    picturePlace? tree drawing = some place := by
  obtain ⟨step, front, parts⟩ := pieces_picturePath drawing
  exact picturePlace?_eq_some_iff.mpr (FileTree.newPlace_of_locate parts step located)

/-- The place of a picture ends with its name. -/
theorem getLast?_picturePlace {tree : FileTree} {drawing : Path} {place : Location}
    (found : tree.newPlace (picturePath drawing) = .ok (some (place, false))) :
    place.getLast? = some (pictureName (drawing.name?.getD "")) := by
  obtain ⟨-, front, last, folder, parts, -, -, -, -, rfl⟩ := FileTree.newPlace_eq_some_iff.mp found
  obtain ⟨written, -⟩ := FileTree.splitLast_eq_some_iff.mp parts
  obtain ⟨-, front', written'⟩ := pieces_picturePath drawing
  rw [written'] at written
  have same : (pictureName (drawing.name?.getD "")).toList = last := by
    simpa using congrArg List.getLast? written
  rw [← same, String.ofList_toList, List.getLast?_concat]

/-- Drawings in one folder have their pictures at one place exactly if their names are the same with all
endings of pictures taken for endings of drawings. -/
theorem picturePlace_eq_iff {folder : List Step} {name other : String} {first second : Path}
    (one : IsDrawing folder name first) (two : IsDrawing folder other second) {tree : FileTree}
    {place place' : Location} (found : picturePlace? tree first = some place)
    (found' : picturePlace? tree second = some place') :
    place = place' ↔ drawingName name = drawingName other := by
  rw [picturePlace?_eq_some_iff] at found found'
  constructor
  · rintro rfl
    rw [← pictureName_eq_iff one.ending.isInfix two.ending.isInfix]
    have last := getLast?_picturePlace found
    have last' := getLast?_picturePlace found'
    rw [one.named] at last
    rw [two.named] at last'
    exact Option.some.inj (last.symm.trans last')
  · intro same
    have steps := (picturePath_steps_eq_iff one two).mpr same
    exact FileTree.place_of_steps steps found found'

end Conversion

end SlidePress
