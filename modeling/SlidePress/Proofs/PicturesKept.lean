import SlidePress.Proofs.FolderPaths
import SlidePress.Proofs.PictureEndings
import SlidePress.Proofs.PictureTool

/-! What becomes of drawings and their pictures in a conversion. A picture stays while the drawings behind it
are converted unless a later one has the same picture. Drawings are never written. -/

namespace SlidePress.Conversion

variable {machine : Machine}

/-- The picture of a drawing that has been converted is in the end what it was at once, unless a later
drawing has the same one. -/
theorem Loop.entry_run (tidy : machine.IsTidy) {loop : Loop} (quiet : loop.IsQuiet) {settings : Settings}
    {session : Session} {first second : List Path} {drawing source picture : Path} {report : Report}
    {bytes : Nat} {dimensions : Option (Nat × Nat)}
    (done : (loop.run machine settings {} session (first ++ drawing :: second)).1 = some report)
    (told : report.outcomes[first.length]? = some (.converted source picture bytes dimensions))
    (apart : ∀ later ∈ second, picturePlace? session.tree later ≠ picturePlace? session.tree drawing) :
    (loop.run machine settings {} session (first ++ drawing :: second)).2.tree.entry? picture =
      (loop.run machine settings {} session (first ++ [drawing])).2.tree.entry? picture := by
  obtain ⟨outcome, known, turned⟩ := outcome_run (Prod.ext done rfl)
  rw [List.length_nil, Nat.zero_add, told, Option.some.injEq] at known
  subst known
  obtain ⟨-, converted⟩ := turn_eq_some_iff.mp (Prod.ext turned rfl)
  obtain ⟨rfl, place, located⟩ := locate_of_converted (congrArg Prod.fst converted)
  rw [List.append_cons, run_append] at done ⊢
  have earlier := writesOnly_run tidy quiet settings {} session (first ++ [drawing])
  cases upTo : loop.run machine settings {} session (first ++ [drawing]) with
  | mk sofar? between =>
    cases sofar? with
    | none => simp [upTo] at done
    | some sofar =>
      rw [upTo] at earlier
      -- folders do not change, so the places of pictures are still those at the beginning
      rw [← tree_of_concat quiet upTo] at located
      have own := picturePlace?_of_locate located
      have later := writesOnly_run tidy quiet settings sofar between second
      refine later.entry_eq located fun other inside found => ?_
      obtain ⟨drawing', member, rfl⟩ := List.mem_map.mp inside
      have shared := picturePlace?_eq_some_iff.mpr found
      rw [picturePlace?_eq earlier.toSameFolders] at own shared
      exact apart drawing' member (shared.trans own.symm)

/-- Drawings in one folder have the same picture exactly if their names are the same with all endings of
pictures taken for endings of drawings. In both loops, the picture of a drawing that has been
converted is in the end what it was at once, unless a later drawing has the same one. -/
theorem pictures_kept_unless_shared (tidy : machine.IsTidy) :
    (∀ folder name other first second, IsDrawing folder name first → IsDrawing folder other second →
      ((picturePath first).steps = (picturePath second).steps ↔ drawingName name = drawingName other) ∧
      ∀ tree place place', picturePlace? tree first = some place →
        picturePlace? tree second = some place' →
        (place = place' ↔ drawingName name = drawingName other)) ∧
    ∀ settings, ∀ run ∈ [convertAll machine settings, CommandLine.reportEach machine settings],
      ∀ session first drawing second report source picture bytes dimensions,
        (run session (first ++ drawing :: second)).1 = some report →
        report.outcomes[first.length]? = some (.converted source picture bytes dimensions) →
        (∀ later ∈ second, picturePlace? session.tree later ≠ picturePlace? session.tree drawing) →
        (run session (first ++ drawing :: second)).2.tree.entry? picture =
          (run session (first ++ [drawing])).2.tree.entry? picture := by
  refine ⟨fun folder name other first second one two => ⟨picturePath_steps_eq_iff one two,
    fun tree place place' found found' => picturePlace_eq_iff one two found found'⟩, ?_⟩
  intro settings run either session first drawing second report source picture bytes dimensions done told
    apart
  obtain ⟨loop, quiet, rfl⟩ := Loop.exists_eq_run machine settings either
  exact Loop.entry_run tidy quiet done told apart

def square (side : String) : Content :=
  .ofString
    ("<svg xmlns=\"http://www.w3.org/2000/svg\" width=\"" ++ side ++ "\" height=\"" ++ side ++ "\"/>")

def threeDrawings : FileTree where
  entries := [(["a.png.svg"], .file (square "1") false), (["a.svg"], .file (square "2") false),
    (["a.svg.svg"], .file (square "3") false)]

/-- The files once the first one of the three drawings has been converted, and once all of them have. -/
theorem convertAll_threeDrawings (draw : Content → Content) :
    let run := convertAll (toolMachine draw) {} { tree := threeDrawings }
    let first := threeDrawings.put ["a.png.png"] (.file (draw (square "1")) false)
    let second := first.put ["a.png"] (.file (draw (square "2")) false)
    let third := second.put ["a.png.png"] (.file (draw (square "3")) false)
    (run [⟨"a.png.svg"⟩]).2.tree = first ∧
      ∃ report log bytes dimensions, run [⟨"a.png.svg"⟩, ⟨"a.svg"⟩, ⟨"a.svg.svg"⟩] =
          (some report, { tree := third, log }) ∧ report.failureCount = 0 ∧
        report.outcomes[1]? = some (.converted ⟨"a.svg"⟩ ⟨"a.png"⟩ bytes dimensions) := by
  intro run first second third
  have shared : FileTree.IsFileName "a.png.png" := by decide +kernel
  obtain ⟨one, log, convertedOne⟩ := convert_name draw (square "1") threeDrawings [] rfl
    (by decide +kernel : FileTree.IsFileName "a.png.svg") shared (by decide +kernel) rfl (.inl rfl)
  obtain ⟨two, log', convertedTwo⟩ := convert_name draw (square "2") first log rfl
    (by decide +kernel : FileTree.IsFileName "a.svg") (by decide +kernel : FileTree.IsFileName "a.png")
    (by decide +kernel) rfl (.inl rfl)
  obtain ⟨three, log'', convertedThree⟩ := convert_name draw (square "3") second log' rfl
    (by decide +kernel : FileTree.IsFileName "a.svg.svg") shared (by decide +kernel) rfl (.inr ⟨_, rfl⟩)
  have whole : run [⟨"a.png.svg"⟩, ⟨"a.svg"⟩, ⟨"a.svg.svg"⟩] =
      convertFrom (toolMachine draw) {} _ { tree := third, log := log'' } [] :=
    (convertFrom_cons convertedOne {}).trans
      ((convertFrom_cons convertedTwo _).trans (convertFrom_cons convertedThree _))
  exact ⟨congrArg (·.2.tree) (convertFrom_cons convertedOne {}), _, log'', _, two, whole, rfl, rfl⟩

/-- The picture of the second drawing is still there when the third drawing has been converted. -/
theorem pictures_kept_of_three_drawings :
    let machine := toolMachine fun _ => .picture 1200 630
    let run := convertAll machine {} { tree := threeDrawings }
    machine.IsTidy ∧
      (run [⟨"a.png.svg"⟩, ⟨"a.svg"⟩, ⟨"a.svg.svg"⟩]).2.tree.entry? ⟨"a.png"⟩ =
        (run [⟨"a.png.svg"⟩, ⟨"a.svg"⟩]).2.tree.entry? ⟨"a.png"⟩ := by
  intro machine run
  have tidy : machine.IsTidy := toolMachine_isTidy _
  obtain ⟨-, report, log, bytes, dimensions, whole, -, told⟩ :=
    convertAll_threeDrawings fun _ => .picture 1200 630
  have second : picturePlace? threeDrawings ⟨"a.svg"⟩ = some ["a.png"] :=
    picturePlace?_eq_some_iff.mpr
    (FileTree.newPlace_name (by decide +kernel : FileTree.IsFileName "a.png") rfl)
  have third : picturePlace? threeDrawings ⟨"a.svg.svg"⟩ = some ["a.png.png"] :=
    picturePlace?_eq_some_iff.mpr
    (FileTree.newPlace_name (by decide +kernel : FileTree.IsFileName "a.png.png") rfl)
  have apart : ∀ later ∈ [(⟨"a.svg.svg"⟩ : Path)],
      picturePlace? threeDrawings later ≠ picturePlace? threeDrawings ⟨"a.svg"⟩ := by
    intro later inside
    rw [List.mem_singleton.mp inside, second, third]
    decide
  exact ⟨tidy, (pictures_kept_unless_shared tidy).2 {} _ List.mem_cons_self { tree := threeDrawings }
    [⟨"a.png.svg"⟩] ⟨"a.svg"⟩ [⟨"a.svg.svg"⟩] report _ _ _ _ (congrArg Prod.fst whole) told apart⟩

/-- Two drawings of one folder can have the same picture, and a batch that has converted both without a
failure has lost the first one. -/
theorem shared_picture_is_lost :
    (¬ ∀ folder name other first second, IsDrawing folder name first → IsDrawing folder other second →
      first.steps ≠ second.steps → (picturePath first).steps ≠ (picturePath second).steps) ∧
    let run := convertAll (toolMachine fun content => content) {} { tree := threeDrawings }
    (run [⟨"a.png.svg"⟩]).2.tree.find? ["a.png.png"] = some (.file (square "1") false) ∧
      (run [⟨"a.png.svg"⟩, ⟨"a.svg"⟩, ⟨"a.svg.svg"⟩]).2.tree.find? ["a.png.png"] =
        some (.file (square "3") false) ∧
      ∃ report, (run [⟨"a.png.svg"⟩, ⟨"a.svg"⟩, ⟨"a.svg.svg"⟩]).1 = some report ∧
        report.failureCount = 0 := by
  constructor
  · intro apart
    have one : IsDrawing [] "a.png.svg" ⟨"a.png.svg"⟩ := ⟨rfl, rfl, by decide⟩
    have two : IsDrawing [] "a.svg.svg" ⟨"a.svg.svg"⟩ := ⟨rfl, rfl, by decide⟩
    exact apart [] _ _ _ _ one two (by decide +kernel) (by decide +kernel)
  · obtain ⟨first, report, log, -, -, whole, none, -⟩ := convertAll_threeDrawings fun content => content
    refine ⟨?_, ?_, report, congrArg Prod.fst whole, none⟩
    · exact congrArg (·.find? ["a.png.png"]) first
    · exact congrArg (·.2.tree.find? ["a.png.png"]) whole

/-! ### Drawings -/

/-- While pictures are written, nothing changes, comes or goes under a name with the ending of drawings in
it. -/
theorem entry_of_drawing {older newer : FileTree} {drawings : List Path}
    (writes : older.WritesOnly newer (drawings.map picturePath)) {path : Path} {name : String}
    (named : path.name? = some name) (occurs : drawingEnding <:+: name.toList) :
    newer.entry? path = older.entry? path := by
  apply writes.entry_eq_of_places
  intro place located other inside found
  obtain ⟨drawing, -, rfl⟩ := List.mem_map.mp inside
  have own : place.getLast? = some name := by
    rcases located with before | after
    · exact FileTree.getLast?_of_locate named before
    · exact FileTree.getLast?_of_locate named after
  rw [getLast?_picturePlace found, Option.some.injEq] at own
  rw [← own] at occurs
  exact not_infix_pictureName _ occurs

/-- A picture is not its drawing and stands in the same folder. It is none of the drawings that are
converted with it if all their names have the ending of drawings in them: that of the picture has not.
So in both loops, and whatever is converted, all drawings are in the end what they have been. -/
theorem drawings_never_overwritten :
    (∀ drawing name, Path.name? drawing = some name →
      (picturePath drawing).steps ≠ drawing.steps ∧
        (picturePath drawing).parent?.map (·.steps) = drawing.parent?.map (·.steps) ∧
        ∃ picture, (picturePath drawing).name? = some picture ∧ ¬ drawingEnding <:+: picture.toList) ∧
    (∀ drawings : List Path,
      (∀ drawing ∈ drawings, ∃ name, drawing.name? = some name ∧ drawingEnding <:+: name.toList) →
      ∀ drawing ∈ drawings, ∀ source ∈ drawings, (picturePath drawing).steps ≠ source.steps) ∧
    ∀ machine : Machine, machine.IsTidy → ∀ settings,
      ∀ run ∈ [convertAll machine settings, CommandLine.reportEach machine settings],
        ∀ session drawings path name, Path.name? path = some name → drawingEnding <:+: name.toList →
          (run session drawings).2.tree.entry? path = session.tree.entry? path := by
  refine ⟨?_, ?_, ?_⟩
  · intro drawing name named
    obtain ⟨apart, beside⟩ := picturePath_beside named
    exact ⟨apart, beside, pictureName name, name?_picturePath named, not_infix_pictureName name⟩
  · intro drawings drawn drawing inside source inside'
    exact picturePath_ne drawn inside inside'
  · intro machine tidy settings run either session drawings path name named occurs
    obtain ⟨loop, quiet, rfl⟩ := Loop.exists_eq_run machine settings either
    exact entry_of_drawing (Loop.writesOnly_run tidy quiet settings {} session drawings) named occurs

/-- What is left of the first name around the ending would be an ending of drawings again without the one
of pictures between. -/
theorem drawings_never_overwritten_of_nested_endings :
    let nested : Path := ⟨"a.s.svgvg"⟩
    let plain : Path := ⟨"a.svg"⟩
    let tree : FileTree :=
      { entries := [(["a.s.svgvg"], .file (square "1") false), (["a.svg"], .file (square "2") false)] }
    let machine := toolMachine fun _ => .picture 1200 630
    nested.name? = some "a.s.svgvg" ∧ plain.name? = some "a.svg" ∧
      drawingEnding <:+: "a.s.svgvg".toList ∧ drawingEnding <:+: "a.svg".toList ∧ machine.IsTidy ∧
      (picturePath nested).steps ≠ nested.steps ∧ (picturePath nested).steps ≠ plain.steps ∧
      (picturePath nested).parent?.map (·.steps) = nested.parent?.map (·.steps) ∧
      (convertAll machine {} { tree } [nested, plain]).2.tree.entry? plain =
        some (.file (square "2") false) := by
  intro nested plain tree machine
  have named : nested.name? = some "a.s.svgvg" := by decide +kernel
  have named' : plain.name? = some "a.svg" := by decide +kernel
  have occurs : drawingEnding <:+: "a.s.svgvg".toList := by decide +kernel
  have occurs' : drawingEnding <:+: "a.svg".toList := by decide +kernel
  have tidy : machine.IsTidy := toolMachine_isTidy _
  have drawn : ∀ drawing ∈ [nested, plain],
      ∃ name, drawing.name? = some name ∧ drawingEnding <:+: name.toList := by
    intro drawing inside
    rcases List.mem_cons.mp inside with rfl | inside
    · exact ⟨_, named, occurs⟩
    · obtain rfl := List.mem_singleton.mp inside
      exact ⟨_, named', occurs'⟩
  obtain ⟨beside, others, spared⟩ := drawings_never_overwritten
  obtain ⟨apart, folder, -⟩ := beside nested _ named
  have first : nested ∈ [nested, plain] := List.mem_cons_self
  have second : plain ∈ [nested, plain] := List.mem_cons_of_mem nested List.mem_cons_self
  have other := others [nested, plain] drawn nested first plain second
  have valid : FileTree.IsFileName "a.svg" := by decide +kernel
  have there : tree.entry? plain = some (.file (square "2") false) := by
    have entry : tree.find? ["a.svg"] = some (.file (square "2") false) := rfl
    unfold FileTree.entry?
    rw [FileTree.locate_name valid rfl entry]
    exact entry
  have kept := spared machine tidy {} _ List.mem_cons_self { tree } [nested, plain] plain _ named' occurs'
  exact ⟨named, named', occurs, occurs', tidy, apart, other, folder, kept.trans there⟩

end SlidePress.Conversion
