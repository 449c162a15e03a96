import SlidePress.Proofs.ConversionReports
import SlidePress.Proofs.ConversionWrites
import SlidePress.Proofs.PathPlaces

/-! A tool that makes pictures out of what is in drawings, and what a conversion with it leaves. -/

namespace SlidePress.Conversion

def drawn? (draw : Content → Content) (tree : FileTree) (drawing picture : Path) : Option FileTree :=
  match tree.read drawing with
  | .error _ => none
  | .ok content => (tree.write picture (draw content)).toOption

private theorem writesOnly_drawn? (draw : Content → Content) (tree : FileTree) (drawing picture : Path) :
    tree.WritesOnly ((drawn? draw tree drawing picture).getD tree) [picture] := by
  rw [drawn?]
  split
  · exact .refl tree _
  next content read =>
    cases written : tree.write picture (draw content) with
    | error fault => exact .refl tree _
    | ok newer => exact FileTree.writesOnly_write written

def toolMachine (draw : Content → Content) : Machine where
  start session command :=
    let tree? := match command.arguments with
      | [_, _, _, _, drawing, _, picture] => drawn? draw session.tree ⟨drawing⟩ ⟨picture⟩
      | _ => none
    .ok {
      ending? := some (0, .exited (if tree?.isSome then 0 else 1))
      after := fun _ => { tree := tree?.getD session.tree } }
  renderer := Svg.renderer

theorem toolMachine_isTidy (draw : Content → Content) : (toolMachine draw).IsTidy where
  tool := by
    intro session settings drawing process started moment
    obtain rfl := Except.ok.inj started
    exact writesOnly_drawn? draw session.tree drawing (picturePath drawing)
  renderer := Svg.renderer_isTidy

/-- The process of the tool for a drawing. -/
theorem start_toolMachine {draw : Content → Content} {session : Session} {drawing : Path} {tree : FileTree}
    (settings : Settings) (drawn : drawn? draw session.tree drawing (picturePath drawing) = some tree) :
    (toolMachine draw).start session (toolCommand settings drawing) =
      .ok { ending? := some (0, .exited 0), after := fun _ => { tree } } := by
  have same : drawn? draw session.tree ⟨drawing.text⟩ ⟨(picturePath drawing).text⟩ = some tree := drawn
  simp only [toolMachine, toolCommand, same, Option.isSome_some, if_true, Option.getD_some]

private theorem drawn?_eq_some {draw : Content → Content} {tree newer : FileTree} {drawing picture : Path}
    {content : Content} (read : tree.read drawing = .ok content)
    (written : tree.write picture (draw content) = .ok newer) :
    drawn? draw tree drawing picture = some newer := by
  rw [drawn?, read]
  simp only [written, Except.toOption]

private theorem convert_toolMachine {draw : Content → Content} {tree newer : FileTree} (log : List Event)
    {drawing : Path} {content : Content} {bytes : Nat} (read : tree.read drawing = .ok content)
    (written : tree.write (picturePath drawing) (draw content) = .ok newer)
    (sized : pictureSize newer (picturePath drawing) = .ok bytes) :
    convert (toolMachine draw) {} { tree, log } drawing =
      (some (.converted drawing (picturePath drawing) bytes
          (pictureDimensions newer (picturePath drawing))),
        { tree := newer, log := log ++ [.launched (toolCommand {} drawing)] }) := by
  have drawn := drawn?_eq_some read written
  have made : makePicture (toolMachine draw) {} { tree, log } drawing =
      (.ok (), { tree := newer, log := log ++ [.launched (toolCommand {} drawing)] }) :=
    makePicture_of_prompt rfl (start_toolMachine {} drawn)
  rw [convert, made]
  simp only [sized]

/-- The conversion of a drawing in the root folder. -/
theorem convert_name (draw : Content → Content) (content : Content) (tree : FileTree) (log : List Event)
    {name other : String} {runnable : Bool} (root : tree.here = []) (valid : FileTree.IsFileName name)
    (valid' : FileTree.IsFileName other) (path : picturePath ⟨name⟩ = ⟨other⟩)
    (there : tree.find? [name] = some (.file content runnable))
    (free : tree.find? [other] = none ∨ ∃ old, tree.find? [other] = some (.file old false)) :
    ∃ dimensions log', convert (toolMachine draw) {} { tree, log } ⟨name⟩ =
      (some (.converted ⟨name⟩ ⟨other⟩ (draw content).size dimensions),
        { tree := tree.put [other] (.file (draw content) false), log := log' }) := by
  have read := FileTree.read_name valid root there
  have written := FileTree.write_name valid' root free (draw content)
  have after := FileTree.find?_put tree (List.cons_ne_nil other []) (.file (draw content) false) [other]
  rw [if_pos rfl] at after
  have root' : (tree.put [other] (.file (draw content) false)).here = [] := root
  have sized : pictureSize (tree.put [other] (.file (draw content) false)) ⟨other⟩ =
      .ok (draw content).size := by
    simp only [pictureSize, FileTree.locate_name valid' root' after, after]
  rw [← path] at written sized ⊢
  exact ⟨_, _, convert_toolMachine log read written sized⟩

end SlidePress.Conversion
