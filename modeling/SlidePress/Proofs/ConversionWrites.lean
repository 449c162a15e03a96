import SlidePress.Proofs.ConversionLoop
import SlidePress.Proofs.FilePlaces
import SlidePress.Proofs.ProgramRuns
import SlidePress.Proofs.SessionSilence

/-! What conversions do to files. A conversion writes the picture of its drawing and nothing else, and a
loop of them writes the pictures of its drawings. -/

namespace SlidePress

/-- Whether a renderer writes nothing but the picture that it is asked for. -/
def Renderer.IsTidy (renderer : Renderer) : Prop :=
  ∀ (session : Session) drawing picture data scale width height,
    session.tree.WritesOnly (renderer.store session drawing picture data scale width height).1 [picture]

theorem Svg.renderer_isTidy : Svg.renderer.IsTidy := by
  intro session drawing picture data scale width height
  rw [renderer]
  dsimp only
  split
  next written => exact FileTree.writesOnly_write written
  next => exact .refl session.tree _

/-- Whether neither the tool for pictures nor the renderer writes anything but the picture that it is asked
for. -/
structure Machine.IsTidy (machine : Machine) : Prop where
  tool : ∀ session settings drawing process,
    machine.start session (Conversion.toolCommand settings drawing) = .ok process →
    ∀ moment, session.tree.WritesOnly (process.after moment).tree [Conversion.picturePath drawing]
  renderer : machine.renderer.IsTidy

namespace Session

/-- The files are left as they are or as the program has left them at some moment. -/
theorem tree_run (machine : Machine) (session : Session) (command : Command) :
    (session.run machine command).2.tree = session.tree ∨
      ∃ process moment, machine.start (session.note (.launched command)) command = .ok process ∧
        (session.run machine command).2.tree = (process.after moment).tree := by
  cases started : machine.start (session.note (.launched command)) command with
  | error fault => cases fault <;> simp [run, started]
  | ok process =>
    refine .inr ⟨process, ?_⟩
    have ended : ∃ moment, process.undisturbed command.timeout = process.after moment := by
      rw [Process.undisturbed]
      split
      · exact ⟨_, rfl⟩
      · exact ⟨_, rfl⟩
    obtain ⟨moment, ended⟩ := ended
    simp only [run, started]
    split
    · exact ⟨moment, trivial, by rw [tree_afterProgram, ended]⟩
    · split
      · exact ⟨moment, trivial, by rw [tree_afterProgram, ended]⟩
      · exact ⟨_, trivial, by rw [tree_note, tree_afterProgram]⟩

end Session

namespace Conversion

variable {machine : Machine}

/-- A conversion leaves the session as the making of its picture has left it. -/
theorem convert_snd (machine : Machine) (settings : Settings) (session : Session) (drawing : Path) :
    (convert machine settings session drawing).2 = (makePicture machine settings session drawing).2 := by
  rw [convert]
  split
  next after made => rw [made]
  next failure after made => rw [made]
  next after made =>
    dsimp only
    split
    · rw [made]
    · rw [made]

theorem makePicture_snd_of_tool {settings : Settings} (made : settings.backend = .tool) (machine : Machine)
    (session : Session) (drawing : Path) :
    (makePicture machine settings session drawing).2 =
      (session.run machine (toolCommand settings drawing)).2 := by
  simp only [makePicture, made]
  split
  next after result => rw [result]
  next after result => rw [result]

private theorem writesOnly_renderPicture {renderer : Renderer} (tidy : renderer.IsTidy) (session : Session)
    (drawing picture : Path) (scale : Float32) :
    session.tree.WritesOnly (renderPicture renderer session drawing picture scale).2.tree [picture] := by
  rw [renderPicture]
  split
  · exact .refl session.tree _
  next content read =>
    split
    · exact .refl session.tree _
    next sides measured =>
      have stored := tidy session drawing picture content.data scale (pixelsAt sides.1 scale)
        (pixelsAt sides.2 scale)
      dsimp only
      split
      · exact .refl session.tree _
      · split
        next done =>
          rw [done] at stored
          exact stored
        next done =>
          rw [done] at stored
          exact stored

theorem makePicture_snd_of_builtIn {settings : Settings} {scale : Float32}
    (made : settings.backend = .builtIn scale)
    (machine : Machine) (session : Session) (drawing : Path) :
    (makePicture machine settings session drawing).2 =
      (renderPicture machine.renderer session drawing (picturePath drawing) scale).2 := by
  simp only [makePicture, made]
  split
  next after result => rw [result]
  next after result => rw [result]

private theorem writesOnly_makePicture (tidy : machine.IsTidy) (settings : Settings) (session : Session)
    (drawing : Path) :
    session.tree.WritesOnly (makePicture machine settings session drawing).2.tree
      [picturePath drawing] := by
  cases made : settings.backend with
  | tool =>
    rw [makePicture_snd_of_tool made]
    rcases session.tree_run machine (toolCommand settings drawing) with
      same | ⟨process, moment, started, same⟩
    · rw [same]
      exact .refl session.tree _
    · rw [same]
      exact tidy.tool _ settings drawing process started moment
  | builtIn scale =>
    rw [makePicture_snd_of_builtIn made]
    exact writesOnly_renderPicture tidy.renderer session drawing _ scale

private theorem writesOnly_convert (tidy : machine.IsTidy) (settings : Settings) (session : Session)
    (drawing : Path) :
    session.tree.WritesOnly (convert machine settings session drawing).2.tree [picturePath drawing] := by
  rw [convert_snd]
  exact writesOnly_makePicture tidy settings session drawing

private theorem Loop.writesOnly_turn (tidy : machine.IsTidy) {loop : Loop} (quiet : loop.IsQuiet)
    (settings : Settings)
    (session : Session) (drawing : Path) :
    session.tree.WritesOnly (loop.turn machine settings session drawing).2.tree [picturePath drawing] := by
  have front := quiet.tree_front drawing session
  rw [turn]
  split
  · have step := writesOnly_convert tidy settings (loop.front drawing session) drawing
    rwa [front] at step
  · rw [front]
    exact .refl session.tree _

/-- Loops that only tell write the pictures of their drawings and nothing else. -/
theorem Loop.writesOnly_run (tidy : machine.IsTidy) {loop : Loop} (quiet : loop.IsQuiet) (settings : Settings)
    (report : Report) (session : Session) (drawings : List Path) :
    session.tree.WritesOnly (loop.run machine settings report session drawings).2.tree
      (drawings.map picturePath) := by
  induction drawings generalizing report session with
  | nil => exact .refl session.tree []
  | cons drawing drawings ih =>
    have step := writesOnly_turn tidy quiet settings session drawing
    rw [run]
    split
    next outcome after turned =>
      rw [turned] at step
      have rest := ih (report.push outcome) (loop.behind outcome after)
      rw [quiet.tree_behind] at rest
      exact step.trans rest
    next after turned =>
      rw [turned] at step
      exact step.trans (.refl after.tree _)

/-- The picture of a drawing that has been converted is there. -/
theorem locate_of_converted {settings : Settings} {session : Session} {drawing source picture : Path}
    {bytes : Nat} {dimensions : Option (Nat × Nat)}
    (converted : (convert machine settings session drawing).1 =
      some (.converted source picture bytes dimensions)) :
    picture = picturePath drawing ∧
      ∃ place, (convert machine settings session drawing).2.tree.locate picture = .ok place := by
  rw [convert] at converted ⊢
  split at converted
  · cases converted
  · cases converted
  next after made =>
    dsimp only at converted ⊢
    split at converted
    · cases converted
    next size sized =>
      cases converted
      refine ⟨rfl, ?_⟩
      rw [pictureSize] at sized
      split at sized
      · cases sized
      next place located => exact ⟨place, located⟩

/-- After its last drawing, the files are as the conversion of this drawing has left them. -/
theorem Loop.tree_of_concat {loop : Loop} (quiet : loop.IsQuiet) {settings : Settings}
    {report result : Report} {session final : Session} {first : List Path} {drawing : Path}
    (done : loop.run machine settings report session (first ++ [drawing]) = (some result, final)) :
    final.tree = (convert machine settings
      (loop.front drawing (loop.run machine settings report session first).2) drawing).2.tree := by
  rw [run_append] at done
  split at done
  next sofar between before =>
    rw [before]
    rw [run] at done
    split at done
    next outcome after turned =>
      obtain rfl := (Prod.mk.inj done).2
      rw [(turn_eq_some_iff.mp turned).2]
      exact quiet.tree_behind outcome after
    next => cases done
  next => cases done

end Conversion

end SlidePress
