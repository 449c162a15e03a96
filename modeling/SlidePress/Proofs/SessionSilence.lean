import SlidePress.Conversion.Run

/-! What the program tells its user is no matter for other programs, nor for its renderer. A session without
it leads to the same conversions. -/

namespace SlidePress

def Event.isTold : Event → Bool
  | .told _ => true
  | _ => false

namespace Session

def silent (session : Session) : Session :=
  { session with log := session.log.filter (!·.isTold) }

@[simp] theorem tree_silent (session : Session) : session.silent.tree = session.tree := rfl

@[simp] theorem tree_note (session : Session) (event : Event) :
    (session.note event).tree = session.tree := rfl

@[simp] theorem clock_silent (session : Session) : session.silent.clock = session.clock := rfl

@[simp] theorem silent_tell (session : Session) (text : String) :
    (session.tell text).silent = session.silent := by
  simp [tell, note, silent, Event.isTold]

@[simp] theorem tree_tellLines (session : Session) (lines : List String) :
    (session.tellLines lines).tree = session.tree := by
  induction lines generalizing session with
  | nil => rfl
  | cons line lines ih => exact ih (session.tell (line ++ "\n"))

theorem launches_silent (session : Session) : session.silent.launches = session.launches := by
  rw [launches, launches, silent, List.filterMap_filter]
  congr 1
  funext event
  cases event <;> rfl

private theorem silent_note {event : Event} (unspoken : event.isTold = false) (session : Session) :
    (session.note event).silent = session.silent.note event := by
  simp [note, silent, unspoken]

private theorem silent_afterProgram (session : Session) (command : Command) (snapshot : Snapshot)
    (elapsed : Nat) : (session.afterProgram command snapshot elapsed).silent =
      session.silent.afterProgram command snapshot elapsed := by
  rw [afterProgram, afterProgram]
  split
  · rfl
  · rw [silent_note rfl]
    rfl

end Session

/-- Whether programs and the renderer take no notice of what has been told. -/
structure Machine.IsDeaf (machine : Machine) : Prop where
  start : ∀ session, machine.start session.silent = machine.start session
  measure : ∀ session, machine.renderer.measure session.silent = machine.renderer.measure session
  hasRoom : ∀ session, machine.renderer.hasRoom session.silent = machine.renderer.hasRoom session
  store : ∀ session, machine.renderer.store session.silent = machine.renderer.store session

variable {machine : Machine}

theorem Session.run_silent (deaf : machine.IsDeaf) (session : Session) (command : Command) :
    session.silent.run machine command =
      ((session.run machine command).1, (session.run machine command).2.silent) := by
  have launched : session.silent.note (.launched command) = (session.note (.launched command)).silent :=
    (silent_note rfl session).symm
  simp only [run, launched, deaf.start (session.note (.launched command)), clock_silent]
  cases machine.start (session.note (.launched command)) command with
  | error fault => cases fault <;> rfl
  | ok process =>
    simp only [← silent_afterProgram]
    split
    · rfl
    · split
      · rfl
      · rw [silent_note rfl]

namespace Conversion

private theorem renderPicture_silent (deaf : machine.IsDeaf) (session : Session) (drawing picture : Path)
    (scale : Float32) : renderPicture machine.renderer session.silent drawing picture scale =
      ((renderPicture machine.renderer session drawing picture scale).1,
        (renderPicture machine.renderer session drawing picture scale).2.silent) := by
  simp only [renderPicture, Session.tree_silent, deaf.measure, deaf.hasRoom, deaf.store]
  split
  · rfl
  · split
    · rfl
    · split
      · rfl
      · split <;> rfl

variable (settings : Settings)

private theorem makePicture_silent (deaf : machine.IsDeaf) (session : Session) (drawing : Path) :
    makePicture machine settings session.silent drawing =
      ((makePicture machine settings session drawing).1,
        (makePicture machine settings session drawing).2.silent) := by
  rw [makePicture, makePicture]
  split
  · rw [Session.run_silent deaf]
    rcases session.run machine (toolCommand settings drawing) with ⟨output | stop, after⟩ <;> rfl
  next scale made =>
    rw [renderPicture_silent deaf]
    rcases renderPicture machine.renderer session drawing (picturePath drawing) scale with
      ⟨pixels | failure, after⟩ <;> rfl

theorem convert_silent (deaf : machine.IsDeaf) (session : Session) (drawing : Path) :
    convert machine settings session.silent drawing =
      ((convert machine settings session drawing).1,
        (convert machine settings session drawing).2.silent) := by
  rw [convert, makePicture_silent settings deaf, convert]
  rcases makePicture machine settings session drawing with ⟨(_ | _) | _, after⟩
  · rfl
  · rfl
  · simp only [Session.tree_silent]
    split <;> rfl

end Conversion

end SlidePress
