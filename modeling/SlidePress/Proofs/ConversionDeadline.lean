import SlidePress.Proofs.ConversionLoop
import SlidePress.Proofs.ProgramRuns

/-! The deadline of a command that the clock cannot show. It is found out only after the command has
been started, so the program breaks down in the middle of a conversion, and the drawings behind it
are not converted. Timeouts of less than half the range of the clock keep the other half for the
present moment. -/

namespace SlidePress

namespace Conversion

/-- Whether a conversion breaks the program down: the tool has been started, and the seconds that it
may take lead past the last one that the clock can show. -/
def BreaksDown (machine : Machine) (settings : Settings) (session : Session) (drawing : Path) : Prop :=
  settings.backend = .tool ∧
    (∃ process, machine.start (session.note (.launched (toolCommand settings drawing)))
      (toolCommand settings drawing) = .ok process) ∧
    lastSecond < session.clock / 1000 + settings.timeoutSeconds

private theorem isOnClock_eq_false_iff (clock seconds : Nat) :
    isOnClock (clock + seconds * 1000) = false ↔ lastSecond < clock / 1000 + seconds := by
  rw [isOnClock, Nat.add_mul_div_right clock seconds (by decide)]
  simp

private theorem makePicture_eq_crash_iff (machine : Machine) (settings : Settings) (session : Session)
    (drawing : Path) :
    (makePicture machine settings session drawing).1 = .error .crash ↔
      BreaksDown machine settings session drawing := by
  cases made : settings.backend with
  | tool =>
    rw [BreaksDown, ← isOnClock_eq_false_iff]
    simp only [makePicture, made, true_and]
    refine Iff.trans ?_ (Session.run_eq_crash_iff machine session (toolCommand settings drawing))
    split
    next output after ran => simp [ran]
    next stop after ran => simp [ran]
  | builtIn scale =>
    simp only [makePicture, made, BreaksDown]
    split <;> simp

/-- A conversion gives an outcome unless it breaks the program down. -/
theorem convert_eq_none_iff (machine : Machine) (settings : Settings) (session : Session)
    (drawing : Path) :
    (convert machine settings session drawing).1 = none ↔
      BreaksDown machine settings session drawing := by
  rw [← makePicture_eq_crash_iff, convert]
  split
  next after made => simp [made]
  next failure after made => simp [made]
  next after made =>
    dsimp only
    split <;> simp [made]

theorem convertAll_eq_none_iff (machine : Machine) (settings : Settings) (session : Session)
    (drawings : List Path) :
    (convertAll machine settings session drawings).1 = none ↔
      ∃ first drawing second, drawings = first ++ drawing :: second ∧
        (convertAll machine settings session first).1.isSome = true ∧
        BreaksDown machine settings (convertAll machine settings session first).2 drawing := by
  simp only [Loop.convertAll_eq_run, Loop.run_eq_none_iff, Loop.turn_silent, convert_eq_none_iff]

/-- A machine on which every program ends at once and does nothing. -/
def promptMachine : Machine where
  start session _ := .ok { ending? := some (0, .exited 0), after := fun _ => { tree := session.tree } }
  renderer := Svg.renderer

/-- Timeouts of less than half the range of the clock are never too long while the clock is in its lower
half; longer ones are at some moment, if it is the tool that makes the pictures. -/
theorem returns_iff_timeout_below_half (settings : Settings) :
    (∀ machine session drawing, session.clock / 1000 ≤ Nat.pow 2 62 →
        (convert machine settings session drawing).1.isSome = true) ↔
      settings.backend ≠ .tool ∨ settings.timeoutSeconds < Nat.pow 2 62 := by
  simp only [Option.isSome_iff_ne_none, Ne, convert_eq_none_iff, BreaksDown]
  constructor
  · intro returns
    by_cases tool : settings.backend = .tool
    · right
      -- the latest moment leaves the least time up to the last second
      have kept := returns promptMachine { tree := {}, clock := Nat.pow 2 62 * 1000 } ⟨""⟩ (by decide)
      refine Nat.lt_of_not_le fun long => kept ⟨tool, ⟨_, rfl⟩, ?_⟩
      calc
        lastSecond < Nat.pow 2 62 + Nat.pow 2 62 := by decide
        _ ≤ Nat.pow 2 62 + settings.timeoutSeconds := Nat.add_le_add_left long _
        _ = Nat.pow 2 62 * 1000 / 1000 + settings.timeoutSeconds := by rw [Nat.mul_div_cancel]; decide
    · exact .inl tool
  · rintro short machine session drawing early ⟨tool, -, late⟩
    rcases short with other | short
    · exact other tool
    · have half : lastSecond = 2 * Nat.pow 2 62 - 1 := by decide
      omega

/-- With settings from the environment, conversions return while the clock is in the lower half of its
range exactly if the timeout is less than half of that range or no tool is needed. Otherwise the
conversion that breaks down is the last one of its batch. -/
theorem conversions_return_iff {lookup : String → Option String} {width height : Nat} {pattern : String}
    {folder : Option Path} {scale : Option Float32} {settings : Settings}
    (admitted : (Preferences.ofVariables lookup).conversionSettings width height pattern folder scale =
      .ok settings) :
    settings.timeoutSeconds = (Preferences.ofVariables lookup).timeoutSeconds ∧
    ((∀ machine session drawing, session.clock / 1000 ≤ Nat.pow 2 62 →
        (convert machine settings session drawing).1.isSome = true) ↔
      settings.backend ≠ .tool ∨ settings.timeoutSeconds < Nat.pow 2 62) ∧
    (∀ machine session drawing, (convert machine settings session drawing).1 = none ↔
      BreaksDown machine settings session drawing) ∧
    ∀ machine session drawings, (convertAll machine settings session drawings).1 = none ↔
      ∃ first drawing second, drawings = first ++ drawing :: second ∧
        (convertAll machine settings session first).1.isSome = true ∧
        BreaksDown machine settings (convertAll machine settings session first).2 drawing := by
  refine ⟨?_, returns_iff_timeout_below_half settings,
    fun machine session drawing => convert_eq_none_iff machine settings session drawing,
    fun machine session drawings => convertAll_eq_none_iff machine settings session drawings⟩
  rw [Preferences.conversionSettings] at admitted
  split at admitted
  · cases admitted
  · split at admitted
    · cases admitted
    · cases admitted
      rfl

def timeoutOnly (seconds : String) (name : String) : Option String :=
  if name = Preferences.timeoutVariable then some seconds else none

def settingsOf (seconds : String) : Settings where
  width := 10
  height := 10
  pattern := "*.svg"
  timeoutSeconds := (Preferences.ofVariables (timeoutOnly seconds)).timeoutSeconds

/-- The longest timeout that is never too long. -/
theorem conversions_return_below_half :
    (Preferences.ofVariables (timeoutOnly "4611686018427387903")).conversionSettings 10 10 "*.svg" none none =
        .ok (settingsOf "4611686018427387903") ∧
      ∀ machine session drawing, session.clock / 1000 ≤ Nat.pow 2 62 →
        (convert machine (settingsOf "4611686018427387903") session drawing).1.isSome = true := by
  have admitted : (Preferences.ofVariables (timeoutOnly "4611686018427387903")).conversionSettings 10 10
      "*.svg" none none = .ok (settingsOf "4611686018427387903") := rfl
  have short : (settingsOf "4611686018427387903").timeoutSeconds < Nat.pow 2 62 := by decide +kernel
  exact ⟨admitted, (conversions_return_iff admitted).2.1.mpr (.inr short)⟩

/-- The longest timeout that is admitted breaks the program down at the first drawing, when the clock
has only just begun. -/
theorem longest_timeout_breaks_down :
    ¬ ∀ (lookup : String → Option String) (settings : Settings),
      (Preferences.ofVariables lookup).conversionSettings 10 10 "*.svg" none none = .ok settings →
      ∀ machine session drawing, session.clock / 1000 ≤ Nat.pow 2 62 →
        (convert machine settings session drawing).1.isSome = true := by
  intro returns
  have kept := returns (timeoutOnly "18446744073709551615") (settingsOf "18446744073709551615") rfl
    promptMachine { tree := {} } ⟨"a.svg"⟩ (by decide)
  revert kept
  decide +kernel

end Conversion

end SlidePress
