import SlidePress.CommandLine.Convert
import SlidePress.Proofs.SessionSilence

/-! Drawings are converted in two places, once in silence and once with a line about each. Both are one
loop that may do something in front of every conversion and behind it, and may stop between. What the loop
gives is known from what each conversion gives in the session that it comes to. -/

namespace SlidePress

/-- The loop of the command, as far as it comes to a report. -/
def CommandLine.reportEach (machine : Machine) (settings : Conversion.Settings) (session : Session)
    (drawings : List Path) : Option Conversion.Report × Session :=
  let run := convertEach machine settings {} session drawings
  (run.1.toOption, run.2)

namespace Conversion

open CommandLine (reportEach)

/-- What a loop over drawings does beside converting them. -/
structure Loop where
  front : Path → Session → Session := fun _ session => session
  /-- Whether the loop goes on to the conversion. -/
  goesOn : Session → Bool := fun _ => true
  behind : Outcome → Session → Session := fun _ session => session

namespace Loop

/-- What the loop does about one drawing, and the outcome that it comes to. -/
def turn (loop : Loop) (machine : Machine) (settings : Settings) (session : Session) (drawing : Path) :
    Option Outcome × Session :=
  let session := loop.front drawing session
  if loop.goesOn session then convert machine settings session drawing else (none, session)

def run (loop : Loop) (machine : Machine) (settings : Settings) :
    Report → Session → List Path → Option Report × Session
  | report, session, [] => (some report, session)
  | report, session, drawing :: drawings =>
    match loop.turn machine settings session drawing with
    | (some outcome, session) =>
      loop.run machine settings (report.push outcome) (loop.behind outcome session) drawings
    | (none, session) => (none, session)

def silent : Loop := {}

def tellDrawing (drawing : Path) (session : Session) : Session :=
  session.tell ("Converting: " ++ CommandLine.filled CommandLine.nameWidth (CommandLine.shownName drawing))

/-- The loop that tells of every conversion, and stops if the line in front of it is not taken. -/
def telling (machine : Machine) : Loop where
  front := tellDrawing
  goesOn session := (machine.flush session).isOk
  behind outcome session := session.tell (CommandLine.outcomeText outcome ++ "\n")

/-- Whether a loop does nothing but tell. -/
structure IsQuiet (loop : Loop) : Prop where
  front : ∀ drawing session, (loop.front drawing session).silent = session.silent
  behind : ∀ outcome session, (loop.behind outcome session).silent = session.silent

theorem isQuiet_silent : silent.IsQuiet := ⟨fun _ _ => rfl, fun _ _ => rfl⟩

theorem isQuiet_telling (machine : Machine) : (telling machine).IsQuiet :=
  ⟨fun _ _ => Session.silent_tell _ _, fun _ _ => Session.silent_tell _ _⟩

section

variable {loop : Loop}

theorem IsQuiet.tree_front (quiet : loop.IsQuiet) (drawing : Path) (session : Session) :
    (loop.front drawing session).tree = session.tree := by
  rw [← Session.tree_silent, quiet.front, Session.tree_silent]

theorem IsQuiet.tree_behind (quiet : loop.IsQuiet) (outcome : Outcome) (session : Session) :
    (loop.behind outcome session).tree = session.tree := by
  rw [← Session.tree_silent, quiet.behind, Session.tree_silent]

theorem IsQuiet.launches_front (quiet : loop.IsQuiet) (drawing : Path) (session : Session) :
    (loop.front drawing session).launches = session.launches := by
  rw [← Session.launches_silent, quiet.front, Session.launches_silent]

theorem IsQuiet.launches_behind (quiet : loop.IsQuiet) (outcome : Outcome) (session : Session) :
    (loop.behind outcome session).launches = session.launches := by
  rw [← Session.launches_silent, quiet.behind, Session.launches_silent]

end

section

variable {loop : Loop} {machine : Machine} {settings : Settings} {session after : Session} {drawing : Path}
  {outcome : Outcome}

private theorem turn_of_goesOn (goes : loop.goesOn (loop.front drawing session) = true) :
    loop.turn machine settings session drawing = convert machine settings (loop.front drawing session) drawing :=
  if_pos goes

theorem turn_silent : silent.turn machine settings session drawing = convert machine settings session drawing :=
  turn_of_goesOn rfl

/-- If a turn comes to an outcome, it is that of the conversion. -/
theorem turn_eq_some_iff : loop.turn machine settings session drawing = (some outcome, after) ↔
    loop.goesOn (loop.front drawing session) = true ∧
      convert machine settings (loop.front drawing session) drawing = (some outcome, after) := by
  rw [turn]
  split
  next goes => simp [goes]
  next stops => simp [stops]

end

section

variable (machine : Machine) (settings : Settings)

private theorem convertFrom_eq_run (report : Report) (session : Session) (drawings : List Path) :
    convertFrom machine settings report session drawings =
      silent.run machine settings report session drawings := by
  induction drawings generalizing report session with
  | nil => rfl
  | cons drawing drawings ih =>
    rw [convertFrom, run, turn_silent]
    rcases convert machine settings session drawing with ⟨_ | outcome, after⟩
    · rfl
    · exact ih _ _

theorem convertAll_eq_run : convertAll machine settings = silent.run machine settings {} := by
  funext session drawings
  exact convertFrom_eq_run machine settings {} session drawings

private theorem convertEach_eq_run (report : Report) (session : Session) (drawings : List Path) :
    let run := CommandLine.convertEach machine settings report session drawings
    (run.1.toOption, run.2) = (telling machine).run machine settings report session drawings := by
  induction drawings generalizing report session with
  | nil => rfl
  | cons drawing drawings ih =>
    have front : (telling machine).front drawing session = tellDrawing drawing session := rfl
    have goesOn : (telling machine).goesOn (tellDrawing drawing session) =
      (machine.flush (tellDrawing drawing session)).isOk := rfl
    rw [CommandLine.convertEach, ← tellDrawing, run, turn, front, goesOn]
    cases machine.flush (tellDrawing drawing session) with
    | error trouble => rfl
    | ok taken =>
      rw [Except.isOk, Except.toBool, if_pos rfl]
      rcases convert machine settings (tellDrawing drawing session) drawing with ⟨_ | outcome, after⟩
      · rfl
      · exact ih _ _

theorem reportEach_eq_run : reportEach machine settings = (telling machine).run machine settings {} := by
  funext session drawings
  exact convertEach_eq_run machine settings {} session drawings

/-- Both loops of the program are loops that do nothing but tell. -/
theorem exists_eq_run {loop : Session → List Path → Option Report × Session}
    (either : loop ∈ [convertAll machine settings, reportEach machine settings]) :
    ∃ quiet : Loop, quiet.IsQuiet ∧ loop = quiet.run machine settings {} := by
  simp only [List.mem_cons, List.not_mem_nil, or_false] at either
  rcases either with rfl | rfl
  · exact ⟨silent, isQuiet_silent, convertAll_eq_run machine settings⟩
  · exact ⟨telling machine, isQuiet_telling machine, reportEach_eq_run machine settings⟩

end

end Loop

/-- The outcome of a conversion is about the drawing that was to be converted. -/
theorem drawing_of_convert {machine : Machine} {settings : Settings} {session : Session} {drawing : Path}
    {outcome : Outcome} (converted : (convert machine settings session drawing).1 = some outcome) :
    outcome.drawing = drawing := by
  rw [convert] at converted
  split at converted
  · cases converted
  · obtain rfl := Option.some.inj converted
    rfl
  · dsimp only at converted
    split at converted
    · obtain rfl := Option.some.inj converted
      rfl
    · obtain rfl := Option.some.inj converted
      rfl

theorem convertFrom_cons {machine : Machine} {settings : Settings} {session after : Session}
    {drawing : Path} {drawings : List Path} {outcome : Outcome}
    (converted : convert machine settings session drawing = (some outcome, after)) (report : Report) :
    convertFrom machine settings report session (drawing :: drawings) =
      convertFrom machine settings (report.push outcome) after drawings := by
  rw [convertFrom, converted]

namespace Loop

variable {loop : Loop} {machine : Machine} {settings : Settings} {session final : Session}
  {report result : Report}

theorem run_append (report : Report) (session : Session) (first second : List Path) :
    loop.run machine settings report session (first ++ second) =
      match loop.run machine settings report session first with
      | (some report, session) => loop.run machine settings report session second
      | (none, session) => (none, session) := by
  induction first generalizing report session with
  | nil => rfl
  | cons drawing first ih =>
    rw [List.cons_append, run, run]
    split
    · exact ih _ _
    · rfl

/-- The loop adds one outcome for each drawing, in their order. -/
theorem outcomes_run {drawings : List Path}
    (done : loop.run machine settings report session drawings = (some result, final)) :
    ∃ outcomes, result.outcomes = report.outcomes ++ outcomes ∧
      outcomes.map (·.drawing) = drawings := by
  induction drawings generalizing report session with
  | nil =>
    cases done
    exact ⟨[], (List.append_nil _).symm, rfl⟩
  | cons drawing drawings ih =>
    rw [run] at done
    split at done
    next outcome after turned =>
      obtain ⟨outcomes, added, same⟩ := ih done
      have own : outcome.drawing = drawing :=
        drawing_of_convert (congrArg Prod.fst (turn_eq_some_iff.mp turned).2)
      refine ⟨outcome :: outcomes, ?_, by rw [List.map_cons, own, same]⟩
      rw [added, Report.push, List.append_assoc, List.singleton_append]
    next => cases done

/-- The loop gives no report exactly if it comes to a drawing that has no outcome. -/
theorem run_eq_none_iff {drawings : List Path} :
    (loop.run machine settings report session drawings).1 = none ↔
      ∃ first drawing second, drawings = first ++ drawing :: second ∧
        (loop.run machine settings report session first).1.isSome = true ∧
        (loop.turn machine settings (loop.run machine settings report session first).2 drawing).1 = none := by
  induction drawings generalizing report session with
  | nil => simp [run]
  | cons drawing drawings ih =>
    cases turned : loop.turn machine settings session drawing with
    | mk outcome? after =>
      cases outcome? with
      | none =>
        -- nothing has been converted in front of the drawing that stops the loop
        have stopped : (loop.run machine settings report session (drawing :: drawings)).1 = none := by
          simp only [run, turned]
        refine iff_of_true stopped ⟨[], drawing, drawings, rfl, rfl, ?_⟩
        rw [run, turned]
      | some outcome =>
        have step (others : List Path) : loop.run machine settings report session (drawing :: others) =
            loop.run machine settings (report.push outcome) (loop.behind outcome after) others := by
          simp only [run, turned]
        rw [step, ih]
        constructor
        · rintro ⟨first, other, second, rfl, before, broken⟩
          exact ⟨drawing :: first, other, second, rfl, by rwa [step], by rwa [step]⟩
        · rintro ⟨first, other, second, split, before, broken⟩
          cases first with
          | nil =>
            obtain ⟨rfl, rfl⟩ := List.cons.inj split
            rw [run, turned] at broken
            cases broken
          | cons head first =>
            obtain ⟨rfl, rfl⟩ := List.cons.inj split
            rw [step] at before broken
            exact ⟨first, other, second, rfl, before, broken⟩

/-- What the loop says about a drawing is what its turn gave. -/
theorem outcome_run {first second : List Path} {drawing : Path}
    (done : loop.run machine settings report session (first ++ drawing :: second) = (some result, final)) :
    ∃ outcome, result.outcomes[report.outcomes.length + first.length]? = some outcome ∧
      (loop.turn machine settings (loop.run machine settings report session first).2 drawing).1 =
        some outcome := by
  rw [run_append] at done
  split at done
  next sofar between before =>
    rw [run] at done
    split at done
    next outcome after turned =>
      obtain ⟨added, sofarOutcomes, sofarDrawings⟩ := outcomes_run before
      obtain ⟨later, outcomes, -⟩ := outcomes_run done
      have length : added.length = first.length := by
        rw [← sofarDrawings, List.length_map]
      refine ⟨outcome, ?_, by rw [before]; exact congrArg Prod.fst turned⟩
      simp [outcomes, Report.push, sofarOutcomes, length]
    next => cases done
  next => cases done

/-- A loop that does nothing but tell and always goes on comes to the same report, whatever it tells. -/
theorem run_silent (deaf : machine.IsDeaf) (quiet : loop.IsQuiet) (settings : Settings) (report : Report)
    (session : Session) (drawings : List Path)
    (goesOn : ∀ first drawing, first ++ [drawing] <+: drawings →
      loop.goesOn (loop.front drawing (loop.run machine settings report session first).2) = true) :
    convertFrom machine settings report session.silent drawings =
      ((loop.run machine settings report session drawings).1,
        (loop.run machine settings report session drawings).2.silent) := by
  induction drawings generalizing report session with
  | nil => rfl
  | cons drawing drawings ih =>
    have same := convert_silent settings deaf (loop.front drawing session) drawing
    rw [quiet.front] at same
    have goes : loop.goesOn (loop.front drawing session) = true := goesOn [] drawing ⟨drawings, rfl⟩
    rw [convertFrom, run, same, turn_of_goesOn goes]
    cases converted : convert machine settings (loop.front drawing session) drawing with
    | mk outcome? after =>
      cases outcome? with
      | none => rfl
      | some outcome =>
        have step (others : List Path) : loop.run machine settings report session (drawing :: others) =
            loop.run machine settings (report.push outcome) (loop.behind outcome after) others := by
          rw [run, turn_of_goesOn goes, converted]
        dsimp only
        rw [← quiet.behind outcome after]
        refine ih _ _ fun first other inside => ?_
        have goes := goesOn (drawing :: first) other (List.cons_prefix_cons.mpr ⟨rfl, inside⟩)
        rwa [step] at goes

end Loop

def Report.Tells (report : Report) (outcome? : List Path → Path → Option Outcome) (drawings : List Path) : Prop :=
  ∀ first drawing, first ++ [drawing] <+: drawings → report.outcomes[first.length]? = outcome? first drawing

namespace Loop

variable {loop : Loop} {machine : Machine} {settings : Settings} {session : Session} {drawings : List Path}
  {report : Report}

/-- What a turn of the loop comes to behind other drawings. -/
def outcome? (loop : Loop) (machine : Machine) (settings : Settings) (session : Session) (first : List Path)
    (drawing : Path) : Option Outcome :=
  (loop.turn machine settings (loop.run machine settings {} session first).2 drawing).1

theorem length_lt_of_behind (covers : report.outcomes.map (·.drawing) = drawings) {first : List Path}
    {drawing : Path} (inside : first ++ [drawing] <+: drawings) : first.length < report.outcomes.length := by
  have short := inside.length_le
  rwa [← covers, List.length_map, List.length_append] at short

private theorem covers_run (done : (loop.run machine settings {} session drawings).1 = some report) :
    report.outcomes.map (·.drawing) = drawings := by
  obtain ⟨outcomes, added, same⟩ := outcomes_run (Prod.ext done rfl)
  rw [added, ← same]
  rfl

private theorem tells_run (done : (loop.run machine settings {} session drawings).1 = some report) :
    report.Tells (loop.outcome? machine settings session) drawings := by
  rintro first drawing ⟨second, rfl⟩
  rw [← List.append_cons] at done
  obtain ⟨outcome, told, turned⟩ := outcome_run (Prod.ext done rfl)
  rw [List.length_nil, Nat.zero_add] at told
  exact told.trans turned.symm

theorem isSome_run_iff : (loop.run machine settings {} session drawings).1.isSome = true ↔
    ∀ first drawing, first ++ [drawing] <+: drawings →
      (loop.outcome? machine settings session first drawing).isSome = true := by
  constructor
  · intro done first drawing inside
    obtain ⟨second, rfl⟩ := inside
    obtain ⟨report, known⟩ := Option.isSome_iff_exists.mp done
    rw [← List.append_cons] at known
    obtain ⟨outcome, -, turned⟩ := outcome_run (Prod.ext known rfl)
    exact Option.isSome_iff_exists.mpr ⟨outcome, turned⟩
  · intro returns
    refine Option.isSome_iff_ne_none.mpr fun stopped => ?_
    obtain ⟨first, drawing, second, rfl, -, stops⟩ := run_eq_none_iff.mp stopped
    have kept := returns first drawing ⟨second, by rw [← List.append_cons]⟩
    rw [outcome?, stops] at kept
    cases kept

/-- Two reports of the same outcomes are one. -/
theorem report_unique {outcome? : List Path → Path → Option Outcome} {other : Report}
    (covers : report.outcomes.map (·.drawing) = drawings) (covers' : other.outcomes.map (·.drawing) = drawings)
    (tells : report.Tells outcome? drawings) (tells' : other.Tells outcome? drawings) : report = other := by
  have size : report.outcomes.length = drawings.length := by rw [← covers, List.length_map]
  have size' : other.outcomes.length = drawings.length := by rw [← covers', List.length_map]
  refine congrArg Report.mk (List.ext_getElem? fun index => ?_)
  by_cases inside : index < drawings.length
  · have length : (drawings.take index).length = index := List.length_take_of_le (Nat.le_of_lt inside)
    have upTo : drawings.take index ++ [drawings[index]] <+: drawings := by
      rw [List.take_append_getElem inside]
      exact List.take_prefix _ _
    have own := tells _ _ upTo
    rw [length] at own
    rw [own, ← tells' _ _ upTo, length]
  · rw [List.getElem?_eq_none (by omega), List.getElem?_eq_none (by omega)]

/-- The report of a loop is the one that says what each turn comes to. -/
theorem run_eq_some_iff : (loop.run machine settings {} session drawings).1 = some report ↔
    report.outcomes.map (·.drawing) = drawings ∧
      report.Tells (loop.outcome? machine settings session) drawings := by
  refine ⟨fun done => ⟨covers_run done, tells_run done⟩, ?_⟩
  rintro ⟨covers, tells⟩
  have returns : (loop.run machine settings {} session drawings).1.isSome = true := by
    refine isSome_run_iff.mpr fun first drawing inside => ?_
    rw [← tells first drawing inside, List.getElem?_eq_getElem (length_lt_of_behind covers inside)]
    rfl
  obtain ⟨result, done⟩ := Option.isSome_iff_exists.mp returns
  rw [done, report_unique (covers_run done) covers (tells_run done) tells]

end Loop

end Conversion

end SlidePress
