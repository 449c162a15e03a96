import SlidePress.Proofs.ConversionDeadline
import SlidePress.Proofs.FilePlaces
import SlidePress.Shell.Machine

/-! What a report says about the drawings that it is about, and how the program ends after a
conversion. The exit code has eight bits, so it is cut off before it could come round to zero. The loop of
the command makes its report from its own conversions; it has none if a line that it tells is not taken. -/

namespace SlidePress.Conversion

structure Report.Accounts (report : Report) (drawings : List Path) : Prop where
  covers : report.outcomes.map (·.drawing) = drawings
  counts : report.successCount + report.failureCount = drawings.length
  failures : report.failureCount = report.outcomes.countP (!·.succeeded)
  failedDrawings : report.failedDrawings =
    ((drawings.zip report.outcomes).filter fun item => !item.2.succeeded).map (·.1)
  exitCode : report.exitCode = min report.failureCount 255
  exitStatus : report.exitCode % 256 = 0 ↔ ∀ outcome ∈ report.outcomes, outcome.succeeded = true

namespace Report

private theorem failureCount_eq_countP (report : Report) :
    report.failureCount = report.outcomes.countP (!·.succeeded) := by
  rw [failureCount, successCount, List.length_eq_countP_add_countP (·.succeeded), Nat.add_sub_cancel_left]
  simp

private theorem successCount_le (report : Report) : report.successCount ≤ report.outcomes.length :=
  List.countP_le_length

private theorem failedDrawings_eq_zip (report : Report) :
    report.failedDrawings = (((report.outcomes.map (·.drawing)).zip report.outcomes).filter
      fun item => !item.2.succeeded).map (·.1) := by
  rw [failedDrawings]
  induction report.outcomes with
  | nil => rfl
  | cons outcome outcomes ih =>
    simp only [List.map_cons, List.zip_cons_cons, List.filter_cons]
    split
    · rw [List.map_cons, List.map_cons, ih]
    · exact ih

private theorem exitCode_mod_eq_zero_iff (report : Report) :
    report.exitCode % 256 = 0 ↔ ∀ outcome ∈ report.outcomes, outcome.succeeded = true := by
  have short : report.exitCode < 256 := Nat.lt_succ_of_le (Nat.min_le_right _ _)
  have none : report.exitCode = 0 ↔ report.failureCount = 0 := by
    rw [exitCode, largestCode]
    omega
  rw [Nat.mod_eq_of_lt short, none, failureCount_eq_countP, List.countP_eq_zero]
  simp

theorem accounts {report : Report} {drawings : List Path}
    (same : report.outcomes.map (·.drawing) = drawings) : report.Accounts drawings where
  covers := same
  counts := by
    rw [failureCount, Nat.add_sub_cancel' report.successCount_le, ← same, List.length_map]
  failures := report.failureCount_eq_countP
  failedDrawings := same ▸ report.failedDrawings_eq_zip
  exitCode := rfl
  exitStatus := report.exitCode_mod_eq_zero_iff

end Report

/-- What the conversion of a drawing in a batch gives, behind those in front of it. -/
def batchOutcome? (machine : Machine) (settings : Settings) (session : Session) (first : List Path)
    (drawing : Path) : Option Outcome :=
  (convert machine settings (convertAll machine settings session first).2 drawing).1

/-- Whether each of the conversions of a batch returns. -/
def EachReturns (machine : Machine) (settings : Settings) (session : Session)
    (drawings : List Path) : Prop :=
  ∀ first drawing, first ++ [drawing] <+: drawings →
    (batchOutcome? machine settings session first drawing).isSome = true

/-- The session in which the command comes to the conversion of a drawing behind others. -/
def announced (machine : Machine) (settings : Settings) (session : Session) (first : List Path)
    (drawing : Path) : Session :=
  Loop.tellDrawing drawing (CommandLine.reportEach machine settings session first).2

def commandOutcome? (machine : Machine) (settings : Settings) (session : Session) (first : List Path)
    (drawing : Path) : Option Outcome :=
  (convert machine settings (announced machine settings session first drawing) drawing).1

/-- Whether each of the lines that the command tells in front of conversions is taken. -/
def EachTaken (machine : Machine) (settings : Settings) (session : Session) (drawings : List Path) : Prop :=
  ∀ first drawing, first ++ [drawing] <+: drawings →
    machine.flush (announced machine settings session first drawing) = .ok ()

section

variable {machine : Machine} {settings : Settings} {session : Session} {drawings : List Path} {report : Report}

private theorem outcome?_silent (machine : Machine) (settings : Settings) (session : Session) :
    Loop.silent.outcome? machine settings session = batchOutcome? machine settings session := by
  funext first drawing
  rw [Loop.outcome?, Loop.turn_silent, ← Loop.convertAll_eq_run]
  rfl

private theorem goesOn_telling_iff {first : List Path} {drawing : Path} :
    (Loop.telling machine).goesOn (announced machine settings session first drawing) = true ↔
      machine.flush (announced machine settings session first drawing) = .ok () := by
  rw [Loop.telling]
  dsimp only
  cases machine.flush (announced machine settings session first drawing) with
  | error trouble => simp [Except.isOk, Except.toBool]
  | ok taken => simp [Except.isOk, Except.toBool]

private theorem outcome?_telling {first : List Path} {drawing : Path} {outcome : Outcome} :
    (Loop.telling machine).outcome? machine settings session first drawing = some outcome ↔
      machine.flush (announced machine settings session first drawing) = .ok () ∧
        commandOutcome? machine settings session first drawing = some outcome := by
  have front : (Loop.telling machine).front drawing ((Loop.telling machine).run machine settings {} session first).2 =
      announced machine settings session first drawing := by
    rw [announced, Loop.reportEach_eq_run]
    rfl
  rw [← goesOn_telling_iff, Loop.outcome?, Loop.turn, front]
  split
  next goes => simp [goes, commandOutcome?]
  next stops => simp [stops]

private theorem convertEach_eq_ok_iff_reportEach :
    (CommandLine.convertEach machine settings {} session drawings).1 = .ok report ↔
      (CommandLine.reportEach machine settings session drawings).1 = some report := by
  rw [CommandLine.reportEach]
  cases (CommandLine.convertEach machine settings {} session drawings).1 with
  | error stop => simp [Except.toOption]
  | ok result => simp [Except.toOption]

theorem convertEach_eq_ok_iff : (CommandLine.convertEach machine settings {} session drawings).1 = .ok report ↔
    EachTaken machine settings session drawings ∧ report.Accounts drawings ∧
      report.Tells (commandOutcome? machine settings session) drawings := by
  rw [convertEach_eq_ok_iff_reportEach, Loop.reportEach_eq_run, Loop.run_eq_some_iff]
  constructor
  · rintro ⟨covers, tells⟩
    have each (first : List Path) (drawing : Path) (inside : first ++ [drawing] <+: drawings) :
        machine.flush (announced machine settings session first drawing) = .ok () ∧
          commandOutcome? machine settings session first drawing = report.outcomes[first.length]? := by
      have known := List.getElem?_eq_getElem (Loop.length_lt_of_behind covers inside)
      rw [known]
      exact outcome?_telling.mp ((tells first drawing inside).symm.trans known)
    exact ⟨fun first drawing inside => (each first drawing inside).1, Report.accounts covers,
      fun first drawing inside => (each first drawing inside).2.symm⟩
  · rintro ⟨taken, accounts, tells⟩
    refine ⟨accounts.covers, fun first drawing inside => ?_⟩
    have known := List.getElem?_eq_getElem (Loop.length_lt_of_behind accounts.covers inside)
    have own := (tells first drawing inside).symm.trans known
    exact known.trans (outcome?_telling.mpr ⟨taken first drawing inside, own⟩).symm

/-- On a machine that takes no notice of what is told, both loops make the same report as long as all that is
told is taken. -/
theorem reportEach_eq_convertAll (deaf : machine.IsDeaf) (taken : EachTaken machine settings session drawings) :
    (CommandLine.reportEach machine settings session drawings).1 =
      (convertAll machine settings session drawings).1 := by
  have told := Loop.run_silent deaf (Loop.isQuiet_telling machine) settings {} session drawings
    fun first drawing inside => by
      rw [← Loop.reportEach_eq_run]
      exact goesOn_telling_iff.mpr (taken first drawing inside)
  have untold := Loop.run_silent deaf Loop.isQuiet_silent settings {} session drawings
    fun _ _ _ => rfl
  rw [Loop.reportEach_eq_run, Loop.convertAll_eq_run]
  exact (Prod.mk.inj (told.symm.trans untold)).1

end

end SlidePress.Conversion

namespace SlidePress.CommandLine

open Conversion (Settings)

def requestedSettings (preferences : Preferences) (request : ConvertRequest) : Except Failure Settings :=
  let usual : Settings := {}
  preferences.conversionSettings (request.width.getD usual.width) (request.height.getD usual.height)
    (request.pattern.getD usual.pattern) request.folder
    (if request.native then some (request.scale.getD preferences.scale) else none)

def introduced (settings : Settings) (session : Session) : Session :=
  session.tellLines
    (convertHeading settings ((session.tree.absolute settings.folder).toOption.getD settings.folder))

def equipped (tool : String) (session : Session) : Session :=
  session.tellLines ["Tool: " ++ tool, Terminal.tinted .blue rule, ""]

def counted (drawings : List Path) (session : Session) : Session :=
  session.tellLines [s!"Found {drawings.length} SVG file(s)", ""]

variable (machine : Machine) (settings : Settings) (session : Session)

private theorem code_convertFound (drawings : List Path) :
    (convertFound machine settings session drawings).1.code % 256 = 0 ↔
      ∃ report, (convertEach machine settings {} (counted drawings session) drawings).1 = .ok report ∧
        ∀ outcome ∈ report.outcomes, outcome.succeeded = true := by
  rw [convertFound, ← counted]
  split
  next report after done => simp [done, report.exitCode_mod_eq_zero_iff]
  next failure after done => simp [done, Reply.ofFailure]
  next after done => simp [done, Reply.broken]

theorem findDrawings_ne_nil {tree : FileTree} {folder : Path} {pattern : String} {drawings : List Path}
    (found : Conversion.findDrawings tree folder pattern = .ok drawings) : drawings ≠ [] := by
  rw [Conversion.findDrawings] at found
  split at found
  · cases found
  · split at found
    · cases found
    · cases found
    next files something _ =>
      cases found
      intro empty
      have none := congrArg List.length empty
      rw [List.length_mergeSort, List.length_nil, List.length_eq_zero_iff] at none
      exact something none

private theorem code_convertMatching :
    (convertMatching machine settings session).1.code % 256 = 0 ↔
      ∃ drawings report,
        Conversion.findDrawings session.tree settings.folder settings.pattern = .ok drawings ∧
        drawings ≠ [] ∧
        (convertEach machine settings {} (counted drawings session) drawings).1 = .ok report ∧
        ∀ outcome ∈ report.outcomes, outcome.succeeded = true := by
  rw [convertMatching]
  split
  next drawings found =>
    rw [code_convertFound]
    constructor
    · rintro ⟨report, done, converted⟩
      exact ⟨drawings, report, found, findDrawings_ne_nil found, done, converted⟩
    · rintro ⟨others, report, same, -, done, converted⟩
      obtain rfl := Except.ok.inj (found.symm.trans same)
      exact ⟨report, done, converted⟩
  next pattern found => simp [found]
  next failure other found => simp [found, Reply.ofFailure]

private theorem code_convertWith :
    (convertWith machine settings session).1.code % 256 = 0 ↔
      ∃ tool ready drawings report,
        toolLine machine settings (introduced settings session) = (.ok tool, ready) ∧
        Conversion.findDrawings ready.tree settings.folder settings.pattern = .ok drawings ∧
        drawings ≠ [] ∧
        (convertEach machine settings {} (counted drawings (equipped tool ready)) drawings).1 =
          .ok report ∧
        ∀ outcome ∈ report.outcomes, outcome.succeeded = true := by
  rw [convertWith, ← introduced]
  split
  next tool ready found =>
    rw [← equipped, code_convertMatching, equipped, Session.tree_tellLines, ← equipped]
    constructor
    · rintro ⟨drawings, report, done⟩
      exact ⟨tool, ready, drawings, report, found, done⟩
    · rintro ⟨other, after, drawings, report, same, done⟩
      cases found.symm.trans same
      exact ⟨drawings, report, done⟩
  next failure ready found => simp [found]
  next ready found => simp [found, Reply.broken]

/-- Whether the settings of the command are valid, the tool is there, a drawing matches, and every drawing
that matches is converted. -/
def GoesWell (preferences : Preferences) (request : ConvertRequest) : Prop :=
  ∃ settings tool ready drawings report,
    requestedSettings preferences request = .ok settings ∧
    toolLine machine settings (introduced settings session) = (.ok tool, ready) ∧
    Conversion.findDrawings ready.tree settings.folder settings.pattern = .ok drawings ∧
    drawings ≠ [] ∧
    (convertEach machine settings {} (counted drawings (equipped tool ready)) drawings).1 = .ok report ∧
    ∀ outcome ∈ report.outcomes, outcome.succeeded = true

private theorem code_convert (preferences : Preferences) (request : ConvertRequest) :
    (convert machine preferences session request).1.code % 256 = 0 ↔
      GoesWell machine session preferences request := by
  rw [convert, ← requestedSettings, GoesWell]
  split
  next settings valid =>
    rw [code_convertWith]
    constructor
    · rintro ⟨tool, ready, drawings, report, done⟩
      exact ⟨settings, tool, ready, drawings, report, valid, done⟩
    · rintro ⟨others, tool, ready, drawings, report, same, done⟩
      obtain rfl := Except.ok.inj (valid.symm.trans same)
      exact ⟨tool, ready, drawings, report, done⟩
  next failure invalid => simp [invalid, Reply.ofFailure]

end SlidePress.CommandLine

namespace SlidePress.Conversion

open CommandLine (convertEach GoesWell)

/-- A batch whose conversions return has a report with one outcome for each drawing, the one that its
conversion gave. The loop of the command has a report exactly if the lines in front of its own conversions
are taken and these return, and it says what they gave. This is the report of the batch if the conversions
give the same in both, which they do on a machine that takes no notice of what is told. The status with
which the command ends says success exactly if all went well. -/
theorem report_accounts_for_drawings (machine : Machine) :
    (∀ settings session drawings, EachReturns machine settings session drawings →
      ∃ report, (convertAll machine settings session drawings).1 = some report ∧
        report.Accounts drawings ∧ report.Tells (batchOutcome? machine settings session) drawings) ∧
    (∀ settings session drawings report,
      (convertEach machine settings {} session drawings).1 = .ok report ↔
        EachTaken machine settings session drawings ∧ report.Accounts drawings ∧
          report.Tells (commandOutcome? machine settings session) drawings) ∧
    (∀ settings session drawings report, EachTaken machine settings session drawings →
      (convertAll machine settings session drawings).1 = some report →
      (machine.IsDeaf ∨ ∀ first drawing, first ++ [drawing] <+: drawings →
        commandOutcome? machine settings session first drawing =
          batchOutcome? machine settings session first drawing) →
      (convertEach machine settings {} session drawings).1 = .ok report) ∧
    ∀ session preferences request,
      (CommandLine.convert machine preferences session request).1.code % 256 = 0 ↔
        GoesWell machine session preferences request := by
  refine ⟨fun settings session drawings returns => ?_, fun settings session drawings report =>
    convertEach_eq_ok_iff, fun settings session drawings report taken done same => ?_,
    CommandLine.code_convert machine⟩
  · rw [EachReturns, ← outcome?_silent, ← Loop.isSome_run_iff] at returns
    obtain ⟨report, done⟩ := Option.isSome_iff_exists.mp returns
    obtain ⟨covers, tells⟩ := Loop.run_eq_some_iff.mp done
    rw [Loop.convertAll_eq_run, ← outcome?_silent]
    exact ⟨report, done, Report.accounts covers, tells⟩
  · rcases same with deaf | same
    · rw [convertEach_eq_ok_iff_reportEach, reportEach_eq_convertAll deaf taken, done]
    · rw [Loop.convertAll_eq_run, Loop.run_eq_some_iff, outcome?_silent] at done
      refine convertEach_eq_ok_iff.mpr ⟨taken, Report.accounts done.1, fun first drawing inside => ?_⟩
      rw [same first drawing inside]
      exact done.2 first drawing inside

/-- A tool that is over at once makes its picture while the clock stands still. -/
theorem makePicture_of_prompt {machine : Machine} {session : Session} {drawing : Path} {tree : FileTree}
    (start : session.clock = 0)
    (started : machine.start (session.note (.launched (toolCommand {} drawing))) (toolCommand {} drawing) =
      .ok { ending? := some (0, .exited 0), after := fun _ => { tree } }) :
    makePicture machine {} session drawing =
      (.ok (), { session.note (.launched (toolCommand {} drawing)) with tree }) := by
  have shown : isOnClock (session.clock + (toolCommand {} drawing).timeout) = true := by
    simp [start, toolCommand, isOnClock, lastSecond]
  simp only [makePicture, Session.run_of_prompt started rfl shown]
  rfl

private theorem promptMachine_isDeaf : promptMachine.IsDeaf :=
  ⟨fun _ => rfl, fun _ => rfl, fun _ => rfl, fun _ => rfl⟩

/-- A picture that is there already counts for its drawing, and a missing one does not stop the batch. -/
theorem report_accounts_for_failure :
    let session : Session := { tree := { entries := [(["b.png"], .file (.ofString "old") false)] } }
    let drawings : List Path := [⟨"a.svg"⟩, ⟨"b.svg"⟩]
    EachReturns promptMachine {} session drawings ∧ promptMachine.IsDeaf ∧
      EachTaken promptMachine {} session drawings ∧
      ∃ report, (convertAll promptMachine {} session drawings).1 = some report ∧
        report.Accounts drawings ∧ report.failedDrawings = [⟨"a.svg"⟩] ∧ report.exitCode = 1 ∧
        (convertEach promptMachine {} {} session drawings).1 = .ok report := by
  intro session drawings
  have missing : pictureSize session.tree (picturePath ⟨"a.svg"⟩) = .error .notFound := by
    rw [pictureSize, FileTree.locate_of_short _ (by decide +kernel)]
    rfl
  have there : pictureSize session.tree (picturePath ⟨"b.svg"⟩) = .ok 3 := by
    rw [pictureSize, FileTree.locate_of_short _ (by decide +kernel)]
    rfl
  have known : (convertAll promptMachine {} session drawings).1.map
      (fun report => (report.failedDrawings, report.exitCode)) = some ([⟨"a.svg"⟩], 1) := by
    have made (session : Session) (drawing : Path) (start : session.clock = 0) :
        makePicture promptMachine {} session drawing =
          (.ok (), session.note (.launched (toolCommand {} drawing))) := makePicture_of_prompt start rfl
    have second (event : Event) := made (session.note event) ⟨"b.svg"⟩ rfl
    simp only [convertAll, drawings, convertFrom, convert, made session _ rfl, second, Session.tree_note,
      missing, there]
    rfl
  have returns : EachReturns promptMachine {} session drawings := by
    rw [EachReturns, ← outcome?_silent, ← Loop.isSome_run_iff, ← Loop.convertAll_eq_run, ← Option.isSome_map, known]
    rfl
  have taken : EachTaken promptMachine {} session drawings := fun _ _ _ => rfl
  obtain ⟨batch, -, command, -⟩ := report_accounts_for_drawings promptMachine
  obtain ⟨report, done, accounts, -⟩ := batch {} session drawings returns
  have same := command {} session drawings report taken done (.inl promptMachine_isDeaf)
  rw [done, Option.map_some, Option.some.injEq, Prod.mk.injEq] at known
  exact ⟨returns, promptMachine_isDeaf, taken, report, done, accounts, known.1, known.2, same⟩

end SlidePress.Conversion

/-! ### Scripts -/

namespace SlidePress.Shell

open Conversion (Settings convertAll)

theorem machine_isDeaf (folders : List Path) : (machine folders).IsDeaf :=
  ⟨fun _ => rfl, fun _ => rfl, fun _ => rfl, fun _ => rfl⟩

/-- Whatever script the tool is, the command makes the report that it would make in silence. -/
theorem reportEach_eq_convertAll (folders : List Path) (settings : Settings) (session : Session)
    (drawings : List Path) :
    (CommandLine.reportEach (machine folders) settings session drawings).1 =
      (convertAll (machine folders) settings session drawings).1 :=
  Conversion.reportEach_eq_convertAll (machine_isDeaf folders) fun _ _ _ => rfl

end SlidePress.Shell
