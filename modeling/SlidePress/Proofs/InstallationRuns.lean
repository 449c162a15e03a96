import Mathlib.Algebra.GroupWithZero.Nat
import SlidePress.Installation.Run
import SlidePress.Proofs.ProgramRuns

/-! What an installation runs. Its commands are those of the plan for the host, in their order and up to the
first one that fails, whatever the programs do; only when all of them have succeeded it is reported as done. -/

namespace SlidePress

/-- A text that has been told, or a command that has been run and whether it has succeeded. -/
inductive Deed where
  | told (text : String)
  | ran (command : Command) (succeeded : Bool)

namespace Deed

def texts (deeds : List Deed) : List String :=
  deeds.filterMap fun
    | .told text => some text
    | .ran .. => none

def runs (deeds : List Deed) : List (Command × Bool) :=
  deeds.filterMap fun
    | .told _ => none
    | .ran command succeeded => some (command, succeeded)

section

variable (text : String) (command : Command) (succeeded : Bool) (deeds later : List Deed)

@[simp] theorem texts_nil : texts [] = [] := rfl

@[simp] theorem texts_told : texts (.told text :: deeds) = text :: texts deeds := rfl

@[simp] theorem texts_ran : texts (.ran command succeeded :: deeds) = texts deeds := rfl

@[simp] theorem texts_append : texts (deeds ++ later) = texts deeds ++ texts later :=
  List.filterMap_append

@[simp] theorem runs_nil : runs [] = [] := rfl

@[simp] theorem runs_told : runs (.told text :: deeds) = runs deeds := rfl

@[simp] theorem runs_ran : runs (.ran command succeeded :: deeds) = (command, succeeded) :: runs deeds := rfl

@[simp] theorem runs_append : runs (deeds ++ later) = runs deeds ++ runs later := List.filterMap_append

end

end Deed

namespace Session

variable {machine : Machine} {session middle final : Session} {deeds later : List Deed}

/-- Whether deeds lead from a session to another one. What a command comes to depends on the session in which
it is run, and so on all that has been done before. -/
inductive Does (machine : Machine) : Session → List Deed → Session → Prop where
  | nothing (session : Session) : Does machine session [] session
  | tell {session final : Session} {text : String} {deeds : List Deed}
      (rest : Does machine (session.tell text) deeds final) :
      Does machine session (.told text :: deeds) final
  | run {session final : Session} {command : Command} {deeds : List Deed}
      (rest : Does machine (session.run machine command).2 deeds final) :
      Does machine session (.ran command (session.run machine command).1.isOk :: deeds) final

theorem Does.append (first : Does machine session deeds middle) (second : Does machine middle later final) :
    Does machine session (deeds ++ later) final := by
  induction first with
  | nothing => exact second
  | tell rest ih => exact .tell (ih second)
  | run rest ih => exact .run (ih second)

theorem Does.launches (done : Does machine session deeds final) :
    final.launches = session.launches ++ (Deed.runs deeds).map Prod.fst := by
  induction done with
  | nothing => exact (List.append_nil _).symm
  | @tell session final text deeds rest ih =>
    rw [ih, Session.launches, Session.tell, filterMap_note]
    exact congrArg (· ++ _) (List.append_nil _)
  | run rest ih =>
    rw [ih, launches_run]
    simp

theorem Does.told (done : Does machine session deeds final) :
    final.told = session.told ++ Deed.texts deeds := by
  induction done with
  | nothing => exact (List.append_nil _).symm
  | @tell session final text deeds rest ih =>
    rw [ih, Session.told, Session.tell, filterMap_note]
    simp [Session.told]
  | run rest ih =>
    rw [ih, told_run]
    rfl

end Session

namespace Installation

variable {machine : Machine} {session final : Session} {commands : List Command}
  {runs : List (Command × Bool)}

/-- Whether commands have been tried in their order, up to the first one that fails. -/
inductive Tried : List Command → List (Command × Bool) → Prop where
  | done : Tried [] []
  | stopped (command : Command) (commands : List Command) : Tried (command :: commands) [(command, false)]
  | goesOn (command : Command) {commands : List Command} {runs : List (Command × Bool)}
      (rest : Tried commands runs) : Tried (command :: commands) ((command, true) :: runs)

namespace Tried

private theorem isPrefix (tried : Tried commands runs) : runs.map Prod.fst <+: commands := by
  induction tried with
  | done => exact List.prefix_rfl
  | stopped command commands => exact List.prefix_append [command] commands
  | goesOn command rest ih => exact List.cons_prefix_cons.mpr ⟨rfl, ih⟩

/-- Only the last of the runs can have failed. -/
theorem succeeded_of_mem_dropLast (tried : Tried commands runs) :
    ∀ run ∈ runs.dropLast, run.2 = true := by
  induction tried with
  | done => simp
  | stopped command commands => simp
  | @goesOn command commands runs rest ih =>
    intro run inside
    cases runs with
    | nil => cases inside
    | cons next runs =>
      rw [List.dropLast_cons_of_ne_nil (List.cons_ne_nil next runs)] at inside
      rcases List.mem_cons.mp inside with rfl | later
      · rfl
      · exact ih run later

/-- Commands that have not been run stand behind one that has failed. -/
theorem complete_or_failed (tried : Tried commands runs) :
    runs = commands.map (·, true) ∨ ∃ command, runs.getLast? = some (command, false) := by
  induction tried with
  | done => exact .inl rfl
  | stopped command commands => exact .inr ⟨command, rfl⟩
  | @goesOn command commands runs rest ih =>
    rcases ih with rfl | ⟨failed, last⟩
    · exact .inl rfl
    · exact .inr ⟨failed, by rw [List.getLast?_cons, last]; rfl⟩

end Tried

/-- How long commands can take one after another, in milliseconds. -/
def longestTime (commands : List Command) : Nat :=
  (commands.map fun command => command.timeout + 2 * pollInterval).sum

@[simp] theorem longestTime_nil : longestTime [] = 0 := rfl

@[simp] theorem longestTime_cons (command : Command) (commands : List Command) :
    longestTime (command :: commands) = command.timeout + 2 * pollInterval + longestTime commands := rfl

private theorem not_isOnClock_of_le {moment later : Nat} (lost : isOnClock moment = false)
    (before : moment ≤ later) :
    isOnClock later = false := by
  simp only [isOnClock, decide_eq_false_iff_not, Nat.not_le] at lost ⊢
  exact Nat.lt_of_lt_of_le lost (Nat.div_le_div_right before)

end Installation

namespace Failure

/-- Whether a failure is one of an installation. -/
inductive IsInstallation : Failure → Prop where
  | noInstallation (host : String) : IsInstallation (.noInstallation host)
  | noManager (program manager : String) : IsInstallation (.noManager program manager)
  | notInstalled (product : String) (cause : Failure) : IsInstallation (.notInstalled product cause)

/-- A failure of an installation says so in front of everything else. -/
theorem IsInstallation.message {failure : Failure} (own : failure.IsInstallation) :
    ∃ rest, failure.message = "Installation failed: " ++ rest := by
  cases own with
  | noInstallation host =>
    refine ⟨"no automatic installation for " ++ host, ?_⟩
    have front : "Installation failed: no automatic installation for " =
      "Installation failed: " ++ "no automatic installation for " := by decide
    rw [← String.append_assoc, ← front]
    rfl
  | noManager program manager =>
    refine ⟨program ++ (" not found. Install " ++ (manager ++ (" first " ++
      "(https://brew.sh), then run this command again."))), ?_⟩
    simp only [← String.append_assoc]
    rfl
  | notInstalled product cause =>
    refine ⟨"failed to install " ++ (product ++ (": " ++ cause.message)), ?_⟩
    have front : "Installation failed: failed to install " =
      "Installation failed: " ++ "failed to install " := by decide
    simp only [← String.append_assoc, ← front]
    rfl

end Failure

namespace Installation

variable {machine : Machine} {session final : Session} {commands : List Command}

/-- Whether deeds have worked off commands with a result, and have done nothing else. -/
structure WorksOff (machine : Machine) (commands : List Command) (session : Session) (deeds : List Deed)
    (result : Except Stop Unit) (final : Session) : Prop where
  does : Session.Does machine session deeds final
  tried : Tried commands (Deed.runs deeds)
  ok_iff : result = .ok () ↔ Deed.runs deeds = commands.map (·, true)
  fails : ∀ failure, result = .error (.failure failure) → failure.IsInstallation
  lost : result = .error .crash → isOnClock (session.clock + longestTime commands) = false

namespace WorksOff

variable {result : Except Stop Unit} {command : Command} {deeds : List Deed} {after : Session}

theorem tell {text : String} (work : WorksOff machine commands (session.tell text) deeds result final) :
    WorksOff machine commands session (.told text :: deeds) result final :=
  ⟨.tell work.does, work.tried, work.ok_iff, work.fails, work.lost⟩

theorem succeeded {output : Output} (ran : session.run machine command = (.ok output, after))
    (work : WorksOff machine commands after deeds result final) :
    WorksOff machine (command :: commands) session (.ran command true :: deeds) result final := by
  have later := session.clock_run_le machine command
  have only := Session.Does.run (.nothing (session.run machine command).2)
  rw [ran] at later only
  refine ⟨only.append work.does, .goesOn _ work.tried, ?_, work.fails, fun crashed => ?_⟩
  · rw [work.ok_iff]
    simp
  · refine not_isOnClock_of_le (work.lost crashed) ?_
    rw [longestTime_cons]
    exact Nat.le_trans (Nat.add_le_add_right later _) (by omega)

theorem failed {stop own : Stop} (ran : session.run machine command = (.error stop, after))
    (fails : ∀ failure, own = .failure failure → failure.IsInstallation)
    (crashed : own = .crash → stop = .crash) :
    WorksOff machine (command :: commands) session [.ran command false] (.error own) after := by
  have crash := session.run_eq_crash_iff machine command
  have only := Session.Does.run (.nothing (session.run machine command).2)
  rw [ran] at crash only
  refine ⟨only, .stopped _ _, by simp, fun failure same => fails failure (Except.error.inj same), ?_⟩
  intro same
  rw [crashed (Except.error.inj same)] at crash
  exact not_isOnClock_of_le (crash.mp rfl).2 (by rw [longestTime_cons]; omega)

end WorksOff

private theorem worksOff_runSteps (machine : Machine) (session : Session) (product : String)
    (steps : List Step) :
    ∃ deeds, Deed.texts deeds = [] ∧
      WorksOff machine (steps.map Step.command) session deeds (runSteps machine product session steps).1
        (runSteps machine product session steps).2 := by
  induction steps generalizing session with
  | nil => exact ⟨[], rfl, .nothing session, .done, by simp [runSteps], nofun, nofun⟩
  | cons step steps ih =>
    rw [List.map_cons, runSteps]
    split
    next output after ran =>
      obtain ⟨deeds, silent, work⟩ := ih after
      exact ⟨.ran step.command true :: deeds, silent, work.succeeded ran⟩
    next cause after ran =>
      refine ⟨[.ran step.command false], rfl, .failed ran ?_ nofun⟩
      rintro _ ⟨⟩
      exact .notInstalled product cause
    next after ran => exact ⟨[.ran step.command false], rfl, .failed ran nofun fun _ => rfl⟩

def doneLine (product : String) : String :=
  s!"{Terminal.checkMark} {product} installed successfully" ++ "\n"

def beginLine (plan : Plan) : String :=
  s!"Installing {plan.product} via {plan.manager}..." ++ "\n"

def hostLine (host : Host) : String :=
  "Detected: " ++ host.label ++ "\n"

/-- The line about an installation that has been done begins unlike the other ones. -/
theorem head?_doneLine (product : String) : (doneLine product).toList.head? = some '\x1b' := by
  have mark : Terminal.checkMark.toList = '\x1b' :: "[32m✓\x1b[39m".toList := by decide
  have line : doneLine product =
      Terminal.checkMark ++ (" " ++ (product ++ (" installed successfully" ++ "\n"))) := by
    simp only [← String.append_assoc]
    rfl
  rw [line, String.toList_append, mark]
  rfl

private theorem doneLine_ne_beginLine (product : String) (plan : Plan) : doneLine product ≠ beginLine plan := by
  intro same
  have line : beginLine plan = "Installing " ++ (plan.product ++ (" via " ++ (plan.manager ++ ("..." ++ "\n")))) := by
    simp only [← String.append_assoc]
    rfl
  have first := head?_doneLine product
  rw [same, line, String.toList_append] at first
  exact absurd first (by simp)

private theorem doneLine_ne_hostLine (product : String) (host : Host) : doneLine product ≠ hostLine host := by
  intro same
  have first := head?_doneLine product
  rw [same, hostLine, String.append_assoc, String.toList_append] at first
  exact absurd first (by simp)

private theorem worksOff_carryOut (machine : Machine) (session : Session) (plan : Plan) :
    ∃ deeds, WorksOff machine (plan.steps.map Step.command) session deeds (carryOut machine session plan).1
        (carryOut machine session plan).2 ∧
      ((∃ product, doneLine product ∈ Deed.texts deeds) ↔ (carryOut machine session plan).1 = .ok ()) := by
  obtain ⟨deeds, silent, work⟩ :=
    worksOff_runSteps machine (session.tell (beginLine plan)) plan.product plan.steps
  have begun : session.tellLines [s!"Installing {plan.product} via {plan.manager}..."] =
    session.tell (beginLine plan) := rfl
  rw [carryOut, begun]
  split
  next after ran =>
    rw [ran] at work
    refine ⟨.told (beginLine plan) :: (deeds ++ [.told (doneLine plan.product)]),
      ⟨?_, ?_, ?_, nofun, nofun⟩, ?_⟩
    · exact .tell (work.does.append (.tell (.nothing _)))
    · simpa using work.tried
    · simpa using work.ok_iff
    · refine iff_of_true ⟨plan.product, ?_⟩ rfl
      simp
  next stop after ran =>
    rw [ran] at work
    refine ⟨.told (beginLine plan) :: deeds, work.tell, ?_⟩
    simp [silent, doneLine_ne_beginLine]

/-- The plans take less than an hour. -/
theorem longestTime_commands {host : Host} {plan : Plan} (planned : plan? host = some plan) :
    longestTime plan.commands ≤ 3600000 := by
  cases host <;> simp only [plan?, Option.some.injEq, reduceCtorEq] at planned
  all_goals
    subst planned
    decide

private theorem version_cases (machine : Machine) (session : Session) (program : String) :
    (∃ text output after, session.run machine (probe program) = (.ok output, after) ∧
      version machine session program = (.ok text, after)) ∨
    ∃ stop after, session.run machine (probe program) = (.error stop, after) ∧
      version machine session program = (.error stop, after) := by
  rw [version, Session.readOutput]
  rcases session.run machine (probe program) with ⟨stop | output, after⟩
  · exact .inr ⟨stop, after, rfl, rfl⟩
  · exact .inl ⟨_, output, after, rfl, rfl⟩

private theorem install_unplanned {host : Host} (unplanned : plan? host = none) (machine : Machine)
    (session : Session) : install machine session host =
      (.error (.failure (.noInstallation host.label)), session.tell (hostLine host)) := by
  rw [install, unplanned]
  rfl

private theorem worksOff_install (machine : Machine) (session : Session) {host : Host} {plan : Plan}
    (planned : plan? host = some plan) :
    ∃ deeds, WorksOff machine plan.commands session deeds (install machine session host).1
        (install machine session host).2 ∧
      ((∃ product, doneLine product ∈ Deed.texts deeds) ↔ (install machine session host).1 = .ok ()) := by
  have begun : session.tellLines ["Detected: " ++ host.label] = session.tell (hostLine host) := rfl
  rw [install, begun, planned, Plan.commands]
  simp only
  cases plan.prerequisite with
  | none =>
    obtain ⟨deeds, work, done⟩ := worksOff_carryOut machine (session.tell (hostLine host)) plan
    refine ⟨.told (hostLine host) :: deeds, work.tell, ?_⟩
    simpa [doneLine_ne_hostLine] using done
  | some program =>
    simp only [Option.toList_some, List.map_singleton, List.singleton_append]
    rcases version_cases machine (session.tell (hostLine host)) program with
      ⟨text, output, after, ran, answered⟩ | ⟨stop, after, ran, answered⟩
    · obtain ⟨deeds, work, done⟩ := worksOff_carryOut machine after plan
      simp only [answered]
      refine ⟨.told (hostLine host) :: .ran (probe program) true :: deeds, (work.succeeded ran).tell, ?_⟩
      simpa [doneLine_ne_hostLine] using done
    · simp only [answered]
      refine ⟨[.told (hostLine host), .ran (probe program) false], .tell ?_, ?_⟩
      · cases stop with
        | crash => exact .failed ran nofun fun _ => rfl
        | failure cause =>
          refine .failed ran ?_ nofun
          rintro _ ⟨⟩
          exact .noManager program plan.manager
      · cases stop <;> simp [doneLine_ne_hostLine]

/-- For every host and whatever the programs do, an installation tries the commands of the plan for the host in
their order and up to the first one that fails. It goes well, and says so, exactly if there is a plan and all
of its commands succeed; without a plan nothing is run; and it fails in its own name. Only a clock that has an
hour left, or less, can keep it from ending at all. -/
theorem installation_follows_plan (machine : Machine) (session : Session) (host : Host) :
    let result := (install machine session host).1
    let final := (install machine session host).2
    ∃ deeds, Session.Does machine session deeds final ∧
      final.launches = session.launches ++ (Deed.runs deeds).map Prod.fst ∧
      final.told = session.told ++ Deed.texts deeds ∧
      (plan? host = none → Deed.runs deeds = []) ∧
      (∀ plan, plan? host = some plan →
        (Deed.runs deeds).map Prod.fst <+: plan.prerequisite.toList.map probe ++ plan.steps.map Step.command ∧
        (∀ run ∈ (Deed.runs deeds).dropLast, run.2 = true) ∧
        ((Deed.runs deeds).map Prod.fst = plan.commands ∨
          ∃ command, (Deed.runs deeds).getLast? = some (command, false))) ∧
      (result = .ok () ↔ ∃ plan, plan? host = some plan ∧ Deed.runs deeds = plan.commands.map (·, true)) ∧
      ((∃ product, doneLine product ∈ Deed.texts deeds) ↔ result = .ok ()) ∧
      (∀ failure, result = .error (.failure failure) → failure.IsInstallation ∧
        ∃ rest, failure.message = "Installation failed: " ++ rest) ∧
      (result = .error .crash → isOnClock (session.clock + 3600000) = false) := by
  intro result final
  cases planned : plan? host with
  | none =>
    have done := install_unplanned planned machine session
    have failed : result = .error (.failure (.noInstallation host.label)) := congrArg Prod.fst done
    have told : final = session.tell (hostLine host) := congrArg Prod.snd done
    have does : Session.Does machine session [.told (hostLine host)] final := told ▸ .tell (.nothing _)
    refine ⟨_, does, does.launches, does.told, fun _ => rfl, nofun, ?_, ?_, ?_, ?_⟩
    · rw [failed]
      simp
    · rw [failed]
      simp [doneLine_ne_hostLine]
    · rintro failure same
      rw [failed] at same
      cases same
      have own := Failure.IsInstallation.noInstallation host.label
      exact ⟨own, own.message⟩
    · rw [failed]
      nofun
  | some plan =>
    obtain ⟨deeds, work, done⟩ := worksOff_install machine session planned
    refine ⟨deeds, work.does, work.does.launches, work.does.told, nofun, ?_, ?_, done, ?_, ?_⟩
    · intro plan' same
      obtain rfl := Option.some.inj same
      refine ⟨work.tried.isPrefix, work.tried.succeeded_of_mem_dropLast, ?_⟩
      rcases work.tried.complete_or_failed with complete | failed
      · rw [complete, List.map_map]
        exact .inl (List.map_id _)
      · exact .inr failed
    · rw [work.ok_iff]
      simp
    · intro failure failed
      exact ⟨work.fails failure failed, (work.fails failure failed).message⟩
    · intro crashed
      exact not_isOnClock_of_le (work.lost crashed) (Nat.add_le_add_left (longestTime_commands planned) _)

end Installation

end SlidePress
