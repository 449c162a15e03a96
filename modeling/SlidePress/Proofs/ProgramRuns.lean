import SlidePress.Proofs.WaitingVerdict
import SlidePress.Svg.Render

/-! What comes of running a program. A run comes out as the waiting for its process does: it goes well only if
a poll has seen the process end well, and it is a timeout exactly if the process was still running when the
clock had reached the deadline; then, and only then, the process is killed. -/

namespace SlidePress

namespace Session

/-- What comes of a command by the verdict of the waiting for it. -/
def conclusion (command : Command) (output : Output) : Verdict → Except Stop Output
  | .finished _ ending => judge command ending output
  | .expired _ => .error (.failure (.timeout command.program (command.timeout / 1000)))

def concluded (session : Session) (command : Command) (process : Process) : Verdict → Session
  | .finished poll _ =>
    session.afterProgram command (process.undisturbed command.timeout) (pollInterval * poll)
  | .expired poll =>
    (session.afterProgram command (process.after (pollInterval * poll)) (pollInterval * poll)).note
      (.killed command)

/-- The programs that have been killed and waited for, in order. -/
def kills (session : Session) : List Command :=
  session.log.filterMap fun
    | .killed command => some command
    | _ => none

/-- The texts that the program itself has written to standard output. -/
def told (session : Session) : List String :=
  session.log.filterMap fun
    | .told text => some text
    | _ => none

/-- There are polls enough for a deadline that counts from the start of the process. -/
theorem last_lt_pollCount {process : Process} {start timeout : Nat} {verdict : Verdict}
    (settled : (process.watch start).Settles (start + timeout) 0 verdict) :
    verdict.last < pollCount timeout := by
  apply Nat.lt_of_not_le
  intro many
  have early := (settled.undecided (timeout / pollInterval + 1) (Nat.zero_le _) many).2
  have enough : timeout < pollInterval * (timeout / pollInterval + 1) :=
    Nat.lt_mul_div_succ timeout (by decide)
  have shown : (process.watch start).clock (timeout / pollInterval + 1) =
      start + pollInterval * (timeout / pollInterval + 1) := rfl
  omega

/-- All that a run can come to. -/
theorem run_cases (machine : Machine) (session : Session) (command : Command) :
    (∃ fault failure, machine.start (session.note (.launched command)) command = .error fault ∧
      session.run machine command = (.error (.failure failure), session.note (.launched command))) ∨
    (isOnClock (session.clock + command.timeout) = false ∧ ∃ process : Process,
      session.run machine command = (.error .crash,
        (session.note (.launched command)).afterProgram command (process.undisturbed command.timeout) 0)) ∨
    (∃ process verdict, machine.start (session.note (.launched command)) command = .ok process ∧
      (process.watch session.clock).Settles (session.clock + command.timeout) 0 verdict ∧
      session.run machine command =
        (conclusion command (kept command (process.undisturbed command.timeout)) verdict,
          (session.note (.launched command)).concluded command process verdict)) := by
  have same : (session.note (.launched command)).clock = session.clock := rfl
  cases started : machine.start (session.note (.launched command)) command with
  | error fault =>
    refine .inl ⟨fault,
      if fault = .notFound then .toolNotFound command.program else .system fault, rfl, ?_⟩
    cases fault <;> simp [run, started]
  | ok process =>
    right
    cases shown : isOnClock (session.clock + command.timeout) with
    | false =>
      left
      refine ⟨rfl, process, ?_⟩
      simp only [run, started, same, shown, Bool.not_false, if_true]
    | true =>
      right
      have late : ∃ poll, session.clock + command.timeout ≤ (process.watch session.clock).clock poll :=
        ⟨command.timeout, Nat.add_le_add_left (Nat.le_mul_of_pos_left _ (by decide)) _⟩
      obtain ⟨verdict, settled⟩ := Watch.exists_settles late
      refine ⟨process, verdict, rfl, settled, ?_⟩
      have waited : (process.watch session.clock).wait (session.clock + command.timeout)
          (pollCount command.timeout) = some (verdict.actions 0, verdict) :=
        settled.wait (last_lt_pollCount settled)
      simp only [run, started, same, shown, waited, Bool.not_true, Bool.false_eq_true, if_false,
        Option.map_some, Option.getD_some]
      cases verdict <;> rfl

@[simp] theorem tree_afterProgram (session : Session) (command : Command) (snapshot : Snapshot)
    (elapsed : Nat) : (session.afterProgram command snapshot elapsed).tree = snapshot.tree := by
  rw [afterProgram]
  split <;> rfl

/-! ### Runs that break the program down, and runs that are over at once -/

private theorem judge_ne_crash (command : Command) (ending : Ending) (output : Output) :
    judge command ending output ≠ .error .crash := by
  rw [judge]
  split
  · simp
  · simp

/-- A command breaks the program down exactly if it has been started and its deadline cannot be shown. -/
theorem run_eq_crash_iff (machine : Machine) (session : Session) (command : Command) :
    (session.run machine command).1 = .error .crash ↔
      (∃ process, machine.start (session.note (.launched command)) command = .ok process) ∧
        isOnClock (session.clock + command.timeout) = false := by
  cases started : machine.start (session.note (.launched command)) command with
  | error fault => cases fault <;> simp [run, started]
  | ok process =>
    have same : (session.note (.launched command)).clock = session.clock := rfl
    simp only [run, started, same]
    cases shown : isOnClock (session.clock + command.timeout) with
    | false => simp
    | true =>
      simp only [Bool.not_true, Bool.false_eq_true, if_false]
      split
      · simp [judge_ne_crash]
      · simp

/-- A program that is over at once is seen to be over at the first poll. -/
theorem run_of_prompt {machine : Machine} {session : Session} {command : Command}
    {process : Process} {ending : Ending}
    (started : machine.start (session.note (.launched command)) command = .ok process)
    (prompt : process.ending? = some (0, ending))
    (shown : isOnClock (session.clock + command.timeout) = true) :
    session.run machine command =
      (judge command ending (kept command (process.after 0)),
        (session.note (.launched command)).afterProgram command (process.after 0) 0) := by
  have same : (session.note (.launched command)).clock = session.clock := rfl
  simp only [run, started, same, shown, Bool.not_true, Bool.false_eq_true, if_false]
  simp [Watch.wait, pollCount, Watch.waitFrom, Process.watch, prompt, Process.undisturbed]

/-! ### The clock -/

private theorem clock_afterProgram (session : Session) (command : Command) (snapshot : Snapshot)
    (elapsed : Nat) :
    (session.afterProgram command snapshot elapsed).clock = session.clock + elapsed := by
  rw [afterProgram]
  split <;> rfl

/-- A run takes hardly longer than its command may take. -/
theorem clock_run_le (machine : Machine) (session : Session) (command : Command) :
    (session.run machine command).2.clock ≤ session.clock + command.timeout + 2 * pollInterval := by
  rcases run_cases machine session command with ⟨-, failure, -, ran⟩ | ⟨-, process, ran⟩ |
    ⟨process, verdict, -, settled, ran⟩
  · rw [ran]
    show session.clock ≤ _
    omega
  · rw [ran, clock_afterProgram]
    show session.clock + 0 ≤ _
    omega
  · have after : (session.run machine command).2.clock = session.clock + pollInterval * verdict.last := by
      rw [ran]
      cases verdict <;> exact clock_afterProgram _ _ _ _
    have few := last_lt_pollCount settled
    simp only [pollCount, pollInterval] at after few ⊢
    omega

/-! ### What a run leaves in the log -/

section

variable {α : Type} {keep : Event → Option α}

theorem filterMap_note (session : Session) (event : Event) :
    (session.note event).log.filterMap keep = session.log.filterMap keep ++ (keep event).toList := by
  rw [note, List.filterMap_append]
  cases kept : keep event <;> simp [kept]

private theorem filterMap_afterProgram (mute : ∀ bytes, keep (.relayed bytes) = none) (session : Session)
    (command : Command) (snapshot : Snapshot) (elapsed : Nat) :
    (session.afterProgram command snapshot elapsed).log.filterMap keep = session.log.filterMap keep := by
  rw [afterProgram]
  split
  · rfl
  · rw [filterMap_note, mute]
    exact List.append_nil _

private theorem filterMap_concluded (mute : ∀ bytes, keep (.relayed bytes) = none) (session : Session)
    (command : Command) (process : Process) (verdict : Verdict) :
    (session.concluded command process verdict).log.filterMap keep =
      session.log.filterMap keep ++ if verdict.isExpired then (keep (.killed command)).toList else [] := by
  cases verdict with
  | finished poll ending =>
    rw [concluded, filterMap_afterProgram mute]
    exact (List.append_nil _).symm
  | expired poll =>
    rw [concluded, filterMap_note, filterMap_afterProgram mute]
    rfl

/-- Of what is kept of the log, a run adds the start of its program only, if kills are not kept. -/
theorem filterMap_run (mute : ∀ bytes, keep (.relayed bytes) = none)
    (blind : ∀ command, keep (.killed command) = none) (machine : Machine) (session : Session)
    (command : Command) :
    (session.run machine command).2.log.filterMap keep =
      session.log.filterMap keep ++ (keep (.launched command)).toList := by
  rcases run_cases machine session command with ⟨-, failure, -, ran⟩ | ⟨-, process, ran⟩ |
    ⟨process, verdict, -, -, ran⟩
  · rw [ran, filterMap_note]
  · rw [ran, filterMap_afterProgram mute, filterMap_note]
  · rw [ran, filterMap_concluded mute, filterMap_note, blind]
    simp

end

/-- A run starts its program and no other one. -/
theorem launches_run (machine : Machine) (session : Session) (command : Command) :
    (session.run machine command).2.launches = session.launches ++ [command] :=
  filterMap_run (fun _ => rfl) (fun _ => rfl) machine session command

theorem told_run (machine : Machine) (session : Session) (command : Command) :
    (session.run machine command).2.told = session.told := by
  rw [told, filterMap_run (fun _ => rfl) (fun _ => rfl)]
  exact List.append_nil _

/-! ### How a run comes out -/

theorem judge_eq_ok_iff {command : Command} {ending : Ending} {output : Output} :
    (∃ kept, judge command ending output = .ok kept) ↔ ending.succeeded = true := by
  rw [judge]
  cases ending.succeeded <;> simp

private theorem judge_eq_command_iff {command : Command} {ending : Ending} {output : Output} :
    (∃ ending' errors, judge command ending output =
        .error (.failure (.command command.program ending' errors))) ↔ ending.succeeded = false := by
  rw [judge]
  cases ending.succeeded <;> simp

private theorem judge_ne_timeout {command : Command} {ending : Ending} {output : Output} {program : String}
    {seconds : Nat} : judge command ending output ≠ .error (.failure (.timeout program seconds)) := by
  rw [judge]
  split <;> simp

section

variable {watch : Watch} {deadline : Nat} {verdict : Verdict}
  (settled : watch.Settles deadline 0 verdict) (command : Command) (output : Output)

include settled

theorem conclusion_eq_ok_iff :
    (∃ kept, conclusion command output verdict = .ok kept) ↔
      ∃ poll ending, watch.SeesEnd deadline poll ending ∧ ending.succeeded = true := by
  simp only [settled.sees_iff]
  cases verdict with
  | finished poll ending =>
    rw [conclusion, judge_eq_ok_iff]
    simp [and_assoc]
  | expired poll => simp [conclusion]

private theorem conclusion_eq_command_iff :
    (∃ ending errors, conclusion command output verdict =
        .error (.failure (.command command.program ending errors))) ↔
      ∃ poll ending, watch.SeesEnd deadline poll ending ∧ ending.succeeded = false := by
  simp only [settled.sees_iff]
  cases verdict with
  | finished poll ending =>
    rw [conclusion, judge_eq_command_iff]
    simp [and_assoc]
  | expired poll => simp [conclusion]

private theorem conclusion_eq_timeout_iff :
    (∃ program seconds, conclusion command output verdict =
        .error (.failure (.timeout program seconds))) ↔ watch.RunsOut deadline := by
  rw [settled.runsOut_iff]
  cases verdict with
  | finished poll ending => simp [conclusion, judge_ne_timeout, Verdict.isExpired]
  | expired poll => simp [conclusion, Verdict.isExpired]

end

private theorem kills_run {machine : Machine} {session : Session} {command : Command} {process : Process}
    {verdict : Verdict}
    (ran : (session.run machine command).2 =
      (session.note (.launched command)).concluded command process verdict) :
    (session.run machine command).2.kills =
      session.kills ++ if verdict.isExpired then [command] else [] := by
  rw [ran, kills, filterMap_concluded fun _ => rfl, filterMap_note]
  simp [kills]

/-- Once the clock comes to the deadline, the waiting is over. It goes well only if a poll has seen the process
end well, it fails by a bad end only if one has seen such an end, and it is a timeout exactly if a poll has
seen the process running with the time up and no earlier one its end; only then, and always then, the
process is killed and its end waited for. What a started program comes to is told by its own polls. -/
theorem waiting_tells_ending :
    (∀ (watch : Watch) (deadline : Nat), (∃ poll, deadline ≤ watch.clock poll) →
      ∃ verdict actions, (∃ enough, ∀ fuel, enough ≤ fuel →
          watch.wait deadline fuel = some (actions, verdict)) ∧
        (watch.RunsOut deadline → [.kill, .reap] <:+ actions) ∧
        (.kill ∈ actions → watch.RunsOut deadline) ∧
        ∀ command output,
          ((∃ kept, conclusion command output verdict = .ok kept) ↔
            ∃ poll ending, watch.SeesEnd deadline poll ending ∧ ending.succeeded = true) ∧
          ((∃ ending errors, conclusion command output verdict =
              .error (.failure (.command command.program ending errors))) ↔
            ∃ poll ending, watch.SeesEnd deadline poll ending ∧ ending.succeeded = false) ∧
          ((∃ program seconds, conclusion command output verdict =
              .error (.failure (.timeout program seconds))) ↔ watch.RunsOut deadline)) ∧
    ∀ (machine : Machine) (session : Session) (command : Command) (process : Process),
      machine.start (session.note (.launched command)) command = .ok process →
      isOnClock (session.clock + command.timeout) = true →
      ∃ verdict, (∃ actions, (process.watch session.clock).wait (session.clock + command.timeout)
            (pollCount command.timeout) = some (actions, verdict)) ∧
        (session.run machine command).1 =
          conclusion command (kept command (process.undisturbed command.timeout)) verdict ∧
        (session.run machine command).2.kills =
          session.kills ++ (if verdict.isExpired then [command] else []) ∧
        ∀ poll, verdict = .expired poll →
          (session.run machine command).2.tree = (process.after (pollInterval * poll)).tree := by
  constructor
  · intro watch deadline late
    obtain ⟨verdict, settled⟩ := Watch.exists_settles late
    refine ⟨verdict, verdict.actions 0, ⟨verdict.last + 1, fun fuel enough => settled.wait enough⟩, ?_, ?_,
      fun command output => ⟨conclusion_eq_ok_iff settled command output,
        conclusion_eq_command_iff settled command output,
        conclusion_eq_timeout_iff settled command output⟩⟩
    · intro out
      rw [Verdict.actions, if_pos (settled.runsOut_iff.mp out)]
      exact List.suffix_append _ _
    · intro killed
      exact settled.runsOut_iff.mpr (Verdict.kill_mem_actions.mp killed)
  · intro machine session command process started shown
    rcases run_cases machine session command with ⟨fault, -, failed, -⟩ | ⟨hidden, -⟩ |
      ⟨process', verdict, started', settled, ran⟩
    · rw [started] at failed
      cases failed
    · rw [shown] at hidden
      cases hidden
    · obtain rfl : process = process' := Except.ok.inj (started.symm.trans started')
      refine ⟨verdict, ⟨_, settled.wait (last_lt_pollCount settled)⟩, congrArg Prod.fst ran,
        kills_run (congrArg Prod.snd ran), ?_⟩
      rintro poll rfl
      rw [ran]
      exact tree_afterProgram _ _ _ _

/-- A process that has ended well behind the first poll, with a clock that is far too late at the second. -/
def lateWatch : Watch where
  poll count := if count = 0 then none else some (.exited 0)
  clock count := if count = 0 then 0 else 1000000

def stubbornMachine : Machine where
  start session _ := .ok { ending? := none, after := fun _ => { tree := session.tree } }
  renderer := Svg.renderer

/-- A late clock does not make a timeout of a good end, and no time at all is a timeout at the first poll. -/
theorem waiting_tells_ending_of_late_clock :
    (∃ poll, 1000 ≤ lateWatch.clock poll) ∧
      (∃ verdict actions, (∃ enough, ∀ fuel, enough ≤ fuel →
          lateWatch.wait 1000 fuel = some (actions, verdict)) ∧
        .kill ∉ actions ∧
        ∃ kept, conclusion { program := "sleep" } ⟨.empty, .empty⟩ verdict = .ok kept) ∧
      isOnClock 0 = true ∧
      (run stubbornMachine { tree := {} } { program := "sleep", timeout := 0 }).1 =
        .error (.failure (.timeout "sleep" 0)) := by
  have late : ∃ poll, 1000 ≤ lateWatch.clock poll := ⟨1, by decide⟩
  have shown : isOnClock 0 = true := by decide
  obtain ⟨watched, started⟩ := waiting_tells_ending
  refine ⟨late, ?_, shown, ?_⟩
  · obtain ⟨verdict, actions, ends, -, kills, concluded⟩ := watched lateWatch 1000 late
    refine ⟨verdict, actions, ends, ?_, ?_⟩
    · intro killed
      obtain ⟨poll, running, late, -⟩ := kills killed
      cases poll with
      | zero => exact absurd late (by decide)
      | succ poll => cases running
    · apply (concluded { program := "sleep" } ⟨.empty, .empty⟩).1.mpr
      refine ⟨1, .exited 0, ⟨rfl, ?_⟩, rfl⟩
      intro earlier front
      obtain rfl := Nat.lt_one_iff.mp front
      exact ⟨rfl, by decide⟩
  · obtain ⟨verdict, ⟨actions, waited⟩, ran, -⟩ := started stubbornMachine { tree := {} }
      { program := "sleep", timeout := 0 } _ rfl shown
    obtain ⟨-, rfl⟩ := Prod.mk.inj (Option.some.inj waited)
    exact ran

end Session

end SlidePress
