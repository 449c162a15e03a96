import SlidePress.Program.Machine
import SlidePress.Text.Blank
import SlidePress.Text.Utf8

/-!
Running a program to its end or until its time is up. The clock counts seconds in 63 bits, and a
deadline beyond them breaks the program down; this is found out only after the program has been
started.
-/

namespace SlidePress

/-- What a program that went well has written, as far as it was kept. -/
structure Output where
  standard : ByteArray
  errors : ByteArray

def lastSecond : Nat := Nat.pow 2 63 - 1

def isOnClock (moment : Nat) : Bool :=
  moment / 1000 ≤ lastSecond

/-- The polls that suffice to see a process end or its time run out. -/
def pollCount (timeout : Nat) : Nat :=
  timeout / pollInterval + 2

namespace Session

/-- The session after a program has done something: its files, and its output if that is not
kept. -/
def afterProgram (session : Session) (command : Command) (snapshot : Snapshot) (elapsed : Nat) :
    Session :=
  let session := { session with tree := snapshot.tree, clock := session.clock + elapsed }
  if command.captured ∨ snapshot.output.isEmpty then session
  else session.note (.relayed snapshot.output)

def kept (command : Command) (snapshot : Snapshot) : Output :=
  if command.captured then ⟨snapshot.output, snapshot.errors⟩ else ⟨.empty, .empty⟩

def judge (command : Command) (ending : Ending) (output : Output) : Except Stop Output :=
  if ending.succeeded then .ok output
  else .error (.failure (.command command.program ending
    (Text.trimmed (Text.ofBytes output.errors))))

def run (machine : Machine) (session : Session) (command : Command) :
    Except Stop Output × Session :=
  let session := session.note (.launched command)
  match machine.start session command with
  | .error .notFound => (.error (.failure (.toolNotFound command.program)), session)
  | .error fault => (.error (.failure (.system fault)), session)
  | .ok process =>
    let deadline := session.clock + command.timeout
    let polls := pollCount command.timeout
    if !isOnClock deadline then
      (.error .crash, session.afterProgram command (process.undisturbed command.timeout) 0)
    else
      let waiting := (process.watch session.clock).wait deadline polls
      match (waiting.map (·.2)).getD (.expired polls) with
      | .finished poll ending =>
        let snapshot := process.undisturbed command.timeout
        (judge command ending (kept command snapshot),
          session.afterProgram command snapshot (pollInterval * poll))
      | .expired poll =>
        let elapsed := pollInterval * poll
        let session := session.afterProgram command (process.after elapsed) elapsed
        (.error (.failure (.timeout command.program (command.timeout / 1000))),
          session.note (.killed command))

/-- Runs a program for its standard output, without the white space around it. -/
def readOutput (machine : Machine) (session : Session) (command : Command) :
    Except Stop String × Session :=
  match session.run machine command with
  | (.ok output, session) => (.ok (Text.trimmed (Text.ofBytes output.standard)), session)
  | (.error stop, session) => (.error stop, session)

end Session

end SlidePress
