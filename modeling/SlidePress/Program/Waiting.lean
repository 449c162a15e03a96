import SlidePress.Failure

/-!
Waiting for a process with a deadline. The process is asked whether it is over; only when it is not
the clock is looked at, and only a clock that has reached the deadline ends the waiting. So a
process that is seen to be over is never taken for one that is late, however late the clock.
-/

namespace SlidePress

/-- What the waiting can see: what the process answers at each poll and what the clock shows right
after it, both counted from the first poll. -/
structure Watch where
  poll : Nat → Option Ending
  clock : Nat → Nat

/-- How the waiting comes out. -/
inductive Verdict where
  | finished (poll : Nat) (ending : Ending)
  | expired (poll : Nat)
  deriving DecidableEq, Repr

/-- What is done to the process or to pass the time. -/
inductive WaitAction where
  | pause
  | kill
  /-- Waits for the end of the process that has been killed. -/
  | reap
  deriving DecidableEq, Repr

/-- Waits from a poll on, with at most `fuel` more polls; there is no verdict when they do not
suffice. -/
def Watch.waitFrom (watch : Watch) (deadline : Nat) :
    (fuel poll : Nat) → Option (List WaitAction × Verdict)
  | 0, _ => none
  | fuel + 1, poll =>
    match watch.poll poll with
    | some ending => some ([], .finished poll ending)
    | none =>
      if deadline ≤ watch.clock poll then some ([.kill, .reap], .expired poll)
      else (watch.waitFrom deadline fuel (poll + 1)).map fun (actions, verdict) =>
        (.pause :: actions, verdict)

def Watch.wait (watch : Watch) (deadline fuel : Nat) : Option (List WaitAction × Verdict) :=
  watch.waitFrom deadline fuel 0

end SlidePress
