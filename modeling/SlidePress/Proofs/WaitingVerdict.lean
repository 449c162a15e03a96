import Mathlib.Data.Nat.Find
import SlidePress.Program.Run

/-! How the waiting for a process comes out. It goes on as long as the process is seen running and the clock
read right after is in front of the deadline, so the first poll where one of the two fails decides, and at
that poll the end of the process counts before the clock. -/

namespace SlidePress

namespace Verdict

def last : Verdict → Nat
  | .finished poll _ => poll
  | .expired poll => poll

def isExpired : Verdict → Bool
  | .finished .. => false
  | .expired _ => true

def actions (first : Nat) (verdict : Verdict) : List WaitAction :=
  List.replicate (verdict.last - first) .pause ++ if verdict.isExpired then [.kill, .reap] else []

private theorem actions_of_lt {first : Nat} {verdict : Verdict} (before : first < verdict.last) :
    verdict.actions first = .pause :: verdict.actions (first + 1) := by
  have more : verdict.last - first = verdict.last - (first + 1) + 1 := by omega
  rw [actions, actions, more, List.replicate_succ, List.cons_append]

theorem kill_mem_actions {first : Nat} {verdict : Verdict} :
    .kill ∈ verdict.actions first ↔ verdict.isExpired = true := by
  cases verdict <;> simp [actions, isExpired]

end Verdict

namespace Watch

variable {watch : Watch} {deadline first fuel : Nat} {verdict other : Verdict}

/-- Whether a poll that sees the process running, with time left, is all there is from one to another. -/
def IsOpen (watch : Watch) (deadline first last : Nat) : Prop :=
  ∀ poll, first ≤ poll → poll < last → watch.poll poll = none ∧ watch.clock poll < deadline

/-- Whether the poll of a verdict shows what the verdict says. -/
def Shows (watch : Watch) (deadline : Nat) : Verdict → Prop
  | .finished poll ending => watch.poll poll = some ending
  | .expired poll => watch.poll poll = none ∧ deadline ≤ watch.clock poll

/-- Whether the waiting from a first poll on has to come out as a verdict says. -/
structure Settles (watch : Watch) (deadline first : Nat) (verdict : Verdict) : Prop where
  reached : first ≤ verdict.last
  undecided : watch.IsOpen deadline first verdict.last
  shown : watch.Shows deadline verdict

private theorem Settles.last_le (settled : watch.Settles deadline first verdict)
    (settled' : watch.Settles deadline first other) : verdict.last ≤ other.last := by
  apply Nat.le_of_not_lt
  intro later
  have still := settled.undecided other.last settled'.reached later
  have shown := settled'.shown
  cases other with
  | finished poll ending =>
    rw [Shows, show watch.poll poll = none from still.1] at shown
    cases shown
  | expired poll => exact Nat.not_le_of_lt still.2 shown.2

theorem Settles.eq (settled : watch.Settles deadline first verdict)
    (settled' : watch.Settles deadline first other) : verdict = other := by
  have same : verdict.last = other.last :=
    Nat.le_antisymm (settled.last_le settled') (settled'.last_le settled)
  have shown := settled.shown
  have shown' := settled'.shown
  cases verdict with
  | finished poll ending =>
    cases other with
    | finished poll' ending' =>
      obtain rfl : poll = poll' := same
      rw [Shows] at shown shown'
      rw [Option.some.inj (shown.symm.trans shown')]
    | expired poll' =>
      obtain rfl : poll = poll' := same
      rw [Shows] at shown
      rw [Shows, shown] at shown'
      cases shown'.1
  | expired poll =>
    cases other with
    | finished poll' ending' =>
      obtain rfl : poll = poll' := same
      rw [Shows] at shown'
      rw [Shows, shown'] at shown
      cases shown.1
    | expired poll' =>
      obtain rfl : poll = poll' := same
      rfl

private theorem settles_of_shows (here : verdict.last = first) (shown : watch.Shows deadline verdict) :
    watch.Settles deadline first verdict where
  reached := Nat.le_of_eq here.symm
  undecided := by
    intro poll behind before
    omega
  shown := shown

/-- A poll that decides nothing makes no difference. -/
theorem settles_succ_iff (running : watch.poll first = none) (early : watch.clock first < deadline) :
    watch.Settles deadline first verdict ↔ watch.Settles deadline (first + 1) verdict := by
  constructor
  · intro settled
    have apart : first ≠ verdict.last := by
      intro here
      have shown := settled.shown
      cases verdict with
      | finished poll ending =>
        obtain rfl : first = poll := here
        rw [Shows, running] at shown
        cases shown
      | expired poll =>
        obtain rfl : first = poll := here
        exact Nat.not_le_of_lt early shown.2
    refine ⟨Nat.lt_of_le_of_ne settled.reached apart, ?_, settled.shown⟩
    intro poll behind before
    exact settled.undecided poll (Nat.le_of_succ_le behind) before
  · intro settled
    refine ⟨Nat.le_of_succ_le settled.reached, ?_, settled.shown⟩
    intro poll behind before
    rcases Nat.eq_or_lt_of_le behind with rfl | later
    · exact ⟨running, early⟩
    · exact settled.undecided poll later before

/-- A poll that decides does so at once, and its verdict is the only one that settles the waiting. -/
theorem decided_iff (first : Nat) {actions : List WaitAction} (own : Verdict) (here : own.last = first)
    (shown : watch.Shows deadline own) :
    some (own.actions first, own) = some (actions, verdict) ↔
      watch.Settles deadline first verdict ∧ verdict.last < first + (fuel + 1) ∧
        actions = verdict.actions first := by
  have settled := settles_of_shows here shown
  constructor
  · intro same
    cases same
    exact ⟨settled, by omega, rfl⟩
  · rintro ⟨settled', -, rfl⟩
    rw [settled.eq settled']

/-- The waiting comes out as the first poll shows that decides at all, if there are enough polls. -/
theorem waitFrom_eq_some_iff {actions : List WaitAction} :
    watch.waitFrom deadline fuel first = some (actions, verdict) ↔
      watch.Settles deadline first verdict ∧ verdict.last < first + fuel ∧
        actions = verdict.actions first := by
  induction fuel generalizing first actions with
  | zero =>
    refine iff_of_false (by simp [waitFrom]) ?_
    rintro ⟨settled, few, -⟩
    exact Nat.not_le_of_lt few settled.reached
  | succ fuel ih =>
    rw [waitFrom]
    cases seen : watch.poll first with
    | some ending =>
      rw [← decided_iff first (.finished first ending) rfl seen]
      simp [Verdict.actions, Verdict.last, Verdict.isExpired]
    | none =>
      simp only
      split
      next late =>
        rw [← decided_iff first (.expired first) rfl ⟨seen, late⟩]
        simp [Verdict.actions, Verdict.last, Verdict.isExpired]
      next early =>
        rw [settles_succ_iff seen (Nat.lt_of_not_le early), Option.map_eq_some_iff]
        constructor
        · rintro ⟨⟨later, own⟩, waited, same⟩
          cases same
          obtain ⟨settled, enough, same⟩ := ih.mp waited
          refine ⟨settled, by omega, ?_⟩
          rw [Verdict.actions_of_lt settled.reached, same]
        · rintro ⟨settled, enough, rfl⟩
          refine ⟨(verdict.actions (first + 1), verdict), ih.mpr ⟨settled, by omega, rfl⟩, ?_⟩
          rw [Verdict.actions_of_lt settled.reached]

/-- The waiting ends if the clock comes to the deadline. -/
theorem exists_settles (late : ∃ poll, deadline ≤ watch.clock poll) :
    ∃ verdict, watch.Settles deadline 0 verdict := by
  have decided : ∃ poll, (watch.poll poll).isSome = true ∨ deadline ≤ watch.clock poll :=
    late.imp fun poll reached => .inr reached
  have undecided : watch.IsOpen deadline 0 (Nat.find decided) := by
    intro poll _ before
    have still := Nat.find_min decided before
    rw [not_or, Option.not_isSome_iff_eq_none, Nat.not_le] at still
    exact still
  cases seen : watch.poll (Nat.find decided) with
  | some ending => exact ⟨.finished (Nat.find decided) ending, Nat.zero_le _, undecided, seen⟩
  | none =>
    rcases Nat.find_spec decided with ended | reached
    · rw [seen] at ended
      cases ended
    · exact ⟨.expired (Nat.find decided), Nat.zero_le _, undecided, seen, reached⟩

/-! ### What the polls have to show -/

/-- Whether a poll sees how the process has ended, and no poll in front of it has stopped the waiting. -/
def SeesEnd (watch : Watch) (deadline poll : Nat) (ending : Ending) : Prop :=
  watch.poll poll = some ending ∧
    ∀ earlier < poll, watch.poll earlier = none ∧ watch.clock earlier < deadline

/-- Whether some poll sees the process running and the clock at the deadline or past it, and no earlier one
has seen its end. -/
def RunsOut (watch : Watch) (deadline : Nat) : Prop :=
  ∃ poll, watch.poll poll = none ∧ deadline ≤ watch.clock poll ∧
    ∀ earlier < poll, watch.poll earlier = none

theorem Settles.sees_iff (settled : watch.Settles deadline 0 verdict) {poll : Nat} {ending : Ending} :
    watch.SeesEnd deadline poll ending ↔ verdict = .finished poll ending := by
  constructor
  · rintro ⟨seen, before⟩
    apply settled.eq
    exact ⟨Nat.zero_le _, fun earlier _ front => before earlier front, seen⟩
  · rintro rfl
    exact ⟨settled.shown, fun earlier front => settled.undecided earlier (Nat.zero_le _) front⟩

theorem Settles.runsOut_iff (settled : watch.Settles deadline 0 verdict) :
    watch.RunsOut deadline ↔ verdict.isExpired = true := by
  constructor
  · rintro ⟨poll, running, late, before⟩
    cases verdict with
    | expired last => rfl
    | finished last ending =>
      -- the end would have been seen only behind a poll that finds the time up
      have shown : watch.poll last = some ending := settled.shown
      have front : poll < last := by
        rcases Nat.lt_trichotomy poll last with front | rfl | behind
        · exact front
        · rw [running] at shown
          cases shown
        · rw [before last behind] at shown
          cases shown
      exact absurd late (Nat.not_le_of_lt (settled.undecided poll (Nat.zero_le _) front).2)
  · intro expired
    cases verdict with
    | finished last ending => cases expired
    | expired last =>
      exact ⟨last, settled.shown.1, settled.shown.2,
        fun earlier front => (settled.undecided earlier (Nat.zero_le _) front).1⟩

theorem Settles.wait (settled : watch.Settles deadline 0 verdict) (enough : verdict.last < fuel) :
    watch.wait deadline fuel = some (verdict.actions 0, verdict) := by
  apply waitFrom_eq_some_iff.mpr
  rw [Nat.zero_add]
  exact ⟨settled, enough, rfl⟩

end Watch

end SlidePress
