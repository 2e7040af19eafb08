import Uplink.Proofs.Flags.Turns

/-! Every wait returns what the history of its register gives it, at the instant it gives, and once. -/

namespace Uplink.Flags

/-- A run of a register with its waits, and its history. Bits are raised and cleared, and waits are
started and cancelled, at any moment: also when the clock has just come to a deadline and the task that
it wakes has not had its turn. The clock moves while no task can run, and stops at every deadline. -/
inductive Run : List Happening → Waits → Prop where
  | named (name : String) : Run [] (.named name)
  | post {history waits} (run : Run history waits) (mask : UInt32) :
      Run (history ++ [.posted mask]) (waits.post mask)
  | reset {history waits} (run : Run history waits) : Run (history ++ [.cleared]) waits.reset
  /-- A wait is known by the name of its task. -/
  | start {history waits} (run : Run history waits) (condition : Condition) (timeout : Timeout) :
      Run history (waits.start waits.agenda.unused condition timeout)
  | cancel {history waits task} (run : Run history waits) (pending : waits.isPending task = true) :
      Run (history ++ [.cancelled task]) (waits.cancel task)
  | turn {history waits next} (run : Run history waits) (turned : waits.turn? = some next) :
      Run (history ++ waits.inTurn) next
  | strike {history waits instant} (run : Run history waits) (quiet : waits.turn? = none)
      (ahead : waits.agenda.now ≤ instant)
      (stop : ∀ due, Timed.nextDue? waits = some due → instant ≤ due) :
      Run (history ++ [.passed instant]) (waits.strike instant)

variable {history : List Happening} {waits next : Waits} {task : TaskId}

/-! ### Turns -/

namespace Waits

/-- Looking after a wait is one turn of the task at the head of the line. -/
@[simp] theorem look_agenda (waits : Waits) (task : TaskId) (label : Nat) (state : Wait) :
    (waits.look task label state).agenda = waits.agenda.yield := by
  -- Both branches end the turn in the same way; they differ in the pending waits.
  unfold look
  split <;> rfl

/-- A turn takes the head of the line away and wakes nobody. -/
theorem turn_agenda (turned : waits.turn? = some next) : next.agenda = waits.agenda.yield := by
  -- Whatever the task does in its turn, its name goes from the head of the line.
  unfold turn? at turned
  split at turned
  · contradiction
  · split at turned
    · cases turned
      rfl
    · cases turned
      unfold turnOf
      split
      · rfl
      · rfl
      · exact look_agenda _ _ _ _
      · exact look_agenda _ _ _ _

/-- No task can run when nobody stands in line. -/
theorem turn_eq_none : waits.turn? = none ↔ waits.agenda.ready = [] := by
  -- Both sides look at the head of the line only.
  unfold turn?
  split
  · rename_i quiet
    simp [quiet]
  · rename_i line
    split <;> simp [line]

end Waits

/-! ### Runs -/

namespace Run

/-- Along every run the waits agree with the history. -/
theorem faithful (run : Run history waits) : Faithful history waits := by
  -- Induction on the run, one case for each thing that can be done to the register.
  induction run with
  | named name => exact .named name
  | post run mask ih => exact ih.post mask
  | reset run ih => exact ih.reset
  | start run condition timeout ih => exact ih.start condition timeout
  | cancel run pending ih => exact ih.cancel pending
  | turn run turned ih => exact ih.turn turned
  | strike run quiet ahead stop ih => exact ih.strike (Waits.turn_eq_none.mp quiet) stop

/-- As many turns as tasks stand in line leave no task that can run. -/
theorem settle_quiet (waits : Waits) :
    (Timed.settle waits.agenda.ready.length waits).turn? = none := by
  -- Each turn takes one task away from the line.
  generalize length : waits.agenda.ready.length = turns
  induction turns generalizing waits with
  | zero => exact Waits.turn_eq_none.mpr (List.length_eq_zero_iff.mp length)
  | succ turns ih =>
    unfold Timed.settle
    split
    · rename_i quiet
      exact quiet
    · rename_i next turned
      apply ih
      rw [Waits.turn_agenda turned, Agenda.yield, List.length_tail, length, Nat.add_sub_cancel]

/-- Running tasks goes on with a run. -/
theorem settle (run : Run history waits) (turns : Nat) :
    ∃ later, Run (history ++ later) (Timed.settle turns waits) := by
  -- Induction on the number of turns; each one that is taken goes on with the run.
  induction turns generalizing history waits with
  | zero => exact ⟨[], by simpa [Timed.settle] using run⟩
  | succ turns ih =>
    unfold Timed.settle
    split
    · exact ⟨[], by simpa using run⟩
    · rename_i next turned
      obtain ⟨later, longer⟩ := ih (.turn run turned)
      exact ⟨waits.inTurn ++ later, by simpa [List.append_assoc] using longer⟩

/-- Letting time pass goes on with a run. -/
theorem runUntil (run : Run history waits) {limit : Nat} (ahead : waits.agenda.now ≤ limit) (turns : Nat) :
    ∃ later, Run (history ++ later) (Timed.runUntil limit turns waits) := by
  -- Between two moves of the clock every task that can run takes its turns.
  unfold Timed.runUntil
  induction turns generalizing history waits with
  | zero => exact ⟨[], by simpa [Timed.runTo] using run⟩
  | succ turns ih =>
    unfold Timed.runTo
    simp only [Bool.false_eq_true, if_false]
    split
    · rename_i next turned
      have now : next.agenda.now = waits.agenda.now := by
        rw [Waits.turn_agenda turned]
        rfl
      obtain ⟨later, longer⟩ := ih (.turn run turned) (now ▸ ahead)
      exact ⟨waits.inTurn ++ later, by simpa [List.append_assoc] using longer⟩
    · rename_i quiet
      split
      · rename_i due next
        split
        · rename_i inside
          -- The next deadline lies within the span, so the clock stops there first.
          have forward : waits.agenda.now ≤ due := Nat.le_of_lt (Agenda.lt_of_nextOf next)
          have struck : Run (history ++ [.passed due]) (Timed.strike due waits) :=
            .strike run quiet forward (by simp [next])
          have now : (Timed.strike due waits).agenda.now = due := by
            simp [Timed.strike, Waits.strike]
          obtain ⟨later, longer⟩ := ih struck (by rw [now]; exact inside)
          exact ⟨.passed due :: later, by simpa [List.append_assoc] using longer⟩
        · rename_i outside
          -- The next deadline lies beyond the span, so the clock moves to its end.
          refine ⟨[.passed limit], .strike run quiet ahead ?_⟩
          intro first next'
          rw [next] at next'
          cases next'
          exact Nat.le_of_not_le outside
      · rename_i none
        exact ⟨[.passed limit], .strike run quiet ahead (by simp [none])⟩

/-- What was done to a register so far goes on while time passes as the register lets it. -/
theorem advance (run : Run history waits) (span : Nat) :
    ∃ later, Run (history ++ later) (waits.advance span) :=
  -- Time passes by running to the new moment.
  run.runUntil (Nat.le_add_right _ _) _

end Run

/-- A wait that goes on while no task can run has parked, its deadline is ahead, and the history gives it
no answer. -/
theorem Faithful.parked_of_quiet (faithful : Faithful history waits) (quiet : waits.turn? = none)
    (pending : task ∈ waits.pending.map (·.1)) :
    ∃ condition deadline, Parked task condition deadline history ∧
      (∀ due, deadline = some due → waits.agenda.now < due) ∧ outcome task history = none := by
  obtain ⟨entry, member, rfl⟩ := List.mem_map.mp pending
  -- Nobody is in the line, so this task is not.
  have idle : entry.1 ∉ waits.agenda.ready := by
    simp [Waits.turn_eq_none.mp quiet]
  -- What `Stands` says of a task outside the line is the claim.
  obtain ⟨condition, parked, ahead, unanswered⟩ := (faithful.stands entry member).parked_of_not_ready idle
  exact ⟨condition, _, parked, ahead, unanswered⟩

/-- Along every run each wait that has ended has returned what the history gives it at the instant it
gives, and no wait has ended twice. Once no task can run, every wait that the history gives an answer
has ended, and a wait that goes on without having been cancelled has parked and its deadline is ahead;
and there is always a number of turns after which no task can run. -/
theorem Run.returns_outcome (run : Run history waits) :
    (waits.ended.map (·.label)).Nodup ∧
    (∀ ended ∈ waits.ended, outcome ended.label history = some (ended.instant, ended.bits)) ∧
    (waits.turn? = none → ∀ task instant bits, outcome task history = some (instant, bits) →
      ⟨task, instant, bits⟩ ∈ waits.ended) ∧
    (waits.turn? = none → ∀ task < waits.agenda.unused, .cancelled task ∉ history →
      task ∉ waits.ended.map (·.label) →
        ∃ condition deadline, Parked task condition deadline history ∧
          ∀ due, deadline = some due → waits.agenda.now < due) ∧
    (Timed.settle waits.agenda.ready.length waits).turn? = none := by
  have faithful := run.faithful
  refine ⟨faithful.once, faithful.answered, ?_, ?_, settle_quiet waits⟩
  · intro quiet task instant bits answered
    rcases faithful.accounted task (faithful.lt_unused_of_outcome answered) with pending | past | given
    · obtain ⟨-, -, -, -, unanswered⟩ := faithful.parked_of_quiet quiet pending
      rw [unanswered] at answered
      contradiction
    -- Whoever has ended has returned its outcome, which is the one asked for.
    · obtain ⟨ended, member, rfl⟩ := List.mem_map.mp past
      have same := (faithful.answered ended member).symm.trans answered
      cases same
      exact member
    -- A wait that was cancelled has no outcome.
    · rw [outcome, if_pos given] at answered
      contradiction
  · intro quiet task started kept goes
    rcases faithful.accounted task started with pending | past | given
    · obtain ⟨condition, deadline, parked, ahead, -⟩ := faithful.parked_of_quiet quiet pending
      exact ⟨condition, deadline, parked, ahead⟩
    · exact absurd past goes
    · exact absurd given kept

/-- Bits that are cleared again before the woken task has its turn are returned all the same. -/
theorem returns_bits_cleared_before_its_turn :
    ∃ waits, Run [.called 0 (.any 3) .forever, .looked 0, .posted 1, .cleared, .looked 0] waits ∧
      waits.register.bits = 0 ∧ ⟨0, 0, 1⟩ ∈ waits.ended := by
  -- The wait is called in its first turn and takes a second one after the bits were cleared.
  have called : Run [.called 0 (.any 3) .forever, .looked 0] _ :=
    .turn (.start (.named "n") (.any 3) .forever) rfl
  have run : Run [.called 0 (.any 3) .forever, .looked 0, .posted 1, .cleared, .looked 0] _ :=
    .turn (.reset (.post called 1)) rfl
  exact ⟨_, run, rfl, run.returns_outcome.2.2.1 rfl 0 0 1 (by decide)⟩

/-- The turn of its task decides over a wait that is cancelled or whose deadline has come. A post that
meets the condition of a wait before it is cancelled does not make the wait return, since its task may
not have had its turn before the cancellation; and a post at the very instant of the deadline is
returned, if it comes before the turn of the task that the deadline wakes. -/
theorem turn_decides_cancelled_and_due_waits :
    (¬ ∀ history waits, Run history waits → waits.turn? = none → ∀ task instant bits,
      answerFrom task {} (history.takeWhile (· ≠ .cancelled task)) = some (instant, bits) →
        ⟨task, instant, bits⟩ ∈ waits.ended) ∧
    ∃ waits,
      Run [.called 0 (.any 1) (.after 5), .looked 0, .passed 5, .posted 1, .looked 0] waits ∧
        waits.ended = [⟨0, 5, 1⟩] := by
  constructor
  · -- A wait is cancelled between the post that answers it and the turn that would have returned the
    -- answer.
    intro returns
    have called : Run [.called 0 (.all 1) .forever, .looked 0] _ :=
      .turn (.start (.named "n") (.all 1) .forever) rfl
    have run : Run [.called 0 (.all 1) .forever, .looked 0, .posted 1, .cancelled 0, .looked 0] _ :=
      .turn (.cancel (.post called 1) rfl) rfl
    have ended := returns _ _ run rfl 0 0 1 (by decide)
    contradiction
  · -- The clock comes to the deadline and wakes the task; the post falls before its turn.
    have called : Run [.called 0 (.any 1) (.after 5), .looked 0] _ :=
      .turn (.start (.named "n") (.any 1) (.after 5)) rfl
    have struck : Run [.called 0 (.any 1) (.after 5), .looked 0, .passed 5] _ :=
      .strike called rfl (by decide) (by decide)
    exact ⟨_, .turn (.post struck 1) rfl, rfl⟩

end Uplink.Flags
