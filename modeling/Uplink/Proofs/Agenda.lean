import Uplink.Agenda

/-! The line of tasks that can run: who stands in it after some are woken, and what running them comes to. -/

namespace Uplink.Agenda

/-- Waking a task leaves the clock alone. -/
@[simp] theorem wake_now (agenda : Agenda) (task : TaskId) : (agenda.wake task).now = agenda.now := by
  -- Whether the task stands in line already or not, only the line can change.
  unfold wake
  split <;> rfl

/-- Waking a task uses up no name. -/
@[simp] theorem wake_unused (agenda : Agenda) (task : TaskId) :
    (agenda.wake task).unused = agenda.unused := by
  -- Names are used up where tasks are started, and nowhere else.
  unfold wake
  split <;> rfl

/-- A woken task stands in line together with those who stood there before. -/
@[simp] theorem mem_wake {agenda : Agenda} {task other : TaskId} :
    other ∈ (agenda.wake task).ready ↔ other ∈ agenda.ready ∨ other = task := by
  -- A task that stands in line already is not put there a second time.
  unfold wake
  split
  · rename_i present
    constructor
    · exact .inl
    · intro either
      rcases either with kept | rfl
      · exact kept
      · exact present
  · simp

/-- Waking tasks leaves the clock alone. -/
@[simp] theorem wakeAll_now (agenda : Agenda) (tasks : List TaskId) :
    (agenda.wakeAll tasks).now = agenda.now := by
  -- Induction on the tasks, each of which is woken by itself.
  induction tasks generalizing agenda with
  | nil => rfl
  | cons task rest ih => exact (ih (agenda.wake task)).trans (agenda.wake_now task)

/-- Waking tasks uses up no name. -/
@[simp] theorem wakeAll_unused (agenda : Agenda) (tasks : List TaskId) :
    (agenda.wakeAll tasks).unused = agenda.unused := by
  -- The same induction, with the names in place of the clock.
  induction tasks generalizing agenda with
  | nil => rfl
  | cons task rest ih => exact (ih (agenda.wake task)).trans (agenda.wake_unused task)

/-- Woken tasks stand in line together with those who stood there before. -/
@[simp] theorem mem_wakeAll {agenda : Agenda} {tasks : List TaskId} {other : TaskId} :
    other ∈ (agenda.wakeAll tasks).ready ↔ other ∈ agenda.ready ∨ other ∈ tasks := by
  -- Induction on the tasks that are woken, with the line as each of them finds it.
  induction tasks generalizing agenda with
  | nil => simp [wakeAll]
  | cons task rest ih =>
    have woken : agenda.wakeAll (task :: rest) = (agenda.wake task).wakeAll rest := rfl
    simp [woken, ih, or_assoc]

/-- Whoever is first in line stays so when others are woken. -/
theorem head?_wakeAll {agenda : Agenda} {task : TaskId} (first : agenda.ready.head? = some task)
    (tasks : List TaskId) : (agenda.wakeAll tasks).ready.head? = some task := by
  -- Induction on the tasks. One more of them stands behind the first, or stood in the line already.
  induction tasks generalizing agenda with
  | nil => exact first
  | cons other later ih =>
    refine ih ?_
    unfold wake
    split
    · exact first
    · simp [first]

/-- Whether a deadline has come depends on the clock alone. -/
theorem reached_congr {one other : Agenda} (same : one.now = other.now) (deadline : Option Nat) :
    one.reached deadline = other.reached deadline := by
  -- The clock is all that a deadline is compared with.
  cases deadline <;> simp [reached, same]

/-- Waking tasks brings no deadline nearer. -/
@[simp] theorem reached_wakeAll (agenda : Agenda) (tasks : List TaskId) (deadline : Option Nat) :
    (agenda.wakeAll tasks).reached deadline = agenda.reached deadline :=
  reached_congr (agenda.wakeAll_now tasks) deadline

/-- A turn brings no deadline nearer. -/
@[simp] theorem reached_yield (agenda : Agenda) (deadline : Option Nat) :
    agenda.yield.reached deadline = agenda.reached deadline :=
  reached_congr rfl deadline

/-- The earliest deadline ahead is not later than any deadline ahead. -/
theorem nextOf_le {agenda : Agenda} {deadlines : List (Option Nat)} {instant due : Nat}
    (next : agenda.nextOf deadlines = some due) (member : some instant ∈ deadlines)
    (ahead : agenda.now < instant) : due ≤ instant := by
  -- The least of the deadlines ahead is at most each of them.
  unfold nextOf at next
  have listed : instant ∈ (deadlines.filterMap id).filter (agenda.now < ·) := by
    simp [member, ahead]
  exact (List.min?_eq_some_iff.mp next).2 instant listed

/-- The earliest deadline ahead is ahead. -/
theorem lt_of_nextOf {agenda : Agenda} {deadlines : List (Option Nat)} {due : Nat}
    (next : agenda.nextOf deadlines = some due) : agenda.now < due := by
  -- The earliest deadline is one of those that the clock has not reached.
  have listed := (List.min?_eq_some_iff.mp next).1
  simpa using (List.mem_filter.mp listed).2

/-- With a deadline ahead there is an earliest one. -/
theorem nextOf_isSome {agenda : Agenda} {deadlines : List (Option Nat)} {instant : Nat}
    (member : some instant ∈ deadlines) (ahead : agenda.now < instant) :
    ∃ due, agenda.nextOf deadlines = some due := by
  -- A list that has an element has a least one.
  have listed : instant ∈ (deadlines.filterMap id).filter (agenda.now < ·) := by
    simp [member, ahead]
  exact Option.isSome_iff_exists.mp (List.isSome_min?_of_mem listed)

end Uplink.Agenda

namespace Uplink.Timed

variable {σ : Type} [Timed σ] {state next : σ}

/-- Where no task can run, nothing is run. -/
theorem settle_of_quiet (quiet : turn? state = none) (turns : Nat) : settle turns state = state := by
  -- The first turn that is missing ends the run of all of them.
  cases turns with
  | zero => rfl
  | succ turns => simp [settle, quiet]

/-- The first of the turns comes first. -/
theorem settle_of_turn (turned : turn? state = some next) (turns : Nat) :
    settle (turns + 1) state = settle turns next := by
  -- The turn is taken before the next one is looked for.
  simp [settle, turned]

/-- What turns and the passing of time keep is kept however long the time passes. -/
theorem runTo_keeps {P : σ → Prop}
    (turn : ∀ state next, P state → turn? state = some next → P next)
    (strikes : ∀ state instant, P state → P (strike instant state)) {arrived : σ → Bool} {limit turns : Nat}
    (holds : P state) : P (runTo arrived limit turns state) := by
  -- Induction on the turns. A turn comes first, and the clock moves on only where there is none.
  induction turns generalizing state with
  | zero => exact holds
  | succ turns ih =>
    unfold runTo
    split
    · exact holds
    · split
      · rename_i next turned
        exact ih (turn state next holds turned)
      · split
        · split
          · exact ih (strikes state _ holds)
          · -- Beyond the last deadline, or where none is left, the clock goes to its limit.
            exact strikes state limit holds
        · exact strikes state limit holds

end Uplink.Timed
