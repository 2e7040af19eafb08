/-!
The agenda of a cooperative system: its clock, and the line of tasks that can run.

One task runs at a time, until it has nothing left to do at the present instant. A task that is
woken joins the end of the line once. `Timed` is what a system offers so that its tasks can be run
until none can, and its clock moved from one deadline to the next.
-/

namespace Uplink

/-- Names a task for as long as its system runs. -/
abbrev TaskId := Nat

/-- The clock in milliseconds, and the tasks that can run, the next one first. -/
structure Agenda where
  now : Nat := 0
  ready : List TaskId := []
  /-- The name that the next task gets. -/
  unused : TaskId := 0
deriving Repr, DecidableEq

namespace Agenda

/-- The last instant that the clock can show: it counts milliseconds in 64 bits. -/
def horizon : Nat := UInt64.size - 1

/-- The instant at which a span that begins now has passed, unless the clock never shows it. -/
def deadline (agenda : Agenda) (span : Nat) : Option Nat :=
  -- Nobody waits for an instant beyond the last one.
  if agenda.now + span ≤ horizon then some (agenda.now + span) else none

/-- A woken task joins the end of the line, unless it stands there already. -/
def wake (agenda : Agenda) (task : TaskId) : Agenda :=
  if task ∈ agenda.ready then agenda else { agenda with ready := agenda.ready ++ [task] }

/-- Tasks woken together join in the given order. -/
def wakeAll (agenda : Agenda) (tasks : List TaskId) : Agenda :=
  tasks.foldl wake agenda

/-- A new task has a name of its own and can run at once. -/
def spawn (agenda : Agenda) : TaskId × Agenda :=
  (agenda.unused, { agenda with ready := agenda.ready ++ [agenda.unused], unused := agenda.unused + 1 })

/-- The task at the head of the line has nothing left to do for now. -/
def yield (agenda : Agenda) : Agenda :=
  { agenda with ready := agenda.ready.tail }

/-- Whether a deadline has come. -/
def reached (agenda : Agenda) : Option Nat → Bool
  | none => false
  | some instant => instant ≤ agenda.now

/-- The earliest of the deadlines that are still ahead. -/
def nextOf (agenda : Agenda) (deadlines : List (Option Nat)) : Option Nat :=
  -- Whoever has met a deadline was woken then, so the clock does not stop for it twice.
  ((deadlines.filterMap id).filter (agenda.now < ·)).min?

end Agenda

/-- What one step of a task leads to. -/
inductive Progress (α β : Type) where
  /-- It is over. -/
  | done (answer : α)
  /-- It goes on at once from here. -/
  | next (stage : β)
  /-- It goes on from here once it is woken. -/
  | parked (stage : β)

/-- A system whose tasks take turns and wait for deadlines. -/
class Timed (σ : Type) where
  /-- One turn of the task at the head of the line; none when no task can run. -/
  turn? : σ → Option σ
  /-- The next instant at which a deadline comes. -/
  nextDue? : σ → Option Nat
  /-- Set the clock and wake the tasks whose deadline has come. -/
  strike : Nat → σ → σ

namespace Timed

variable {σ : Type} [Timed σ]

/-- Run tasks, within so many turns, until none can run. -/
def settle : Nat → σ → σ
  | 0, state => state
  | turns + 1, state =>
    match turn? state with
    | none => state
    | some next => settle turns next

/-- Let time pass until `limit` or until the system is where it was to go, within so many turns:
tasks that can run do so before the clock moves, and the clock stops at every deadline on the
way. -/
def runTo (arrived : σ → Bool) (limit : Nat) : Nat → σ → σ
  | 0, state => state
  | turns + 1, state =>
    if arrived state then state
    else
      -- The clock stands still while any task can run.
      match turn? state with
      | some next => runTo arrived limit turns next
      | none =>
        match nextDue? state with
        | some instant =>
          if instant ≤ limit then runTo arrived limit turns (strike instant state) else strike limit state
        | none => strike limit state

/-- Let time pass until `limit`, within so many turns. -/
def runUntil (limit : Nat) : Nat → σ → σ :=
  runTo (fun _ => false) limit

/-- No system is run for more turns than this at a stretch. -/
def patience : Nat := 1000000000

end Timed

end Uplink
