import Uplink.Flags.Register
import Uplink.Journal

/-!
One flag register with any number of waits in the background.

Each wait is a task of its own. It begins when its task first runs, is looked after whenever its
task is woken, and its answer is kept with the instant of its end. A wait that is cancelled ends
without an answer when its task's turn comes.
-/

namespace Uplink.Flags

/-- Where the task of a background wait stands. -/
inductive WaitStage where
  /-- It has not run yet. -/
  | called (condition : Condition) (timeout : Timeout)
  /-- It has begun its wait. -/
  | waiting (wait : Wait)
deriving Repr, DecidableEq

/-- A background wait that has not ended. -/
structure BackgroundWait where
  /-- What the caller knows it by. -/
  label : Nat
  stage : WaitStage
  /-- The caller has cancelled it. -/
  cancelled : Bool := false
deriving Repr, DecidableEq

/-- The deadline that a background wait has to meet, once it has parked. -/
def BackgroundWait.deadline? (wait : BackgroundWait) : Option Nat :=
  match wait.stage with
  | .called _ _ => none
  | .waiting state => state.deadline?

/-- How a background wait ended. -/
structure Ended where
  label : Nat
  /-- The instant of its end. -/
  instant : Nat
  /-- The bits that satisfied it, or zero. -/
  bits : UInt32
deriving Repr, DecidableEq

/-- A register, the waits on it, and those that have ended, the latest first. -/
structure Waits where
  agenda : Agenda := {}
  register : Register
  pending : List (TaskId × BackgroundWait) := []
  ended : List Ended := []
  telemetry : Telemetry := {}

namespace Waits

/-- A new register that nobody waits for. -/
def named (name : String) : Waits :=
  { register := { name } }

/-- Raise bits; the waits that they satisfy are woken. -/
def post (waits : Waits) (mask : UInt32) : Waits :=
  let (register, woken) := waits.register.post mask
  { waits with
    register := register
    agenda := waits.agenda.wakeAll woken
    telemetry := waits.telemetry.log .trace "Posted condition flags"
      [("flags", .text register.name), ("mask", .int mask.toNat), ("woken", .int woken.length)] }

/-- Clear every bit. -/
def reset (waits : Waits) : Waits :=
  { waits with
    register := waits.register.reset
    telemetry := waits.telemetry.log .trace "Reset condition flags" [("flags", .text waits.register.name)] }

/-- Start a wait in the background. -/
def start (waits : Waits) (label : Nat) (condition : Condition) (timeout : Timeout) : Waits :=
  let (task, agenda) := waits.agenda.spawn
  { waits with
    agenda := agenda
    pending := waits.pending ++ [(task, { label, stage := .called condition timeout })] }

/-- Whether a wait of this label has not ended and was not cancelled. -/
def isPending (waits : Waits) (label : Nat) : Bool :=
  waits.pending.any fun (_, wait) => wait.label = label && !wait.cancelled

/-- Cancel a wait: its task is woken and ends without an answer at its turn. -/
def cancel (waits : Waits) (label : Nat) : Waits :=
  match waits.pending.find? (fun (_, wait) => wait.label = label) with
  | none => waits
  | some (task, _) =>
    { waits with
      -- The wait is given up by its own task, which has to come to its turn for that.
      agenda := waits.agenda.wake task
      pending := waits.pending.map fun (other, wait) =>
        if other = task then (other, { wait with cancelled := true }) else (other, wait) }

/-- The task of a wait is no more. -/
def remove (waits : Waits) (task : TaskId) : Waits :=
  { waits with
    agenda := waits.agenda.yield
    pending := waits.pending.filter (·.1 ≠ task) }

/-- The wait of a task has come to a stage. -/
def setStage (waits : Waits) (task : TaskId) (stage : WaitStage) : Waits :=
  { waits with
    pending := waits.pending.map fun (other, wait) =>
      if other = task then (other, { wait with stage }) else (other, wait) }

/-- Look after the wait of a task: it ends with an answer, or goes on. -/
def look (waits : Waits) (task : TaskId) (label : Nat) (state : Wait) : Waits :=
  match waits.register.poll waits.agenda state with
  | (none, register) =>
    { waits.setStage task (.waiting state) with register := register, agenda := waits.agenda.yield }
  | (some bits, register) =>
    { waits with
      register := register
      ended := ⟨label, waits.agenda.now, bits⟩ :: waits.ended }.remove task

/-- One turn of a wait's task: it goes as far as it can at this instant. -/
def turnOf (waits : Waits) (task : TaskId) (wait : BackgroundWait) : Waits :=
  match wait.cancelled, wait.stage with
  -- A wait that never began has left nothing in the register.
  | true, .called _ _ => waits.remove task
  | true, .waiting state => { waits with register := waits.register.abandon state }.remove task
  -- A wait is looked after in the turn in which it begins, so what is satisfied never parks.
  | false, .called condition timeout =>
    let (state, register) := waits.register.wait waits.agenda task condition timeout
    { waits with register }.look task wait.label state
  | false, .waiting state => waits.look task wait.label state

/-- One turn of the task at the head of the line. -/
def turn? (waits : Waits) : Option Waits :=
  match waits.agenda.ready with
  | [] => none
  | task :: _ =>
    match waits.pending.lookup task with
    -- A task that was woken and then ended may still stand in line.
    | none => some { waits with agenda := waits.agenda.yield }
    | some wait => some (waits.turnOf task wait)

/-- Set the clock; the waits whose deadline has come are woken. -/
def strike (instant : Nat) (waits : Waits) : Waits :=
  let agenda := { waits.agenda with now := instant }
  let due := waits.pending.filter fun (_, wait) => agenda.reached (wait.deadline?)
  { waits with agenda := agenda.wakeAll (due.map (·.1)) }

/-- A register passes its time with the waits on it. -/
instance : Timed Waits where
  turn? := turn?
  nextDue? waits := waits.agenda.nextOf (waits.pending.map fun (_, wait) => wait.deadline?)
  strike := strike

/-- Run every task that can run. -/
def settle (waits : Waits) : Waits :=
  Timed.settle Timed.patience waits

/-- Let so many milliseconds pass. -/
def advance (waits : Waits) (span : Nat) : Waits :=
  Timed.runUntil (waits.agenda.now + span) Timed.patience waits

/-- Take the waits that have ended since they were last taken, by label. -/
def takeEnded (waits : Waits) : List Ended × Waits :=
  -- Waits of one label stay in the order in which they ended.
  (waits.ended.reverse.mergeSort (fun one other => one.label ≤ other.label), { waits with ended := [] })

end Waits

end Uplink.Flags
